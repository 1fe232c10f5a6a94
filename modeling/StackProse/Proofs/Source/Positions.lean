import StackProse.Proofs.Source.Tiling

/-!
# Rows and columns

A position is found by looking up an offset among the offsets at which lines begin. What it should
be is said by the bytes of the text alone: the row is the number of line breaks before the offset, and
the column is the number of bytes since the last one of them (`Position.counted`). Both agree at every
offset up to the end of the text, also at one inside of a character (`Position.ofOffset_lineStarts`).

Lines begin behind characters and are counted in bytes here, so the byte of a line break must not
occur in the encoding of any other character (`mem_utf8EncodeChar_iff`).
-/

namespace StackProse

/-- The byte of a line break. -/
def lineBreak : UInt8 :=
  0x0a

/-- The byte of a line break is no part of another character. -/
theorem mem_utf8EncodeChar_iff {c : Char} : lineBreak ∈ String.utf8EncodeChar c ↔ c = '\n' := by
  constructor
  · intro hmem
    have hten (n : Nat) (h : lineBreak = UInt8.ofNat n) : n % 256 = 10 := by
      simpa [lineBreak] using (congrArg UInt8.toNat h).symm
    have hcode : c.val.toNat = 10 := by
      -- all bytes of a longer encoding are at least 128
      unfold String.utf8EncodeChar at hmem
      dsimp only at hmem
      split at hmem
      · have := hten _ (List.mem_singleton.1 hmem)
        omega
      · split at hmem <;> [skip; split at hmem] <;>
          simp only [List.mem_cons, List.not_mem_nil, or_false] at hmem
        · rcases hmem with h | h <;> have := hten _ h <;> omega
        · rcases hmem with h | h | h <;> have := hten _ h <;> omega
        · rcases hmem with h | h | h | h <;> have := hten _ h <;> omega
    exact Char.ext (UInt32.toNat.inj hcode)
  · rintro rfl
    decide

/-- The offsets just behind each line break of bytes that begin at `offset`. -/
def byteLineStarts (offset : Nat) : List UInt8 → List Nat
  | [] => []
  | byte :: rest =>
      if byte = lineBreak then (offset + 1) :: byteLineStarts (offset + 1) rest
      else byteLineStarts (offset + 1) rest

theorem byteLineStarts_append (offset : Nat) (first second : List UInt8) :
    byteLineStarts offset (first ++ second) =
      byteLineStarts offset first ++ byteLineStarts (offset + first.length) second := by
  induction first generalizing offset with
  | nil => rfl
  | cons byte rest ih =>
      have hoffset : offset + 1 + rest.length = offset + (rest.length + 1) := by omega
      rw [List.cons_append, byteLineStarts, byteLineStarts, ih, hoffset, List.length_cons]
      split <;> rfl

theorem byteLineStarts_of_not_mem (offset : Nat) {bytes : List UInt8} (h : lineBreak ∉ bytes) :
    byteLineStarts offset bytes = [] := by
  induction bytes generalizing offset with
  | nil => rfl
  | cons byte rest ih =>
      rw [List.mem_cons, not_or] at h
      rw [byteLineStarts, if_neg (Ne.symm h.1), ih _ h.2]

theorem lineStartsFrom_eq (offset : Nat) (text : List Char) :
    lineStartsFrom offset text = byteLineStarts offset (utf8Bytes text) := by
  induction text generalizing offset with
  | nil => rfl
  | cons c rest ih =>
      rw [lineStartsFrom, utf8Bytes, List.flatMap_cons, byteLineStarts_append,
        String.length_utf8EncodeChar]
      rw [ih]
      split
      · next hbreak =>
        subst hbreak
        rfl
      · next hbreak =>
        rw [byteLineStarts_of_not_mem offset (mt mem_utf8EncodeChar_iff.1 hbreak)]
        rfl

theorem lt_of_mem_byteLineStarts {offset start : Nat} {bytes : List UInt8}
    (h : start ∈ byteLineStarts offset bytes) : offset < start := by
  induction bytes generalizing offset with
  | nil => nomatch h
  | cons byte rest ih =>
      rw [byteLineStarts] at h
      split at h
      · rcases List.mem_cons.1 h with rfl | h
        · exact Nat.lt_succ_self offset
        · exact Nat.lt_of_succ_lt (ih h)
      · exact Nat.lt_of_succ_lt (ih h)

/-- The lines that have begun at a place are those that begin within the bytes before it. -/
theorem takeWhile_byteLineStarts (offset count : Nat) (bytes : List UInt8) :
    (byteLineStarts offset bytes).takeWhile (· ≤ offset + count) =
      byteLineStarts offset (bytes.take count) := by
  induction count generalizing offset bytes with
  | zero =>
      rw [List.take_zero, byteLineStarts]
      cases hstarts : byteLineStarts offset bytes with
      | nil => rfl
      | cons start rest =>
          have hlt : offset < start := lt_of_mem_byteLineStarts (hstarts ▸ List.mem_cons_self)
          rw [List.takeWhile_cons_of_neg]
          simpa using hlt
  | succ count ih =>
      cases bytes with
      | nil => rfl
      | cons byte rest =>
          have hoffset : offset + (count + 1) = offset + 1 + count := by omega
          rw [List.take_succ_cons, byteLineStarts, byteLineStarts, hoffset]
          split
          · rw [List.takeWhile_cons_of_pos (by simp), ih]
          · exact ih _ _

theorem length_byteLineStarts (offset : Nat) (bytes : List UInt8) :
    (byteLineStarts offset bytes).length = bytes.count lineBreak := by
  induction bytes generalizing offset with
  | nil => rfl
  | cons byte rest ih =>
      rw [byteLineStarts, List.count_cons]
      split <;> simp_all

/-- What is behind the beginning of the last line are the bytes since the last line break. -/
theorem getLastD_byteLineStarts (bytes : List UInt8) :
    (byteLineStarts 0 bytes).getLastD 0 + (bytes.reverse.takeWhile (· ≠ lineBreak)).length =
      bytes.length := by
  -- the last byte either begins a line behind it or makes the last line longer
  induction bytes using List.reverseRecOn with
  | nil => rfl
  | append_singleton bytes byte ih =>
      rw [byteLineStarts_append, byteLineStarts, List.reverse_append, List.length_append]
      by_cases hbreak : byte = lineBreak
      · simp [hbreak, byteLineStarts]
      · have hline : ([byte].reverse ++ bytes.reverse).takeWhile (· ≠ lineBreak) =
            byte :: bytes.reverse.takeWhile (· ≠ lineBreak) := by
          simp [hbreak]
        rw [hline, if_neg hbreak, byteLineStarts, List.append_nil, List.length_cons,
          List.length_singleton, ← Nat.add_assoc, ih]

namespace Position

/-- The position of an offset, counted from the bytes before it. -/
def counted (source : List Char) (offset : Nat) : Position :=
  let before := (utf8Bytes source).take offset
  ⟨before.count lineBreak, (before.reverse.takeWhile (· ≠ lineBreak)).length⟩

/-- Positions are what is counted, as far as the text goes. -/
theorem ofOffset_lineStarts {source : List Char} {offset : Nat} (h : offset ≤ utf8Length source) :
    ofOffset (lineStarts source) offset = counted source offset := by
  have hreached : (lineStarts source).takeWhile (· ≤ offset) =
      0 :: byteLineStarts 0 ((utf8Bytes source).take offset) := by
    have htake := takeWhile_byteLineStarts 0 offset (utf8Bytes source)
    rw [Nat.zero_add] at htake
    rw [lineStarts, List.takeWhile_cons_of_pos (by simp), lineStartsFrom_eq, htake]
  have hlength : ((utf8Bytes source).take offset).length = offset := by
    rw [List.length_take, length_utf8Bytes, Nat.min_eq_left h]
  have hlast := getLastD_byteLineStarts ((utf8Bytes source).take offset)
  rw [ofOffset, hreached, counted]
  simp only [List.length_cons, Nat.add_sub_cancel, length_byteLineStarts, mk.injEq, true_and,
    List.getLastD_cons]
  omega

end Position

end StackProse
