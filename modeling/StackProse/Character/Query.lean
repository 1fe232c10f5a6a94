import StackProse.Character.Age
import StackProse.Character.Break

/-!
# Sets of characters by name

A set of characters can be asked for by the name of a property, of a general category or of a
script, and by a name together with a value, such as `script=greek`. Names are compared without
regard to case, blanks and joining marks, and a leading `is` does not count.
-/

namespace StackProse.CharSet

/-- Decimal digits. -/
def decimalDigits : CharSet :=
  Category.set .decimalNumber

/-- Blanks. -/
def blanks : CharSet :=
  Property.whiteSpace.set

/-- The characters of words: those of alphabets, marks, digits, and characters that connect. -/
def wordCharacters : CharSet :=
  (Recipe.any [Property.alphabetic, .categories Category.marks,
    .categories [.decimalNumber, .connectorPunctuation], Property.joinControl]).set

/-- The form in which names are compared. The name of comments among the properties, `isc`, keeps
its beginning. -/
def nameForm (name : List Char) : String :=
  let plain (text : List Char) : List Char :=
    (text.filter fun c => c.toNat < 128 && c != ' ' && c != '_' && c != '-').map Char.toLower
  String.ofList <|
    match name with
    | i :: s :: rest =>
        if i.toLower = 'i' && s.toLower = 's' then
          if plain rest = ['c'] then ['i', 's', 'c'] else plain rest
        else plain name
    | _ => plain name

/-- The set of a general category. -/
def category? (name : String) : Option CharSet :=
  match name with
  | "any" => some all
  | "assigned" => some (Category.set .unassigned).compl
  | "ascii" => some ascii
  | _ => (Category.named? name).map Category.sets

/-- The set with a name. Three names of categories are also names of properties that are no sets;
they stand for the categories. -/
def named? (name : String) : Option CharSet :=
  let property :=
    if name = "cf" || name = "sc" || name = "lc" then none
    else (Property.named? name).map Recipe.set
  (property.or (category? name)).or ((Script.named? name).map Script.set)

/-- The set with a value of a property. -/
def valued? (name value : String) : Option CharSet :=
  match name with
  | "gc" | "generalcategory" => category? value
  | "sc" | "script" => (Script.named? value).map Script.set
  | "scx" | "scriptextensions" => (Script.named? value).map Script.uses
  | "age" => Age.known? value
  | "gcb" | "graphemeclusterbreak" => (GraphemeBreak.named? value).map Recipe.set
  | "wb" | "wordbreak" => (WordBreak.named? value).map Recipe.set
  | "sb" | "sentencebreak" => (SentenceBreak.named? value).map Recipe.set
  | _ => none

/-- A text before and behind the first place where a mark stands. -/
def cutAt? (mark : List Char) : List Char → Option (List Char × List Char)
  | [] => none
  | c :: rest =>
      if mark.isPrefixOf (c :: rest) then some ([], (c :: rest).drop mark.length)
      else (cutAt? mark rest).map fun (before, after) => (c :: before, after)

/-- The set that a text asks for. A name and a value are divided by `!=`, else by `:`, else by `=`;
all three marks mean the same. -/
def query? (text : List Char) : Option CharSet :=
  match (cutAt? ['!', '='] text).or ((cutAt? [':'] text).or (cutAt? ['='] text)) with
  | some (name, value) => valued? (nameForm name) (nameForm value)
  | none => named? (nameForm text)

end StackProse.CharSet
