import StackProse.Character.Property

/-!
# Names of groups

A group can have a name, which begins with a letter or a low line and goes on with letters, numbers
and a few signs. Names may use the letters of edition 17.0 of the Unicode standard, which the
properties of characters do not know yet; they are listed here.
-/

namespace StackProse.Pattern.GroupName

/-- Letters that edition 17.0 added. -/
def laterLetters : Recipe :=
  .ranges
    "88f c5c cdc a7ce-a7cf a7d2 a7d4 a7f1 10940-10959 10ec5-10ec7 10efa-10efb 11b60-11b67
     11db0-11ddb 16ea0-16eb8 16ebb-16ed3 16ff2-16ff6 187f8-187ff 18d09-18d1e 18d80-18df2
     1e6c0-1e6de 1e6e0-1e6f5 1e6fe-1e6ff 2b73a-2b73f 2cea2-2cead 323b0-33479"

/-- Numbers that edition 17.0 added. -/
def laterNumbers : Recipe :=
  .ranges "11de0-11de9 16ff4-16ff6"

/-- The letters of names. -/
def letters : CharSet :=
  (Recipe.any [Property.alphabetic, laterLetters]).set

/-- The letters and numbers of names. -/
def lettersAndNumbers : CharSet :=
  (Recipe.any [Property.alphabetic, laterLetters, .categories Category.numbers, laterNumbers]).set

/-- Whether a name may begin with a character. -/
def starts (c : Char) : Bool :=
  c == '_' || letters.contains c

/-- Whether a name may go on with a character. -/
def continues (c : Char) : Bool :=
  c == '_' || c == '.' || c == '[' || c == ']' || lettersAndNumbers.contains c

end StackProse.Pattern.GroupName
