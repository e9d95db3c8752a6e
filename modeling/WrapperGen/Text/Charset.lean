import WrapperGen.Text

/-!
# Character sets

A stream encodes what is written on it. An encoding need not have a code for every character, and
a text is taken as a whole or not at all.
-/

namespace WrapperGen

/-- The characters that an encoding has codes for. -/
inductive Charset where
  /-- Every character has a code. -/
  | unicode
  | only (chars : List Char)
  deriving DecidableEq, Repr

/-- Whether every character of a text has a code. -/
def Charset.takes : Charset → Text → Bool
  | unicode, _ => true
  | only chars, text => text.all chars.contains

end WrapperGen
