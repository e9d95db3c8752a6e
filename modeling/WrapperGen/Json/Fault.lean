import WrapperGen.Text

/-!
# Faults and limits of JSON documents

A fault is reported with its place: the line and the column, counted from one, and the number of
characters in front of it. A document without a fault may still be too large to be read; how large
it may be is a parameter.
-/

namespace WrapperGen

/-- What is wrong at a place of a document. -/
inductive JsonCause where
  | expectedValue
  | expectedName
  | expectedColon
  | expectedComma
  | extraData
  | unterminatedString
  | controlCharacter
  | unknownEscape
  | badCodePoint
  | byteOrderMark
  deriving DecidableEq, Repr

/-- What is said about a cause. -/
def JsonCause.message : JsonCause → Text
  | expectedValue => "Expecting value"
  | expectedName => "Expecting property name enclosed in double quotes"
  | expectedColon => "Expecting ':' delimiter"
  | expectedComma => "Expecting ',' delimiter"
  | extraData => "Extra data"
  | unterminatedString => "Unterminated string starting at"
  | controlCharacter => "Invalid control character at"
  | unknownEscape => "Invalid \\escape"
  | badCodePoint => "Invalid \\uXXXX escape"
  | byteOrderMark => "Unexpected UTF-8 BOM (decode using utf-8-sig)"

/-- A cause at a place. -/
structure JsonFault where
  cause : JsonCause
  line : Nat
  column : Nat
  offset : Nat
  deriving DecidableEq, Repr

namespace JsonFault

/-- The fault with a cause after the first `offset` characters of a document. -/
def within (document : Text) (cause : JsonCause) (offset : Nat) : JsonFault :=
  let before := document.take offset
  { cause
    line := before.count '\n' + 1
    column := (before.reverse.takeWhile (· != '\n')).length + 1
    offset }

/-- What is said about the fault. -/
def message (fault : JsonFault) : Text :=
  fault.cause.message ++ ": line " ++ Text.decimal fault.line ++ " column " ++
    Text.decimal fault.column ++ " (char " ++ Text.decimal fault.offset ++ ")"

end JsonFault

/-- How large a document may be, which the system of a run decides. -/
structure JsonLimits where
  /-- The greatest depth of a value: how many arrays and objects it may stand in or be. -/
  depth : Nat
  /-- The greatest number of digits of an integer. -/
  digits : Nat
  deriving DecidableEq, Repr

/-- The limits that hold unless the system sets others. -/
def JsonLimits.standard : JsonLimits := ⟨988, 4300⟩

/-- A number of digits, and the greatest one that is allowed. -/
structure DigitExcess where
  allowed : Nat
  count : Nat
  deriving DecidableEq, Repr

/-- What a document may be too large in. -/
inductive JsonLimit where
  /-- Its values stand too deep in one another. -/
  | depth
  /-- An integer has too many digits. -/
  | digits (excess : DigitExcess)
  deriving DecidableEq, Repr

/-- What is said about a document that is too large; of its depth, nothing is. -/
def JsonLimit.message : JsonLimit → Text
  | depth => []
  | digits excess =>
    "Exceeds the limit (" ++ Text.decimal excess.allowed ++
      " digits) for integer string conversion: value has " ++ Text.decimal excess.count ++
      " digits; use sys.set_int_max_str_digits() to increase the limit"

end WrapperGen
