import WrapperGen.Text
import WrapperGen.Text.Printable

/-!
# Quoted form

Messages show the text they complain about in quotes, on one line and with every character that
cannot be seen written as an escape.
-/

namespace WrapperGen.Text

/-- The apostrophe, the usual delimiter of a quoted form. -/
def apostrophe : Char := '\x27'

/-- How a character is written between the delimiters `delimiter`. -/
def quotedChar (delimiter c : Char) : Text :=
  if c = delimiter ∨ c = '\\' then ['\\', c]
  else if c = '\t' then "\\t"
  else if c = '\n' then "\\n"
  else if c = '\r' then "\\r"
  else if isPrintable c then [c]
  else if c.toNat < 0x100 then "\\x" ++ hexadecimal 2 c.toNat
  else if c.toNat < 0x10000 then "\\u" ++ hexadecimal 4 c.toNat
  else "\\U" ++ hexadecimal 8 c.toNat

/--
The delimiter of a text's quoted form: the apostrophe, unless the text holds one and no double
quote.
-/
def delimiterFor (text : Text) : Char :=
  if text.contains apostrophe && !text.contains '"' then '"' else apostrophe

/-- The text in quotes, on one line. -/
def quoted (text : Text) : Text :=
  let delimiter := delimiterFor text
  delimiter :: text.flatMap (quotedChar delimiter) ++ [delimiter]

end WrapperGen.Text
