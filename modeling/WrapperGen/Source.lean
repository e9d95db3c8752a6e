import WrapperGen.Text.Line

/-!
# Sources

A source is read from bytes that need not be valid UTF-8: a comment in another encoding must not
stop a run. Every maximal stretch of valid UTF-8 gives its characters, and every other byte is
kept as one undecodable symbol. An undecodable symbol is shown as U+FFFD, which is neither a
blank, nor a line break, nor a word character.
-/

namespace WrapperGen

/-- One element of a source: a character, or a byte that belongs to none. -/
inductive Symbol where
  | char (c : Char)
  | undecodable (byte : UInt8)
  deriving DecidableEq, Repr

namespace Symbol

/-- The character that stands for a symbol where only characters count. -/
def shown : Symbol → Char
  | char c => c
  | undecodable _ => '\uFFFD'

/-- The character of a symbol that has one. -/
def char? : Symbol → Option Char
  | char c => some c
  | undecodable _ => none

end Symbol

/-- A source: what its bytes decode to. -/
abbrev Source := List Symbol

namespace Source

/-- The source that consists of the characters of a text. -/
def ofText (text : Text) : Source := text.map .char

/-- The source with U+FFFD in place of every undecodable byte. -/
def shown (source : Source) : Text := source.map Symbol.shown

/-- The text of a source without undecodable bytes. -/
def text? (source : Source) : Option Text := source.mapM Symbol.char?

/-- The source without the padding at both of its ends. -/
def trim (source : Source) : Source :=
  Text.stripBy (fun symbol => Text.isPadding symbol.shown) source

/-- The lines of the source. An undecodable byte ends no line. -/
def lines (source : Source) : List Source := Text.linesBy Symbol.shown source

end Source

/-- The UTF-8 bytes of a text. -/
def Text.encode (text : Text) : List UInt8 := text.flatMap String.utf8EncodeChar

/-- The character whose UTF-8 bytes the list begins with. -/
def firstChar? (bytes : List UInt8) : Option Char := (bytes.take 4).toByteArray.utf8DecodeChar? 0

/-- What the bytes decode to; no byte is lost. -/
def Source.decode : List UInt8 → Source
  | [] => []
  | b :: rest =>
    match firstChar? (b :: rest) with
    | some c => .char c :: decode (rest.drop (c.utf8Size - 1))
    | none => .undecodable b :: decode rest
termination_by bytes => bytes.length
decreasing_by all_goals (simp only [List.length_drop, List.length_cons]; omega)

/-- The text with exactly these UTF-8 bytes, if they are valid UTF-8. -/
def Text.decode? (bytes : List UInt8) : Option Text := (Source.decode bytes).text?

end WrapperGen
