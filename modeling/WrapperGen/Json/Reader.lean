import WrapperGen.Json
import WrapperGen.Json.Fault
import WrapperGen.Literal

/-!
# Reading JSON

Every reader takes what is left of the document and gives back what is left after it. A fault is
raised with what is left at its place, which `Json.read` turns into a line and a column. A document
is read from left to right, so of a fault and a limit the one that is met first counts. Beside the
values of the format the reader accepts `NaN`, `Infinity` and `-Infinity`.
-/

namespace WrapperGen.Json

/-- Why reading stops. -/
inductive Stop where
  /-- At a cause, with what is left of the document at its place. -/
  | fault (cause : JsonCause) (rest : Text)
  /-- At a limit. -/
  | limit (reached : JsonLimit)

/-- What a reader gives: a value with what is left after it, or a stop. -/
abbrev Reading (α : Type) := Except Stop (α × Text)

/-- Whether the character may stand between the tokens of a document. -/
def isGap (c : Char) : Bool := c == ' ' || c == '\t' || c == '\n' || c == '\r'

/-- What is left after the gap that a text begins with. -/
def skipGap (text : Text) : Text := text.dropWhile isGap

/-- The number written by four hexadecimal digits. -/
def codeUnit? (a b c d : Char) : Option Nat := Literal.number? Literal.hexDigit? 16 [a, b, c, d]

/-- The character denoted by a backslash and another character. -/
def simpleEscape? (c : Char) : Option Char :=
  if c = '"' ∨ c = '\\' ∨ c = '/' then some c
  else if c = 'b' then some '\x08'
  else if c = 'f' then some '\x0c'
  else if c = 'n' then some '\n'
  else if c = 'r' then some '\r'
  else if c = 't' then some '\t'
  else none

/-- Whether the code unit is the first half of a surrogate pair. -/
def isHighSurrogate (n : Nat) : Bool := 0xD800 ≤ n && n < 0xDC00

/-- Whether the code unit is the second half of a surrogate pair. -/
def isLowSurrogate (n : Nat) : Bool := 0xDC00 ≤ n && n < 0xE000

/-- What a code unit alone stands for: a character, or half of a surrogate pair. -/
def unitAlone (n : Nat) : StringUnit := if n.isValidChar then .char (Char.ofNat n) else .half n

/-- The character of a surrogate pair. -/
def pairChar (high low : Nat) : Char :=
  Char.ofNat (0x10000 + (high - 0xD800) * 0x400 + (low - 0xDC00))

/-- A unit in front of a reading. -/
def consUnit (unit : StringUnit) (reading : Reading (List StringUnit)) :
    Reading (List StringUnit) :=
  reading.map fun (units, rest) => (unit :: units, rest)

/--
What a string consists of up to its closing quote. `opening` is what is left of the document at
the opening quote. A code point escape needs a character after its four digits, and a pair needs
one after its eight.
-/
def readString (opening : Text) : Text → Reading (List StringUnit)
  | [] => .error (.fault .unterminatedString opening)
  | '"' :: rest => .ok ([], rest)
  | '\\' :: 'u' :: a :: b :: c :: d :: '\\' :: 'u' :: e :: f :: g :: h :: i :: rest =>
    match codeUnit? a b c d with
    | none =>
      .error (.fault .badCodePoint
        ('u' :: a :: b :: c :: d :: '\\' :: 'u' :: e :: f :: g :: h :: i :: rest))
    | some first =>
      if isHighSurrogate first then
        match codeUnit? e f g h with
        | none => .error (.fault .badCodePoint ('u' :: e :: f :: g :: h :: i :: rest))
        | some second =>
          if isLowSurrogate second then
            consUnit (.char (pairChar first second)) (readString opening (i :: rest))
          else
            consUnit (unitAlone first)
              (readString opening ('\\' :: 'u' :: e :: f :: g :: h :: i :: rest))
      else
        consUnit (unitAlone first)
          (readString opening ('\\' :: 'u' :: e :: f :: g :: h :: i :: rest))
  | '\\' :: 'u' :: a :: b :: c :: d :: i :: rest =>
    match codeUnit? a b c d with
    | none => .error (.fault .badCodePoint ('u' :: a :: b :: c :: d :: i :: rest))
    | some n => consUnit (unitAlone n) (readString opening (i :: rest))
  | '\\' :: 'u' :: rest => .error (.fault .badCodePoint ('u' :: rest))
  | ['\\'] => .error (.fault .unterminatedString opening)
  | '\\' :: e :: rest =>
    match simpleEscape? e with
    | some c => consUnit (.char c) (readString opening rest)
    | none => .error (.fault .unknownEscape ('\\' :: e :: rest))
  | c :: rest =>
    if c.toNat < 0x20 then .error (.fault .controlCharacter (c :: rest))
    else consUnit (.char c) (readString opening rest)

/-- The digits that a text begins with, and what is left after them. -/
def digits (text : Text) : Text × Text :=
  (text.takeWhile Char.isDigit, text.dropWhile Char.isDigit)

/-- The fraction that a text begins with: a point and at least one digit. -/
def fraction (text : Text) : Text × Text :=
  match text with
  | '.' :: rest =>
    let (ds, after) := digits rest
    if ds.isEmpty then ([], text) else ('.' :: ds, after)
  | _ => ([], text)

/-- The exponent that a text begins with: a letter, perhaps a sign, and at least one digit. -/
def exponent (text : Text) : Text × Text :=
  match text with
  | e :: rest =>
    if e = 'e' ∨ e = 'E' then
      let sign := (rest.take 1).filter fun c => c == '+' || c == '-'
      let (ds, after) := digits (rest.drop sign.length)
      if ds.isEmpty then ([], text) else (e :: sign ++ ds, after)
    else ([], text)
  | [] => ([], text)

/-- The whole part that a text begins with: a zero, or digits that begin with another one. -/
def wholePart (text : Text) : Text × Text :=
  match text with
  | '0' :: rest => (['0'], rest)
  | _ => digits text

/-- The natural number with the digits. -/
def natural (ds : Text) : Nat := ds.foldl (fun n d => n * 10 + (d.toNat - '0'.toNat)) 0

/-- The words that stand for values. -/
def words : List (Text × Json) := [
  ("null", .null), ("true", .bool true), ("false", .bool false), ("NaN", .real "NaN"),
  ("Infinity", .real "Infinity"), ("-Infinity", .real "-Infinity")]

/-! ## Within limits -/

section Limits

variable (limits : JsonLimits)

/-- The number that a text begins with; it ends where its grammar ends. -/
def readNumber (text : Text) : Reading Json :=
  let sign : Text := if text.head? = some '-' then ['-'] else []
  let (whole, afterWhole) := wholePart (text.drop sign.length)
  let (frac, afterFrac) := fraction afterWhole
  let (exp, rest) := exponent afterFrac
  if whole.isEmpty then .error (.fault .expectedValue text)
  else if !frac.isEmpty || !exp.isEmpty then .ok (.real (sign ++ whole ++ frac ++ exp), rest)
  else if limits.digits < whole.length then
    .error (.limit (.digits ⟨limits.digits, whole.length⟩))
  else
    let value : Int := natural whole
    .ok (.int (if sign.isEmpty then value else -value), rest)

/-- The word or the number that a text begins with. -/
def readScalar (text : Text) : Reading Json :=
  let word := words.findSome? fun (word, value) =>
    (word.isPrefixOf? text).map fun rest => (value, rest)
  match word with
  | some reading => .ok reading
  | none => readNumber limits text

mutual

/--
The value that a text begins with. Every value within it is read with less fuel. `room` is how many
arrays and objects may stand in one another here.
-/
def readValue : Nat → Nat → Text → Reading Json
  | 0, _, text => .error (.fault .expectedValue text)
  | fuel + 1, room, text =>
    match text with
    | '"' :: rest => (readString text rest).map fun (units, rest) => (ofUnits units, rest)
    | '{' :: rest =>
      if room = 0 then .error (.limit .depth)
      else
        match skipGap rest with
        | '}' :: after => .ok (.object [], after)
        | start =>
          (readMembers fuel (room - 1) [] start).map fun (members, rest) => (.object members, rest)
    | '[' :: rest =>
      if room = 0 then .error (.limit .depth)
      else
        match skipGap rest with
        | ']' :: after => .ok (.array [], after)
        | start => (readItems fuel (room - 1) start).map fun (items, rest) => (.array items, rest)
    | _ => readScalar limits text

/-- The members of an object, after those that have been read, up to the closing brace. -/
def readMembers : Nat → Nat → Table Json → Text → Except Stop (Table Json × Text)
  | 0, _, _, text => .error (.fault .expectedName text)
  | fuel + 1, room, members, text =>
    match text with
    | '"' :: rest => do
      let (name, afterName) ← readString text rest
      match skipGap afterName with
      | ':' :: afterColon =>
        let (value, afterValue) ← readValue fuel room (skipGap afterColon)
        let members := Table.insert (shownUnits name) value members
        match skipGap afterValue with
        | '}' :: after => .ok (members, after)
        | ',' :: after => readMembers fuel room members (skipGap after)
        | after => .error (.fault .expectedComma after)
      | after => .error (.fault .expectedColon after)
    | _ => .error (.fault .expectedName text)

/-- The items of an array up to the closing bracket. -/
def readItems : Nat → Nat → Text → Except Stop (List Json × Text)
  | 0, _, text => .error (.fault .expectedValue text)
  | fuel + 1, room, text => do
    let (value, afterValue) ← readValue fuel room text
    match skipGap afterValue with
    | ']' :: after => .ok ([value], after)
    | ',' :: after =>
      let (items, rest) ← readItems fuel room (skipGap after)
      .ok (value :: items, rest)
    | after => .error (.fault .expectedComma after)

end

/--
The value of a whole document, or why reading it stops. Two units of fuel for every character are
enough, because no two readings in a row leave the text as it is.
-/
def readDocument (document : Text) : Except Stop Json := do
  if document.head? = some '\uFEFF' then throw (.fault .byteOrderMark document)
  let (value, rest) ←
    readValue limits (2 * document.length + 2) limits.depth (skipGap document)
  if (skipGap rest).isEmpty then return value else throw (.fault .extraData (skipGap rest))

end Limits

/-- What keeps a document from being read, by its place in the document. -/
def Stop.within (document : Text) : Stop → JsonFault ⊕ JsonLimit
  | fault cause rest => .inl (.within document cause (document.length - rest.length))
  | limit reached => .inr reached

/-- The value that a document holds, if it is within the limits. -/
def read (limits : JsonLimits) (document : Text) : Except (JsonFault ⊕ JsonLimit) Json :=
  (readDocument limits document).mapError (Stop.within document)

end WrapperGen.Json
