import WrapperGen.Source

/-!
# String literals of Go

An interpreted literal stands between double quotes and may hold escapes; a raw literal stands
between back-quotes. `Literal.quote` writes the interpreted literal of a text and
`Literal.unquote` reads a literal of either kind. Escapes denote bytes, so a value is
decoded from UTF-8 only after all units of the literal have been read.
-/

namespace WrapperGen.Literal

/-- How a character is written in an interpreted literal. -/
def quoteChar (c : Char) : Text :=
  if c = '\\' then "\\\\"
  else if c = '"' then "\\\""
  else if c = '\n' then "\\n"
  else if c = '\t' then "\\t"
  else [c]

/-- The interpreted literal of a text. -/
def quote (text : Text) : Text := '"' :: text.flatMap quoteChar ++ ['"']

/-- Why a text is not the literal of any value. -/
inductive Fault where
  /-- The text is not delimited as a literal. -/
  | malformed
  /-- An octal escape stands for no byte. -/
  | octalTooLarge
  /-- A code point escape stands for no Unicode scalar value. -/
  | invalidCodePoint
  /-- A backslash before a character with which it forms no escape. -/
  | unknownEscape (c : Char)
  /-- The bytes of the value are not valid UTF-8. -/
  | invalidUtf8
  deriving DecidableEq, Repr

/-- What is said about a literal with the fault. -/
def Fault.message (literal : Text) : Fault → Text
  | malformed => "invalid syntax: " ++ literal
  | octalTooLarge => "octal escape value > 255 in " ++ literal
  | invalidCodePoint => "escape sequence is invalid Unicode code point in " ++ literal
  | unknownEscape c => "invalid escape sequence \\" ++ [c] ++ " in " ++ literal
  | invalidUtf8 => "invalid UTF-8 in " ++ literal

/-- Whether the characters after an opening double quote are units of a literal and its end. -/
def closesInterpreted : Text → Bool
  | [] => false
  | [c] => c == '"'
  | c :: d :: rest =>
    if c = '\\' then d != '\n' && closesInterpreted rest
    else c != '"' && c != '\n' && closesInterpreted (d :: rest)

/-- Whether the characters after an opening back-quote hold no other one but the last. -/
def closesRaw : Text → Bool
  | [] => false
  | [c] => c == '\x60'
  | c :: rest => c != '\x60' && closesRaw rest

/-- Whether the text is delimited as a literal. -/
def isDelimited : Text → Bool
  | '"' :: rest => closesInterpreted rest
  | '\x60' :: rest => closesRaw rest
  | _ => false

/-- The text without one line feed at its end. -/
def dropFinalLineFeed (text : Text) : Text :=
  if text.getLast? = some '\n' then text.dropLast else text

/-- The value of a hexadecimal digit. -/
def hexDigit? (c : Char) : Option Nat :=
  if '0' ≤ c ∧ c ≤ '9' then some (c.toNat - '0'.toNat)
  else if 'a' ≤ c ∧ c ≤ 'f' then some (c.toNat - 'a'.toNat + 10)
  else if 'A' ≤ c ∧ c ≤ 'F' then some (c.toNat - 'A'.toNat + 10)
  else none

/-- The value of an octal digit. -/
def octalDigit? (c : Char) : Option Nat :=
  if '0' ≤ c ∧ c ≤ '7' then some (c.toNat - '0'.toNat) else none

/-- The number written by exactly the digits of the text. -/
def number? (digit? : Char → Option Nat) (base : Nat) (digits : Text) : Option Nat :=
  (digits.mapM digit?).map (·.foldl (fun n d => n * base + d) 0)

/-- The number written by the first `count` characters and the text after them. -/
def leadingNumber? (digit? : Char → Option Nat) (base count : Nat) (text : Text) :
    Option (Nat × Text) :=
  if (text.take count).length = count then
    (number? digit? base (text.take count)).map fun n => (n, text.drop count)
  else none

/-- The character denoted by a backslash and a single character. -/
def simpleEscape? (c : Char) : Option Char :=
  if c = 'a' then some '\x07'
  else if c = 'b' then some '\x08'
  else if c = 'f' then some '\x0c'
  else if c = 'n' then some '\n'
  else if c = 'r' then some '\r'
  else if c = 't' then some '\t'
  else if c = 'v' then some '\x0b'
  else if c = '\\' then some '\\'
  else if c = '"' then some '"'
  else none

/-- The bytes of a code point escape. -/
def codePointBytes (n : Nat) : Except Fault (List UInt8) :=
  if n.isValidChar then .ok (String.utf8EncodeChar (Char.ofNat n)) else .error .invalidCodePoint

/-- The byte of an octal escape. -/
def octalByte (n : Nat) : Except Fault (List UInt8) :=
  if n ≤ 0xFF then .ok [n.toUInt8] else .error .octalTooLarge

/-- The bytes of a backslash and a character that begin no numeric escape. -/
def simpleBytes (c : Char) : Except Fault (List UInt8) :=
  match simpleEscape? c with
  | some d => .ok (String.utf8EncodeChar d)
  | none => .error (.unknownEscape c)

/--
The bytes of the escape made of a backslash, `c` and the beginning of `rest`, and the text after
it. A backslash that begins no numeric escape takes one character with it.
-/
def readEscape (c : Char) (rest : Text) : Except Fault (List UInt8) × Text :=
  let numeric : Option (Except Fault (List UInt8) × Text) :=
    if c = 'x' then
      (leadingNumber? hexDigit? 16 2 rest).map fun (n, after) => (.ok [n.toUInt8], after)
    else if c = 'u' then
      (leadingNumber? hexDigit? 16 4 rest).map fun (n, after) => (codePointBytes n, after)
    else if c = 'U' then
      (leadingNumber? hexDigit? 16 8 rest).map fun (n, after) => (codePointBytes n, after)
    else
      (leadingNumber? octalDigit? 8 3 (c :: rest)).map fun (n, after) => (octalByte n, after)
  numeric.getD (simpleBytes c, rest)

theorem length_leadingNumber? {digit? : Char → Option Nat} {base count n : Nat}
    {text after : Text} (h : leadingNumber? digit? base count text = some (n, after)) :
    after.length + count = text.length := by
  unfold leadingNumber? at h
  split at h
  · next hcount =>
    simp only [Option.map_eq_some_iff, Prod.mk.injEq] at h
    obtain ⟨_, _, _, rfl⟩ := h
    simp only [List.length_take] at hcount
    simp only [List.length_drop]
    omega
  · simp at h

/-- An escape is read off the front of the text. -/
theorem length_readEscape (c : Char) (rest : Text) :
    (readEscape c rest).2.length ≤ rest.length := by
  unfold readEscape
  simp only []
  split
  · cases h : leadingNumber? hexDigit? 16 2 rest with
    | none => simp
    | some p => have := length_leadingNumber? h; simp; omega
  · split
    · cases h : leadingNumber? hexDigit? 16 4 rest with
      | none => simp
      | some p => have := length_leadingNumber? h; simp; omega
    · split
      · cases h : leadingNumber? hexDigit? 16 8 rest with
        | none => simp
        | some p => have := length_leadingNumber? h; simp; omega
      · cases h : leadingNumber? octalDigit? 8 3 (c :: rest) with
        | none => simp
        | some p => have := length_leadingNumber? h; simp at this ⊢; omega

/-- The bytes of the units of an interpreted literal, up to the first fault. -/
def unitBytes : Text → Except Fault (List UInt8)
  | [] => .ok []
  | [c] => .ok (String.utf8EncodeChar c)
  | c :: d :: rest =>
    if c = '\\' then
      match (readEscape d rest).1 with
      | .error fault => .error fault
      | .ok bytes => (unitBytes (readEscape d rest).2).map (bytes ++ ·)
    else (unitBytes (d :: rest)).map (String.utf8EncodeChar c ++ ·)
termination_by text => text.length
decreasing_by
  · have := length_readEscape d rest
    simp only [List.length_cons]
    omega
  · simp

/-- The value of the characters between double quotes. -/
def interpretedValue (body : Text) : Except Fault Text :=
  match unitBytes body with
  | .error fault => .error fault
  | .ok bytes =>
    match Text.decode? bytes with
    | some value => .ok value
    | none => .error .invalidUtf8

/--
The value of a literal. One line feed may follow the closing delimiter; it is then the line feed
that is dropped as the last character, and the delimiter counts as part of the value. Carriage
returns are no part of a raw literal's value.
-/
def unquote (literal : Text) : Except Fault Text :=
  if isDelimited (dropFinalLineFeed literal) then
    let body := literal.tail.dropLast
    if literal.head? = some '\x60' then .ok (body.filter (· != '\r')) else interpretedValue body
  else .error .malformed

end WrapperGen.Literal
