/-!
# Texts

A text is a list of Unicode scalar values, so that every reader below is a recursion on what is
left and every writer is an append. Lengths count characters.

This module holds the operations that need no character table: numerals, joining, finding the
first occurrence of a separator, and trimming spaces and tabs.
-/

namespace WrapperGen

/-- A text, character by character. -/
abbrev Text := List Char

/-- A string literal stands for its characters. -/
instance : Coe String Text := ⟨String.toList⟩

namespace Text

/-- Whether two texts stand in ascending order: the second does not come before the first. -/
def ascending (a b : Text) : Bool := !decide (b < a)

/-- The decimal numeral of a natural number. -/
def decimal (n : Nat) : Text := Nat.toDigits 10 n

/-- The decimal numeral of an integer, with a minus sign in front of a negative one. -/
def integer : Int → Text
  | .ofNat n => decimal n
  | .negSucc n => '-' :: decimal (n + 1)

/-- The hexadecimal numeral of `n` in lower case, padded with zeros to at least `width` digits. -/
def hexadecimal (width n : Nat) : Text :=
  let digits := Nat.toDigits 16 n
  List.replicate (width - digits.length) '0' ++ digits

/-- The texts one after the other, with `sep` between neighbours. -/
def join (sep : Text) (parts : List Text) : Text := List.intercalate sep parts

/--
What stands before and after the first occurrence of `sep`, if there is one. An empty separator
occurs at the very beginning.
-/
def cut? (sep : Text) : Text → Option (Text × Text)
  | [] => if sep.isEmpty then some ([], []) else none
  | c :: rest =>
    match sep.isPrefixOf? (c :: rest) with
    | some after => some ([], after)
    | none => (cut? sep rest).map fun (before, after) => (c :: before, after)

/-- Whether `part` occurs somewhere in the text. -/
def occurs (part text : Text) : Bool := (cut? part text).isSome

/-- The list without the elements satisfying `p` at its end. -/
def dropEndWhile {α : Type} (p : α → Bool) (items : List α) : List α :=
  (items.reverse.dropWhile p).reverse

/-- The list without the elements satisfying `p` at both of its ends. -/
def stripBy {α : Type} (p : α → Bool) (items : List α) : List α :=
  dropEndWhile p (items.dropWhile p)

/-- Padding is what may surround a directive and its parts on a line: spaces and tabs. -/
def isPadding (c : Char) : Bool := c == ' ' || c == '\t'

/-- The text without the padding at both of its ends. Inner padding stays. -/
def trim (text : Text) : Text := stripBy isPadding text

/-- The text with its ASCII letters in lower case; every other character stays. -/
def lowerAscii (text : Text) : Text := text.map Char.toLower

/-- The suffix that the last digits of a number take in an English ordinal. -/
def ordinalSuffix (n : Int) : Text :=
  if 11 ≤ n % 100 ∧ n % 100 ≤ 13 then "th"
  else if n % 10 = 1 then "st"
  else if n % 10 = 2 then "nd"
  else if n % 10 = 3 then "rd"
  else "th"

/--
The English ordinal of a number: `1st`, `12th`, `23rd`. The last digits of a negative number are
those of its floored remainder, so -9 is written like 1.
-/
def ordinal (n : Int) : Text := integer n ++ ordinalSuffix n

end Text

end WrapperGen
