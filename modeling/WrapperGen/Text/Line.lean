import WrapperGen.Text

/-!
# Lines

A line ends at any of ten line breaks; a carriage return directly followed by a line feed is one
break. No line follows a break at the end of the text.

Lines are cut out of lists of any kind of element that shows a character, so that the lines of a
text and the lines of a source with undecodable bytes are the same notion.
-/

namespace WrapperGen.Text

/-- Whether a line ends at the character. -/
def isLineBreak (c : Char) : Bool :=
  c == '\n' || c == '\x0b' || c == '\x0c' || c == '\r' || c == '\x1c' || c == '\x1d' ||
    c == '\x1e' || c == '\u0085' || c == '\u2028' || c == '\u2029'

variable {α : Type}

/-- The list without the carriage returns that stand directly before a line feed. -/
def dropPairedReturns (shown : α → Char) : List α → List α
  | [] => []
  | [a] => [a]
  | a :: b :: rest =>
    if shown a = '\r' ∧ shown b = '\n' then dropPairedReturns shown (b :: rest)
    else a :: dropPairedReturns shown (b :: rest)

/-- The pieces that end at a break, and the last piece if it is not empty. -/
def piecesBy (isBreak : α → Bool) : List α → List (List α)
  | [] => []
  | a :: rest =>
    if isBreak a then [] :: piecesBy isBreak rest
    else
      match piecesBy isBreak rest with
      | [] => [[a]]
      | piece :: pieces => (a :: piece) :: pieces

/-- The lines of a list whose elements show characters. -/
def linesBy (shown : α → Char) (items : List α) : List (List α) :=
  piecesBy (fun a => isLineBreak (shown a)) (dropPairedReturns shown items)

/-- The lines of a text, without their breaks. -/
def lines (text : Text) : List Text := linesBy id text

/-- The tabs put in front of a line at an indentation level. -/
def tabs (level : Int) : Text := List.replicate level.toNat '\t'

/-- A line with the tabs of `level` in front of it; an empty line stays empty. -/
def indentLine (level : Int) (line : Text) : Text :=
  if line.isEmpty then line else tabs level ++ line

/--
The lines of the text joined by line feeds, with `level` tabs in front of every non-empty line
after the first, and of the first one if `first` is set. A text without a line stays as it is.
-/
def indent (text : Text) (level : Int) (first : Bool) : Text :=
  match lines text with
  | [] => text
  | head :: rest =>
    join ['\n'] ((if first then tabs level ++ head else head) :: rest.map (indentLine level))

end WrapperGen.Text
