import WrapperGen.Text.Blank
import WrapperGen.Text.Word

/-!
# The package clause

A source declares its package in a clause that only trivia may precede: white space, `//` comments
up to the next line feed, and `/* … */` comments. The reader looks at nothing after the name, so
the rest of the source need not be valid Go.
-/

namespace WrapperGen.PackageClause

/-- Why no package name can be read. -/
inductive Fault where
  /-- A `/*` comment has no end. -/
  | unterminatedComment
  /-- The clause does not begin with the keyword. -/
  | missingKeyword
  /-- No name follows the keyword. -/
  | missingName
  /-- The name is the blank identifier. -/
  | blankName
  deriving DecidableEq, Repr

/-- What is said about a source with the fault. -/
def Fault.message : Fault → Text
  | unterminatedComment => "comment not terminated"
  | missingKeyword => "expected 'package'"
  | missingName => "expected package name"
  | blankName => "invalid package name _"

/-- The keyword of the clause. -/
def keyword : Text := "package"

/-- The byte order mark, ignored at the very beginning. -/
def byteOrderMark : Char := '\uFEFF'

/-- The text after the next line feed; nothing is left if there is none. -/
def dropLine (text : Text) : Text := (text.dropWhile (· != '\n')).drop 1

/-- The text after the end of a block comment that has been opened. -/
def dropBlockComment? : Text → Option Text
  | [] => none
  | [_] => none
  | c :: d :: rest =>
    if c = '*' ∧ d = '/' then some rest else dropBlockComment? (d :: rest)

theorem length_dropLine (text : Text) : (dropLine text).length ≤ text.length := by
  have h := (List.dropWhile_sublist (l := text) (· != '\n')).length_le
  simp only [dropLine, List.length_drop]
  omega

theorem length_dropBlockComment? {text rest : Text} (h : dropBlockComment? text = some rest) :
    rest.length ≤ text.length := by
  fun_induction dropBlockComment? text with
  | case1 => simp at h
  | case2 => simp at h
  | case3 c d after =>
    obtain rfl := Option.some.inj h
    simp only [List.length_cons]
    omega
  | case4 c d after _ ih =>
    have := ih h
    simp only [List.length_cons] at this ⊢
    omega

/-- The text after the white space and the comments that it begins with. -/
def skipTrivia : Text → Except Fault Text
  | [] => .ok []
  | c :: rest =>
    if Text.isBlank c then skipTrivia rest
    else
      match c, rest with
      | '/', '/' :: comment => skipTrivia (dropLine comment)
      | '/', '*' :: comment =>
        match _h : dropBlockComment? comment with
        | some after => skipTrivia after
        | none => .error .unterminatedComment
      | _, _ => .ok (c :: rest)
termination_by text => text.length
decreasing_by
  · simp
  · have := length_dropLine comment
    simp only [List.length_cons]
    omega
  · have := length_dropBlockComment? _h
    simp only [List.length_cons]
    omega

/-- The longest identifier the text begins with: word characters, no digit in front. -/
def identifier? : Text → Option Text
  | [] => none
  | c :: rest =>
    if Text.isWord c && !Text.isDigit c then some (c :: rest.takeWhile Text.isWord) else none

/-- The package name that follows the keyword. Something must separate the two. -/
def nameAfterKeyword (afterKeyword : Text) : Except Fault Text := do
  let afterTrivia ← skipTrivia afterKeyword
  if afterTrivia = afterKeyword ∧ afterTrivia ≠ [] then throw .missingKeyword
  match identifier? afterTrivia with
  | none => throw .missingName
  | some name => if name = ['_'] then throw .blankName else return name

/-- The name of the package that the source text declares. -/
def read (text : Text) : Except Fault Text := do
  let start := if text.head? = some byteOrderMark then text.tail else text
  match keyword.isPrefixOf? (← skipTrivia start) with
  | none => throw .missingKeyword
  | some afterKeyword => nameAfterKeyword afterKeyword

end WrapperGen.PackageClause
