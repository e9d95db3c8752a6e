import WrapperGen.Text

/-!
# Delimited sections

A section is what stands between the first start delimiter of a text and the next end delimiter.
-/

namespace WrapperGen

/-- A text around its first section, or a text without one. -/
inductive Sectioned where
  /-- The trimmed text has no start delimiter. -/
  | without (text : Text)
  /-- What stands before the section, in it, and after it. -/
  | around (before body after : Text)
  deriving DecidableEq, Repr

/-- Why a text cannot be cut at its first section. -/
inductive SectionFault where
  /-- A delimiter that is looked for is empty. -/
  | emptyDelimiter
  /-- The section that begins in the text has no end. -/
  | unbalanced (text : Text)
  deriving DecidableEq, Repr

/-- The text cut at its first section; the part before the section is trimmed. -/
def Sectioned.ofText (start stop text : Text) : Except SectionFault Sectioned :=
  let text := Text.trim text
  if start.isEmpty then .error .emptyDelimiter
  else
    match Text.cut? start text with
    | none => .ok (.without text)
    | some (before, rest) =>
      if stop.isEmpty then .error .emptyDelimiter
      else
        match Text.cut? stop rest with
        | none => .error (.unbalanced text)
        | some (body, after) => .ok (.around (Text.trim before) body after)

end WrapperGen
