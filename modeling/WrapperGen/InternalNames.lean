import WrapperGen.Text

/-!
# Names a wrapper declares for itself

A wrapper declares four identifiers beside the parameters of the function it wraps. Each is a base
name, or the base name with the least number that makes it differ from every parameter name.
-/

namespace WrapperGen

/-- The base name, or the first of `base0`, `base1`, … that is not in use. -/
def freshName (base : Text) (used : List Text) : Text :=
  if used.contains base then
    match (List.range (used.length + 1)).find? fun k => !used.contains (base ++ Text.decimal k) with
    | some k => base ++ Text.decimal k
    | none => base
  else base

/-- The identifiers that a wrapper declares for itself. -/
structure InternalNames where
  callee : Text
  args : Text
  result : Text
  error : Text
  deriving DecidableEq, Repr

/-- Internal names that differ from every name in use. -/
def InternalNames.avoiding (used : List Text) : InternalNames where
  callee := freshName "fn" used
  args := freshName "args" used
  result := freshName "ret" used
  error := freshName "err" used

end WrapperGen
