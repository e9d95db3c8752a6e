import WrapperGen.InternalNames
import WrapperGen.SynthesizedName

/-!
# Declared functions

A signature becomes a function to wrap once it has its final name and the internal names of its
wrappers.
-/

namespace WrapperGen

/-- A function to wrap, with the label of the source that declared it. -/
structure Function where
  signature : Signature
  internal : InternalNames
  origin : Text
  deriving DecidableEq, Repr

namespace Function

/-- The function that a signature declares, under its final name. -/
def ofSignature (scheme : NameScheme) (origin : Text) (signature : Signature) : Function where
  signature := scheme.apply signature
  internal := .avoiding signature.paramNames
  origin := origin

/-- The name of the function, which is also that of its positional wrapper. -/
def name (function : Function) : Text := function.signature.name

/-- The parameters in order. -/
def params (function : Function) : List Param := function.signature.params

end Function

/-- The name of the cursor wrapper of the function with a name. -/
def cursorName (name : Text) : Text := name ++ "Ex"

end WrapperGen
