import WrapperGen.Text

/-!
# Function signatures

The shape of a wrapped function: its name, its parameters and what it returns. Types are single
tokens that are never looked into.
-/

namespace WrapperGen

/-- A named, typed entry of a parameter or result list, with its place in the list. -/
structure Param where
  name : Text
  type : Text
  position : Nat
  deriving DecidableEq, Repr

/-- The type of an entry that carries failure information. -/
def errorType : Text := "error"

/-- Whether the entry carries failure information. -/
def Param.isError (param : Param) : Bool := param.type == errorType

/-- What a function returns: at most one value, then at most one error. -/
structure Returns where
  value : Option Param
  hasError : Bool
  deriving DecidableEq, Repr

namespace Returns

/-- A function that returns nothing. -/
def none : Returns := ⟨.none, false⟩

/-- The result entries in declaration order, the error last. -/
def entries (returns : Returns) : List Param :=
  let values := returns.value.toList
  if returns.hasError then values ++ [⟨"err", errorType, values.length⟩] else values

/-- How many results there are. -/
def count (returns : Returns) : Nat := returns.entries.length

/-- The result types in parentheses; nothing if there is nothing to list. -/
def typeList (returns : Returns) : Text :=
  let types := Text.join ", " (returns.entries.map Param.type)
  if types.isEmpty then [] else "(" ++ types ++ ")"

end Returns

/-- A function to be wrapped, with the line it was declared by. -/
structure Signature where
  name : Text
  params : List Param
  returns : Returns
  source : Text
  deriving DecidableEq, Repr

namespace Signature

/-- The parameter names in order. -/
def paramNames (signature : Signature) : List Text := signature.params.map Param.name

/-- The parameter types in order, separated by commas. -/
def paramTypeList (signature : Signature) : Text :=
  Text.join ", " (signature.params.map Param.type)

end Signature

end WrapperGen
