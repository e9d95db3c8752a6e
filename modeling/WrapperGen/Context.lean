import WrapperGen.Converter
import WrapperGen.Failure
import WrapperGen.Function

/-!
# The context of a run

Everything that one run has learnt from the sources: the package, the functions to wrap, the
imports and the converters, beside the two switches of the run.
-/

namespace WrapperGen

/-- What a run has learnt so far. -/
structure Context where
  /-- Whether synthesized names are exported. -/
  exported : Bool := false
  /-- Whether only cursor wrappers are written. -/
  extendedOnly : Bool := false
  /-- The package of the sources, once one has been scanned. -/
  package : Option Text := none
  functions : List Function := []
  imports : ImportSet := .initial
  registry : Registry := .builtin
  deriving DecidableEq, Repr

namespace Context

/-- Whether the generated file belongs to the runtime's own package. -/
def isRuntime (context : Context) : Bool := context.package == some Runtime.package

/-- What names of the runtime are qualified with. -/
def qualifier (context : Context) : Text := if context.isRuntime then [] else Runtime.qualifier

/-- The imports of the language's own library that the generated file needs. -/
def runtimeImports (context : Context) : List Import :=
  if context.extendedOnly then
    context.imports.runtime.filter fun entry => !context.imports.isImplicit entry.path
  else context.imports.runtime

/-- The external imports of the generated file: the runtime is one of them outside its package. -/
def externalImports (context : Context) : List Import :=
  if context.isRuntime || context.imports.contains Runtime.importPath then
    context.imports.external
  else Import.insertSorted ⟨Runtime.importPath, []⟩ context.imports.external

end Context

end WrapperGen
