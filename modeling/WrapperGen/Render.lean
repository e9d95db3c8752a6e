import WrapperGen.Context
import WrapperGen.Layout
import WrapperGen.Log

/-!
# Rendering a context

The generated file wraps every function in every convention of the run: all cursor wrappers first,
then all positional ones, each in the order of declaration. That every type has a converter is
checked before anything is written.
-/

namespace WrapperGen.Context

/-- The conventions that functions are wrapped in, in the order of the file. -/
def conventions (context : Context) : List Convention :=
  if context.extendedOnly then [.cursor] else [.cursor, .positional]

/-- The wrapper of a function of the context. -/
def wrapper (context : Context) (convention : Convention) (function : Function) :
    Except MissingConverter Wrapper :=
  Wrapper.ofFunction context.registry context.qualifier convention function

/-- The wrappers in the order of the file. -/
def wrappers (context : Context) : Except MissingConverter (List Wrapper) := do
  let groups ← context.conventions.mapM fun convention =>
    context.functions.mapM (context.wrapper convention)
  return groups.flatten

/-- The first parameter type of a function that has no converter. -/
def missingType? (registry : Registry) (function : Function) : Option Text :=
  (function.params.find? fun param => (registry.lookup param.type).isNone).map Param.type

/-- The first parameter type without a converter, and the name of the function that uses it. -/
def firstMissing? (context : Context) : Option (Text × Text) :=
  context.functions.findSome? fun function =>
    (missingType? context.registry function).map fun type => (type, function.name)

/-- Fails for the first parameter type without a converter. -/
def validate (context : Context) : Except Failure Unit :=
  match context.firstMissing? with
  | some (type, function) => .error (.missingConverter type (some function))
  | none => .ok ()

/-- The text of the generated file. -/
def render (context : Context) : Except Failure Text :=
  match context.package with
  | none => .error .noPackage
  | some package => do
    context.validate
    match context.wrappers with
    | .error missing => throw (.missingConverter missing.type none)
    | .ok wrappers =>
      return fileText package context.runtimeImports context.externalImports wrappers

/-- The record of a file that has been rendered. -/
def renderRecord (context : Context) (text : Text) : LogRecord :=
  ⟨.info, .rendering,
    "Rendered " ++ Text.decimal context.functions.length ++ " functions (" ++
      (if context.extendedOnly then "cursor only" else "cursor and positional") ++ "), " ++
      Text.decimal text.length ++ " characters"⟩

end WrapperGen.Context
