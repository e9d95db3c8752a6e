import WrapperGen.Converter
import WrapperGen.Function

/-!
# Wrappers

A function is wrapped in two conventions. A positional wrapper takes its arguments as a sequence
and indexes it; a cursor wrapper takes a call object, lets it check the count, and asks it for
arguments one by one. Everything else is the same in both.

A wrapper is a value made of parts (how an argument is reached, how it is taken, what is called);
each part has its text as Go source.
-/

namespace WrapperGen

/-- How a wrapper receives its arguments. -/
inductive Convention where
  | positional
  | cursor
  deriving DecidableEq, Repr

/-- The expression for the argument at an index of the container of arguments. -/
structure Access where
  convention : Convention
  container : Text
  index : Nat
  deriving DecidableEq, Repr

/-- The expression as Go source. -/
def Access.text (access : Access) : Text :=
  match access.convention with
  | .positional => access.container ++ "[" ++ Text.decimal access.index ++ "]"
  | .cursor => access.container ++ ".Get(" ++ Text.decimal access.index ++ ")"

/-- A block of one statement under a head. -/
def block (head statement : Text) : Text := head ++ " \x7b\n\t" ++ statement ++ "\n\x7d"

/-- How a parameter is bound to its argument. -/
inductive Extraction where
  /-- The argument is taken as it is. -/
  | direct (target : Text) (access : Access)
  /-- A routine converts the argument; if it fails, the expected type is reported. -/
  | checked (target : Text) (access : Access) (routine expected : Text)
  deriving DecidableEq, Repr

namespace Extraction

/-- The name that is bound. -/
def target : Extraction → Text
  | direct target _ => target
  | checked target _ _ _ => target

/-- The argument that is taken. -/
def access : Extraction → Access
  | direct _ access => access
  | checked _ access _ _ => access

/-- The statements as Go source, with runtime names under a qualifier. -/
def text (qualifier : Text) : Extraction → Text
  | direct target access => target ++ " := " ++ access.text
  | checked target access routine expected =>
    target ++ ", ok := " ++ routineName qualifier routine ++ "(" ++ access.text ++ ")\n" ++
      block "if !ok" ("return " ++ qualifier ++ "Undefined, " ++ qualifier ++
        "NewArgumentTypeError(\"" ++ Text.ordinal (access.index + 1) ++ "\", \"" ++ expected ++
        "\", " ++ access.text ++ ".TypeName())")

/-- The extraction of a parameter by means of a converter. -/
def ofParam (convention : Convention) (container : Text) (converter : Converter) (param : Param) :
    Extraction :=
  let access : Access := ⟨convention, container, param.position⟩
  match converter with
  | .direct _ => direct param.name access
  | .routine name => checked param.name access name (scriptTypeName param.type)

end Extraction

/-- A function wrapped in a convention, with runtime names under a qualifier. -/
structure Wrapper where
  convention : Convention
  qualifier : Text
  function : Function
  extractions : List Extraction
  deriving DecidableEq, Repr

/-- A parameter type that no converter is registered for. -/
structure MissingConverter where
  type : Text
  deriving DecidableEq, Repr

/-- The converter of a type. -/
def Registry.resolve (registry : Registry) (type : Text) : Except MissingConverter Converter :=
  match registry.lookup type with
  | some converter => .ok converter
  | none => .error ⟨type⟩

/-- The extractions of a list of parameters, up to the first type without a converter. -/
def Extraction.ofParams (registry : Registry) (convention : Convention) (container : Text)
    (params : List Param) : Except MissingConverter (List Extraction) :=
  params.mapM fun param => do
    return Extraction.ofParam convention container (← registry.resolve param.type) param

namespace Wrapper

/-- The wrapper of a function in a convention. -/
def ofFunction (registry : Registry) (qualifier : Text) (convention : Convention)
    (function : Function) : Except MissingConverter Wrapper := do
  let extractions ←
    Extraction.ofParams registry convention function.internal.args function.params
  return ⟨convention, qualifier, function, extractions⟩

/-- The name that the wrapper is declared under. -/
def name (wrapper : Wrapper) : Text :=
  match wrapper.convention with
  | .positional => wrapper.function.name
  | .cursor => cursorName wrapper.function.name

/-- The type of the wrapper. -/
def callableType (wrapper : Wrapper) : Text :=
  wrapper.qualifier ++
    match wrapper.convention with
    | .positional => "CallableFunc"
    | .cursor => "CallableExFunc"

/-- The type of what the wrapper returns. -/
def objectType (wrapper : Wrapper) : Text := wrapper.qualifier ++ "Object"

/-- The line that declared the function. -/
def source (wrapper : Wrapper) : Text := wrapper.function.signature.source

/-- The name of the wrapped function inside the wrapper. -/
def callee (wrapper : Wrapper) : Text := wrapper.function.internal.callee

/-- The name of the container of arguments. -/
def args (wrapper : Wrapper) : Text := wrapper.function.internal.args

/-- The name of the result. -/
def result (wrapper : Wrapper) : Text := wrapper.function.internal.result

/-- The name of the error. -/
def error (wrapper : Wrapper) : Text := wrapper.function.internal.error

/-- The parameter types of the wrapped function. -/
def paramTypes (wrapper : Wrapper) : Text := wrapper.function.signature.paramTypeList

/-- The result types of the wrapped function, set off by a space. -/
def resultTypes (wrapper : Wrapper) : Text :=
  let types := wrapper.function.signature.returns.typeList
  if types.isEmpty then [] else " " ++ types

/-- The declaration of the container of arguments. -/
def argsDeclaration (wrapper : Wrapper) : Text :=
  match wrapper.convention with
  | .positional => wrapper.args ++ " ..." ++ wrapper.objectType
  | .cursor => wrapper.args ++ " " ++ wrapper.qualifier ++ "Call"

/-- The value that stands for no result. -/
def undefined (wrapper : Wrapper) : Text := wrapper.qualifier ++ "Undefined"

/-- The statements that return early unless the wrapper got as many arguments as parameters. -/
def guard (wrapper : Wrapper) : Text :=
  let count := Text.decimal wrapper.function.params.length
  match wrapper.convention with
  | .positional =>
    block ("if len(" ++ wrapper.args ++ ") != " ++ count)
      ("return " ++ wrapper.undefined ++ ", " ++ wrapper.qualifier ++
        "ErrWrongNumArguments.NewError(\"want=" ++ count ++ " got=\" + strconv.Itoa(len(" ++
        wrapper.args ++ ")))")
  | .cursor =>
    block ("if " ++ wrapper.error ++ " := " ++ wrapper.args ++ ".CheckLen(" ++ count ++ "); " ++
        wrapper.error ++ " != nil")
      ("return " ++ wrapper.undefined ++ ", " ++ wrapper.error)

/-- The statements that bind the parameters, in order. -/
def extractionTexts (wrapper : Wrapper) : List Text :=
  wrapper.extractions.map (Extraction.text wrapper.qualifier)

/-- The call of the wrapped function. -/
def invocation (wrapper : Wrapper) : Text :=
  wrapper.callee ++ "(" ++ Text.join ", " wrapper.function.signature.paramNames ++ ")"

/-- The statements that call the wrapped function and set the result and the error. -/
def call (wrapper : Wrapper) : Text :=
  let noResult := "\n" ++ wrapper.result ++ " = " ++ wrapper.undefined
  let returns := wrapper.function.signature.returns
  match returns.value.isSome, returns.hasError with
  | true, true => wrapper.result ++ ", " ++ wrapper.error ++ " = " ++ wrapper.invocation
  | true, false => wrapper.result ++ " = " ++ wrapper.invocation
  | false, true => wrapper.error ++ " = " ++ wrapper.invocation ++ noResult
  | false, false => wrapper.invocation ++ noResult

end Wrapper

end WrapperGen
