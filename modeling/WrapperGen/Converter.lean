import WrapperGen.Runtime
import WrapperGen.Table

/-!
# Converters

An argument reaches a wrapper as a value of the runtime; a converter says how the wrapper takes a
value of a parameter's type out of it. The registry assigns converters to types; a type without a
converter of its own takes that of the same type qualified with the runtime's package.
-/

namespace WrapperGen

/-- How an argument becomes the value of a parameter. -/
inductive Converter where
  /-- By calling a routine that says whether it succeeded. -/
  | routine (name : Text)
  /-- By taking the argument as it is; the text describes the rule. -/
  | direct (description : Text)
  deriving DecidableEq, Repr

/-- The name a routine is called by under a qualifier: inside the runtime it is unqualified. -/
def routineName (qualifier routine : Text) : Text :=
  if qualifier.isEmpty then (Runtime.qualifier.isPrefixOf? routine).getD routine else routine

/-- The name a converter is called by under a qualifier. A direct one is not called. -/
def Converter.calledName? (qualifier : Text) : Converter → Option Text
  | routine name => some (routineName qualifier name)
  | direct _ => none

/-- The routines that convert the built-in types. -/
def builtinRoutines : List (Text × Text) := [
  ("string", "ugo.ToGoString"),
  ("[]byte", "ugo.ToGoByteSlice"),
  ("int", "ugo.ToGoInt"),
  ("int64", "ugo.ToGoInt64"),
  ("uint64", "ugo.ToGoUint64"),
  ("float64", "ugo.ToGoFloat64"),
  ("rune", "ugo.ToGoRune"),
  ("bool", "ugo.ToGoBool"),
  ("ugo.String", "ugo.ToString"),
  ("ugo.Bytes", "ugo.ToBytes"),
  ("ugo.Int", "ugo.ToInt"),
  ("ugo.Uint", "ugo.ToUint"),
  ("ugo.Float", "ugo.ToFloat"),
  ("ugo.Char", "ugo.ToChar"),
  ("ugo.Bool", "ugo.ToBool"),
  ("ugo.Array", "ugo.ToArray"),
  ("ugo.Map", "ugo.ToMap"),
  ("*ugo.SyncMap", "ugo.ToSyncMap")]

/-- The names under which a type is known to scripts, where they are not the type itself. -/
def scriptTypeNames : List (Text × Text) := [
  ("ugo.Object", "object"),
  ("ugo.String", "string"),
  ("ugo.Bytes", "bytes"),
  ("ugo.Map", "map"),
  ("ugo.SyncMap", "syncMap"),
  ("ugo.Array", "array"),
  ("ugo.Float", "float"),
  ("ugo.Int", "int"),
  ("ugo.Uint", "uint"),
  ("ugo.Char", "char"),
  ("string", "string"),
  ("byte", "char"),
  ("[]byte", "bytes"),
  ("int64", "int"),
  ("uint64", "uint"),
  ("float64", "float"),
  ("rune", "char"),
  ("error", "error"),
  ("*Time", "time"),
  ("*Location", "location")]

/-- The name under which a type is known to scripts. -/
def scriptTypeName (type : Text) : Text :=
  ((scriptTypeNames.lookup type) <|> scriptTypeNames.lookup (Runtime.qualifier ++ type)).getD type

/-- The converters of one run, by type. -/
abbrev Registry := Table Converter

namespace Registry

/-- The registry that every run begins with. -/
def builtin : Registry :=
  builtinRoutines.map (fun (type, routine) => (type, .routine routine)) ++
    [(Runtime.objectType, .direct "positional extraction")]

/-- The registry in which a type has a converter, whatever it had before. -/
def register (type : Text) (converter : Converter) (registry : Registry) : Registry :=
  Table.insert type converter registry

/-- The converter of a type: its own, or that of the qualified type. -/
def lookup (registry : Registry) (type : Text) : Option Converter :=
  Table.find? registry type <|> Table.find? registry (Runtime.qualifier ++ type)

/-- The entries that differ from those every run begins with. -/
def changes (registry : Registry) : Registry :=
  registry.filter fun (type, converter) => Table.find? builtin type != some converter

end Registry

end WrapperGen
