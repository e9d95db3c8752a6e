import WrapperGen.Runtime
import WrapperGen.Signature

/-!
# Synthesized names

A function declared under the placeholder takes a name made from its types alone: a prefix, a code
for every parameter type, a separator, and a code for every result type. So
`func(a int, b string) (error)` becomes `funcPisRe`.
-/

namespace WrapperGen

/-- The name in place of which a name is synthesized. -/
def placeholder : Text := "func"

/-- The short codes of the types that are used most. -/
def builtinTypeCodes : List (Text × Text) := [
  ("_", "p"),
  ("ugo.Object", "O"),
  ("ugo.String", "S"),
  ("ugo.Bytes", "B"),
  ("ugo.Map", "M"),
  ("ugo.SyncMap", "M2"),
  ("ugo.Array", "A"),
  ("ugo.Float", "F"),
  ("ugo.Int", "I"),
  ("ugo.Uint", "U"),
  ("ugo.Char", "C"),
  ("string", "s"),
  ("bool", "b"),
  ("byte", "b1"),
  ("[]byte", "b2"),
  ("int", "i"),
  ("int64", "i64"),
  ("uint64", "u64"),
  ("float64", "f64"),
  ("rune", "r"),
  ("error", "e")]

/-- How names are synthesized: whether they are exported, and the short codes in use. -/
structure NameScheme where
  exported : Bool
  codes : List (Text × Text)

namespace NameScheme

/-- The scheme with the built-in codes. -/
def builtin (exported : Bool) : NameScheme := ⟨exported, builtinTypeCodes⟩

/-- The short code of a type, if it has one. An empty code counts as none. -/
def code? (scheme : NameScheme) (type : Text) : Option Text :=
  (scheme.codes.lookup type).filter (!·.isEmpty)

/-- The text without one pointer mark in front. -/
def dropPointer : Text → Text
  | '*' :: rest => rest
  | text => text

/-- The code of a type without a short code of its own: that of its unqualified name, or itself. -/
def baseCode (scheme : NameScheme) (type : Text) : Text :=
  match Text.cut? "." type with
  | none => dropPointer type ++ "_"
  | some (_, name) => (scheme.code? (dropPointer name)).getD (dropPointer name ++ "_")

/-- The code of a type: a mark for a pointer, then the code of what it points to. -/
def typeCode (scheme : NameScheme) (type : Text) : Text :=
  let mark : Text := if type.head? = some '*' then "p" else []
  mark ++ ((scheme.code? type <|> scheme.code? (Runtime.qualifier ++ type)).getD
    (scheme.baseCode type))

/-- The codes of the types of a list of entries. -/
def typeCodes (scheme : NameScheme) (params : List Param) : Text :=
  params.flatMap fun param => scheme.typeCode param.type

/-- What a synthesized name begins with. -/
def namePrefix (scheme : NameScheme) : Text := if scheme.exported then "FuncP" else "funcP"

/-- The name that the types of a signature give. -/
def synthesize (scheme : NameScheme) (signature : Signature) : Text :=
  scheme.namePrefix ++ scheme.typeCodes signature.params ++ "R" ++
    scheme.typeCodes signature.returns.entries

/-- The name a function is wrapped under: its own, unless that is the placeholder. -/
def wrappedName (scheme : NameScheme) (signature : Signature) : Text :=
  if signature.name = placeholder then scheme.synthesize signature else signature.name

/-- The signature under the name that its function is wrapped under. -/
def apply (scheme : NameScheme) (signature : Signature) : Signature :=
  { signature with name := scheme.wrappedName signature }

end NameScheme

end WrapperGen
