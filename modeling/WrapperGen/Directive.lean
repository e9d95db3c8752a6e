import WrapperGen.Context
import WrapperGen.Log

/-!
# Directives

A directive is a comment line of a source. It asks for an import, chooses a converter for a type,
or declares a function. A directive either is refused and changes nothing, or changes its own
component of the context.
-/

namespace WrapperGen

/-- What every directive line begins with. -/
def directivePrefix : Text := "//ugo:callable"

/-- What follows the beginning of a directive line, by kind, with its payload. -/
inductive Directive where
  | importing (payload : Text)
  | converting (payload : Text)
  | declaring (payload : Text)
  deriving DecidableEq, Repr

namespace Directive

/-- The word that makes a directive an import. -/
def importWord : Text := ":import"

/-- The word that makes a directive choose a converter. -/
def convertWord : Text := ":convert"

/-- The directive with a rest, if the rest has the form of one. -/
def ofRest? (rest : Text) : Option Directive :=
  match importWord.isPrefixOf? rest with
  | some payload => some (importing payload)
  | none =>
    match convertWord.isPrefixOf? rest with
    | some payload => some (converting payload)
    | none =>
      match rest with
      | c :: payload => if Text.isPadding c then some (declaring payload) else none
      | [] => none

/-- The kind of a directive in records. -/
def kindWord : Directive → Text
  | importing _ => "import"
  | converting _ => "convert"
  | declaring _ => "signature"

/-- Whether the directive declares a function. -/
def isDeclaring : Directive → Bool
  | declaring _ => true
  | _ => false

end Directive

/-- The package that an import directive asks for; a payload of padding asks for none. -/
def Import.ofPayload (payload : Text) : Except DirectiveFault (Option Import) := do
  let text := Text.trim payload
  match text with
  | [] => return none
  | c :: _ =>
    let (localName, literal) ←
      if c = '"' ∨ c = '\x60' then pure ([], text)
      else
        match Text.fields text with
        | [localName, literal] => pure (localName, literal)
        | _ => throw (.badImport text)
    match Literal.unquote literal with
    | .ok path => return some ⟨path, localName⟩
    | .error fault => throw (.badLiteral fault literal text)

/-- A type and the routine that is to convert to it. -/
structure Conversion where
  type : Text
  routine : Text
  deriving DecidableEq, Repr

/-- What a convert directive chooses; a blank payload chooses nothing. -/
def Conversion.ofPayload (payload : Text) : Except DirectiveFault (Option Conversion) :=
  match Text.fields (Text.trim payload) with
  | [] => .ok none
  | [type, routine] => .ok (some ⟨type, routine⟩)
  | _ => .error (.badConversion (Text.trim payload))

namespace Context

/-- The scheme that names the functions of a run. -/
def nameScheme (context : Context) : NameScheme := .builtin context.exported

/-- The context after a package is asked for. -/
def addImport (entry : Import) (context : Context) : Except Failure Context :=
  match context.imports.add entry.path entry.localName with
  | .ok imports => .ok { context with imports }
  | .error conflict => .error (.importConflict conflict)

/-- The context after a converter is chosen. -/
def addConversion (conversion : Conversion) (context : Context) : Context :=
  { context with
    registry := context.registry.register conversion.type (.routine conversion.routine) }

/-- The context with one more function. -/
def addFunction (function : Function) (context : Context) : Context :=
  { context with functions := context.functions ++ [function] }

/-- The context after an import directive. -/
def applyImport (payload : Text) (context : Context) : Except Failure Context :=
  match Import.ofPayload payload with
  | .error fault => .error (.directive fault)
  | .ok none => .ok context
  | .ok (some entry) => context.addImport entry

/-- The context after a convert directive. -/
def applyConversion (payload : Text) (context : Context) : Except Failure Context :=
  match Conversion.ofPayload payload with
  | .error fault => .error (.directive fault)
  | .ok none => .ok context
  | .ok (some conversion) => .ok (context.addConversion conversion)

/-- The function that a signature directive declares. -/
def declaredFunction (payload origin : Text) (context : Context) :
    Except SignatureFault Function :=
  (Signature.ofText payload).map (Function.ofSignature context.nameScheme origin)

/-- The context after a signature directive. -/
def applyDeclaration (payload origin : Text) (context : Context) : Except Failure Context :=
  match context.declaredFunction payload origin with
  | .error fault => .error (.signature fault)
  | .ok function => .ok (context.addFunction function)

/-- The context after a directive of a source. -/
def apply (origin : Text) (directive : Directive) (context : Context) : Except Failure Context :=
  match directive with
  | .importing payload => context.applyImport payload
  | .converting payload => context.applyConversion payload
  | .declaring payload => context.applyDeclaration payload origin

/-! ## Records of what directives do -/

/-- The record of a package that is new among the imports. -/
def importRecord (entry : Import) : LogRecord :=
  ⟨.debug, .imports,
    (if entry.isExternal then "Added external import " else "Added runtime import ") ++
      entry.render⟩

/-- The records of an import directive. -/
def importRecords (payload : Text) (context : Context) : List LogRecord :=
  match Import.ofPayload payload with
  | .ok (some entry) =>
    (context.imports.newEntry? entry.path entry.localName).toList.map importRecord
  | _ => []

/-- The records of a convert directive. -/
def conversionRecords (payload : Text) (context : Context) : List LogRecord :=
  match Conversion.ofPayload payload with
  | .ok (some conversion) =>
    let overriding : List LogRecord :=
      if (Table.find? context.registry conversion.type).isSome then
        [⟨.debug, .converters, "Overriding converter for " ++ Text.quoted conversion.type⟩]
      else []
    overriding ++
      [⟨.debug, .scanning,
        "Converter for " ++ Text.quoted conversion.type ++ " set to " ++
          Text.quoted conversion.routine⟩]
  | _ => []

/-- The record of a signature that has been read. -/
def signatureRecord (signature : Signature) : LogRecord :=
  ⟨.debug, .signatures,
    "Parsed signature " ++ Text.quoted signature.name ++ ": " ++
      Text.decimal signature.params.length ++ " parameters, " ++
      Text.decimal signature.returns.count ++ " results"⟩

/-- The records of a signature directive. -/
def declarationRecords (payload : Text) (context : Context) : List LogRecord :=
  match Signature.ofText payload with
  | .error _ => []
  | .ok signature =>
    let naming : List LogRecord :=
      if signature.name = placeholder then
        [⟨.debug, .naming,
          "Synthesized name " ++ Text.quoted (context.nameScheme.synthesize signature) ++ " for " ++
            Text.quoted signature.source⟩]
      else []
    signatureRecord signature :: naming

/-- The records of a directive. -/
def records (directive : Directive) (context : Context) : List LogRecord :=
  match directive with
  | .importing payload => context.importRecords payload
  | .converting payload => context.conversionRecords payload
  | .declaring payload => context.declarationRecords payload

end Context

end WrapperGen
