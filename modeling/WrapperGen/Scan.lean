import WrapperGen.Directive
import WrapperGen.PackageClause

/-!
# Scanning sources

The directive lines of a source are applied one after the other; the first one that is refused
ends the scan and what was applied before it stays. The package is recorded after the last line.
-/

namespace WrapperGen

/-- A line of a source, without padding at its ends, and its number from one on. -/
structure NumberedLine where
  number : Nat
  line : Source
  deriving DecidableEq, Repr

namespace NumberedLine

/-- Whether the line is meant as a directive. -/
def isDirective (numbered : NumberedLine) : Bool :=
  directivePrefix.isPrefixOf numbered.line.shown

/-- What follows the beginning that directive lines share. -/
def rest (text : Text) : Text := text.drop directivePrefix.length

/-- The directive that a line is, which must consist of characters. -/
def directive (origin : Text) (numbered : NumberedLine) : Except DirectiveFault Directive :=
  match numbered.line.text? with
  | none => .error (.undecodable numbered.line origin numbered.number)
  | some text =>
    match Directive.ofRest? (rest text) with
    | some directive => .ok directive
    | none => .error (.unrecognized text origin numbered.number)

end NumberedLine

/-- The lines of a source that are meant as directives. -/
def Source.directiveLines (source : Source) : List NumberedLine :=
  (source.lines.zipIdx 1).map (fun (line, number) => ⟨number, line.trim⟩)
    |>.filter NumberedLine.isDirective

/-- Where a scan has come to: the context, and why it went no further. -/
structure ScanResult where
  context : Context
  failure : Option Failure
  deriving DecidableEq, Repr

namespace Context

/-- The context after a line that is meant as a directive. -/
def applyLine (origin : Text) (context : Context) (numbered : NumberedLine) :
    Except Failure Context :=
  match numbered.directive origin with
  | .error fault => .error (.directive fault)
  | .ok directive => context.apply origin directive

/-- Applies lines in order up to the first one that is refused. -/
def applyLines (origin : Text) : Context → List NumberedLine → ScanResult
  | context, [] => ⟨context, none⟩
  | context, numbered :: rest =>
    match context.applyLine origin numbered with
    | .ok next => next.applyLines origin rest
    | .error failure => ⟨context, some failure⟩

/-- The context in which the package of a source is recorded; all sources have the same one. -/
def recordPackage (origin : Text) (source : Source) (context : Context) : Except Failure Context :=
  match PackageClause.read source.shown with
  | .error fault => .error (.packageClause fault origin)
  | .ok name =>
    match context.package with
    | none => .ok { context with package := some name }
    | some first =>
      if first = name then .ok context else .error (.packageMismatch first name origin)

/-- Scans a source. -/
def scan (origin : Text) (source : Source) (context : Context) : ScanResult :=
  let applied := context.applyLines origin source.directiveLines
  match applied.failure with
  | some _ => applied
  | none =>
    match applied.context.recordPackage origin source with
    | .ok recorded => ⟨recorded, none⟩
    | .error failure => ⟨applied.context, some failure⟩

/-- Scans the file that a path leads to. -/
def scanFile (files : FileSystem) (path : Text) (context : Context) : ScanResult :=
  match files.read path with
  | .error fault => ⟨context, some (.file fault)⟩
  | .ok bytes => context.scan path (.decode bytes)

/-- Scans files in order up to the first one that fails. -/
def scanFiles (files : FileSystem) : Context → List Text → ScanResult
  | context, [] => ⟨context, none⟩
  | context, path :: paths =>
    let scanned := context.scanFile files path
    match scanned.failure with
    | none => scanned.context.scanFiles files paths
    | some _ => scanned

/-! ## Records of scans -/

/-- The record of a line that is a directive. -/
def lineRecord (origin : Text) (numbered : NumberedLine) (directive : Directive) : LogRecord :=
  ⟨.debug, .scanning,
    DirectiveFault.place origin numbered.number ++ ": " ++ directive.kindWord ++ " directive " ++
      Text.quoted (Text.strip (NumberedLine.rest numbered.line.shown))⟩

/-- The records of a line that is meant as a directive. -/
def lineRecords (origin : Text) (context : Context) (numbered : NumberedLine) : List LogRecord :=
  match numbered.directive origin with
  | .error _ => []
  | .ok directive => lineRecord origin numbered directive :: context.records directive

/-- The records of lines that are applied in order. -/
def linesRecords (origin : Text) : Context → List NumberedLine → List LogRecord
  | _, [] => []
  | context, numbered :: rest =>
    context.lineRecords origin numbered ++
      match context.applyLine origin numbered with
      | .ok next => next.linesRecords origin rest
      | .error _ => []

/-- The record of a source that has been scanned to its end. -/
def scannedRecord (origin : Text) (source : Source) : LogRecord :=
  let lines := source.directiveLines
  let declaring := lines.filter fun numbered =>
    match numbered.directive origin with
    | .ok directive => directive.isDeclaring
    | .error _ => false
  ⟨.info, .scanning,
    "Scanned " ++ origin ++ ": " ++ Text.decimal lines.length ++ " directives, " ++
      Text.decimal declaring.length ++ " functions"⟩

/-- The records of a scan. -/
def scanRecords (origin : Text) (source : Source) (context : Context) : List LogRecord :=
  context.linesRecords origin source.directiveLines ++
    if (context.scan origin source).failure.isNone then [scannedRecord origin source] else []

/-- The records of scanning a file. -/
def fileRecords (files : FileSystem) (path : Text) (context : Context) : List LogRecord :=
  match files.read path with
  | .error _ => []
  | .ok bytes => context.scanRecords path (.decode bytes)

/-- The records of scanning files in order. -/
def filesRecords (files : FileSystem) : Context → List Text → List LogRecord
  | _, [] => []
  | context, path :: paths =>
    let scanned := context.scanFile files path
    context.fileRecords files path ++
      if scanned.failure.isNone then scanned.context.filesRecords files paths else []

end Context

end WrapperGen
