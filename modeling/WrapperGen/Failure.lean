import WrapperGen.Failure.Kind
import WrapperGen.Failure.Report
import WrapperGen.FileSystem
import WrapperGen.Formatter
import WrapperGen.Imports
import WrapperGen.Log
import WrapperGen.PackageClause
import WrapperGen.Settings.Fault
import WrapperGen.Signature.Reader

/-!
# Failures

Everything that can end a run. A failure is a cause; its wording is `Failure.text`. Most failures
are reported; a few are not foreseen, and then the run breaks off.
-/

namespace WrapperGen

/-- Why a directive line is refused. -/
inductive DirectiveFault where
  /-- The line holds bytes that are no characters. -/
  | undecodable (line : Source) (origin : Text) (number : Nat)
  /-- The line is none of the directives. -/
  | unrecognized (line origin : Text) (number : Nat)
  /-- An import is neither a literal nor a local name and a literal. -/
  | badImport (text : Text)
  /-- The path of an import is no literal. -/
  | badLiteral (fault : Literal.Fault) (literal text : Text)
  /-- A conversion is not a type and a routine. -/
  | badConversion (text : Text)
  deriving DecidableEq, Repr

namespace DirectiveFault

/-- The place of a line in a source. -/
def place (origin : Text) (number : Nat) : Text := origin ++ ":" ++ Text.decimal number

/-- What is said about a refused line. -/
def message : DirectiveFault → Text
  | undecodable _ origin number => "directive is not valid UTF-8 at " ++ place origin number
  | unrecognized line origin number =>
    "unrecognized directive " ++ Text.quoted line ++ " at " ++ place origin number
  | badImport text => "invalid import directive, line: " ++ text
  | badLiteral fault literal text =>
    "cannot unquote " ++ fault.message literal ++ ", line: " ++ text
  | badConversion text => "invalid convert directive, line: " ++ text

/-- The text that is refused. -/
def line : DirectiveFault → Source
  | undecodable line _ _ => line
  | unrecognized line _ _ => .ofText line
  | badImport text => .ofText text
  | badLiteral _ _ text => .ofText text
  | badConversion text => .ofText text

end DirectiveFault

/-- Why a module cannot be loaded. -/
inductive LoadFault where
  | emptyName
  | emptyPath
  deriving DecidableEq, Repr

/-- What is said about a module that cannot be loaded. -/
def LoadFault.message : LoadFault → Text
  | emptyName => "invalid import call: empty module name"
  | emptyPath => "invalid import call: empty module path"

/-- What no part of the program foresees. -/
inductive Breakdown where
  /-- A setting has a type that cannot be used. -/
  | wrongType
  /-- What is asked for a name has none: a level that is no text, a converter that is not called. -/
  | nameless
  /-- A configuration file is not valid UTF-8. -/
  | undecodable
  /-- A configuration file is too large to be read. -/
  | limit (reached : JsonLimit)
  /-- A name is refused as the name of a level. -/
  | level (fault : LevelFault)
  /-- A number that stands for an open file is negative. -/
  | negativeHandle
  /-- A path holds half of a surrogate pair that stands for no byte, or a text a character that the
  stream of output has no code for. -/
  | unencodable
  deriving DecidableEq, Repr

/-- What is said about a breakdown, if anything is. -/
def Breakdown.message : Breakdown → Text
  | limit reached => reached.message
  | level fault => fault.message
  | negativeHandle => "negative file descriptor"
  | wrongType | nameless | undecodable | unencodable => []

/-- Why a run ends before it has done its work. -/
inductive Failure where
  | directive (fault : DirectiveFault)
  | signature (fault : SignatureFault)
  | importConflict (conflict : ImportConflict)
  /-- A type has no converter; the function that uses it is named if it is known. -/
  | missingConverter (type : Text) (function : Option Text)
  /-- No source has been scanned, so the package is unknown. -/
  | noPackage
  | packageClause (fault : PackageClause.Fault) (origin : Text)
  | packageMismatch (first second origin : Text)
  | formatting (fault : FormatFault)
  /-- The system does not start the formatter, for a reason that it gives. -/
  | unstarted (reason : Text)
  /-- Nothing can be handed to the formatter, or nothing that it hands back can be read. -/
  | handover (fault : HandoverFault)
  | settings (fault : SettingsFault)
  | loading (fault : LoadFault)
  | file (fault : FileFault)
  /-- No open file has the number that was asked for. -/
  | badHandle
  | broken (breakdown : Breakdown)
  deriving DecidableEq, Repr

namespace Failure

/-- The kind of a failure that the program reports under a kind of its own. -/
def kind? : Failure → Option FailureKind
  | directive _ => some .directive
  | signature (.list .emptyDelimiter) => none
  | signature _ => some .signature
  | importConflict _ => some .importConflict
  | missingConverter _ _ => some .missingConverter
  | noPackage => some .packageClause
  | packageClause _ _ => some .packageClause
  | packageMismatch _ _ _ => some .packageMismatch
  | formatting _ => some .formatting
  | settings _ => some .settings
  | loading _ => some .loading
  | unstarted _ | handover _ | file _ | badHandle | broken _ => none

/-- Whether a run that ends in the failure reports it. -/
def isReported : Failure → Bool
  | file fault => fault.cause != .nullCharacter
  | unstarted _ | badHandle => true
  | failure => failure.kind?.isSome

/-- What is said about the failure. -/
def report : Failure → Report
  | directive fault => .plain fault.message
  | signature fault => .plain fault.message
  | importConflict conflict => .importConflict conflict.path conflict.localName conflict.existing
  | missingConverter type function => .missingConverter type function
  | noPackage => .plain "package name is unknown, no source was scanned"
  | packageClause fault origin => .aboutSource fault.message origin
  | packageMismatch first second origin => .packageMismatch first second origin
  | formatting fault => .formatting fault.cause.message fault.source fault.diagnostics
  | unstarted reason => .plain reason
  | handover fault => .plain fault.message
  | settings fault => .aboutSettings fault.cause.message (fault.file.getD [])
  | loading fault => .plain fault.message
  | file fault => .plain fault.message
  | badHandle => .plain "[Errno 9] Bad file descriptor"
  | broken breakdown => .plain breakdown.message

/-- What is said about the failure, in one text. -/
def text (failure : Failure) : Text := failure.report.text

end Failure

end WrapperGen
