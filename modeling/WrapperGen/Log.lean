import WrapperGen.Text.Quoted

/-!
# Log records

The parts of the program report what they do in records. A record is kept if it is at least as
severe as the level in force.
-/

namespace WrapperGen

/-- How much a record matters. -/
inductive Severity where
  | debug
  | info
  | error
  deriving DecidableEq, Repr

namespace Severity

/-- The place of a severity on the scale of levels. -/
def rank : Severity → Nat
  | debug => 10
  | info => 20
  | error => 40

/-- The word for a severity. -/
def word : Severity → Text
  | debug => "DEBUG"
  | info => "INFO"
  | error => "ERROR"

end Severity

/-- The parts of the program that report. -/
inductive Component where
  | imports
  | signatures
  | naming
  | converters
  | scanning
  | rendering
  | generation
  | formatting
  | settings
  | commandLine
  deriving DecidableEq, Repr

/-- The name that all components share in front. -/
def rootComponent : Text := "mkcallable"

/-- The full name of a component: the root's name is put in front unless it is there. -/
def componentName (name : Text) : Text :=
  if name = rootComponent ∨ (rootComponent ++ ".").isPrefixOf name then name
  else rootComponent ++ "." ++ name

/-- The name that a component reports under. -/
def Component.name : Component → Text
  | imports => componentName "context"
  | signatures => componentName "codegen.signature"
  | naming => componentName "codegen.naming"
  | converters => componentName "codegen.converters"
  | scanning => componentName "scanner"
  | rendering => componentName "codegen.emitter"
  | generation => componentName "generator"
  | formatting => componentName "formatter"
  | settings => componentName "utils.config"
  | commandLine => componentName "cli"

/-- One report of a component. -/
structure LogRecord where
  severity : Severity
  component : Component
  message : Text
  deriving DecidableEq, Repr

/-- The line of a record under a time stamp. -/
def LogRecord.line (stamp : Text) (record : LogRecord) : Text :=
  stamp ++ " - " ++ record.component.name ++ " - " ++ record.severity.word ++ " - " ++
    record.message ++ "\n"

/-- Why a name is refused as the name of a level: logs know it as something else. -/
inductive LevelFault where
  /-- The name stands for a layout of records. -/
  | layout (text : Text)
  /-- The name stands for the table of all layouts. -/
  | layouts
  deriving DecidableEq, Repr

/-- What is said about a name that is refused; of the table of layouts, nothing is. -/
def LevelFault.message : LevelFault → Text
  | layout text => "Unknown level: " ++ Text.quoted text
  | layouts => []

namespace LogLevel

/-- The level in force when a name stands for none. -/
def fallback : Nat := 30

/-- The name of the level in force when none is set. -/
def defaultName : Text := "WARNING"

/-- The levels that have a name. -/
def named : List (Text × Nat) := [
  ("CRITICAL", 50), ("FATAL", 50), ("ERROR", 40), ("WARNING", 30), ("WARN", 30), ("INFO", 20),
  ("DEBUG", 10), ("NOTSET", 0)]

/-- The names that are known but stand for no level. -/
def refused : List (Text × LevelFault) := [
  ("BASIC_FORMAT", .layout "%(levelname)s:%(name)s:%(message)s"), ("_STYLES", .layouts)]

/-- The upper-case form of a character that may stand for letters of a known name. -/
def upperLetters (c : Char) : Text :=
  if c = '\u0131' then "I"
  else if c = '\u017F' then "S"
  else if c = '\uFB05' ∨ c = '\uFB06' then "ST"
  else [c.toUpper]

/-- The level with a name, in letters of either case. A name that is not known is the fallback's. -/
def ofName (name : Text) : Except LevelFault Nat :=
  let upper := name.flatMap upperLetters
  match refused.lookup upper with
  | some fault => .error fault
  | none => .ok ((named.lookup upper).getD fallback)

/-- Whether a record is kept at a level. The level 0 leaves the choice to the fallback. -/
def keeps (level : Nat) (record : LogRecord) : Bool :=
  (if level = 0 then fallback else level) ≤ record.severity.rank

end LogLevel

end WrapperGen
