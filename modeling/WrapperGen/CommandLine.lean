import WrapperGen.CommandLine.Options
import WrapperGen.CommandLine.Usage
import WrapperGen.Generation

/-!
# Running a command line

A run begins with the logging that the environment asks for. It reads the command line, then the
settings, then sets up the logging that they ask for, and then generates. Every failure that the
program reports ends the run with the status 1 and a record of what went wrong; a text that could
not be formatted is shown with what was said about it.
-/

namespace WrapperGen.CommandLine

/-- How a run ends. -/
inductive Exit where
  | status (status : Nat)
  /-- The run breaks off with a failure that is not reported. -/
  | broken (failure : Failure)
  deriving DecidableEq, Repr

/-- The settings that options override. -/
def Options.overrides (options : Options) : Settings.Overrides where
  output := options.output
  exported := if options.exported then some true else none
  extendedOnly := if options.extended then some true else none
  formatEnabled := if options.noFormat then some false else none
  level := options.level

/-- The level that a setting asks for; the environment decides where the setting does not. -/
def levelOf (environment : Environment) (setting : Json) : Except Breakdown Nat :=
  let name? :=
    match setting with
    | .null => some environment.levelName
    | _ => setting.text?
  match name? with
  | some name => (LogLevel.ofName name).mapError .level
  | none => .error .nameless

/-- Opens the log file at a path. It exists from then on. -/
def openLogAt (path : Text) (state : RunState) : RunState × Except Failure Unit :=
  let absolute := Path.absolute state.files.currentPath path
  match state.files.target absolute with
  | .error cause => (state, .error (.file (.onPath absolute cause)))
  | .ok location =>
    ({ state with
        files := state.files.appendAt location []
        logging := { state.logging with file := some location } }, .ok ())

/-- Opens the log file that a setting asks for. -/
def openLog (logFile : Json) (state : RunState) : RunState × Except Failure Unit :=
  if !logFile.isGiven then (state, .ok ())
  else
    match logFile with
    | .string path => openLogAt path state
    | .broken units =>
      if units.all StringUnit.isNameable then openLogAt (Json.shownUnits units) state
      else (state, .error (.broken .unencodable))
    | _ => (state, .error (.broken .wrongType))

/-- Sets up the logging that the settings ask for. -/
def setUpLogging (environment : Environment) (settings : Settings) (state : RunState) :
    RunState × Except Failure Unit :=
  match levelOf environment settings.level with
  | .error breakdown => (state, .error (.broken breakdown))
  | .ok level => openLog settings.logFile { state with logging := ⟨level, none⟩ }

/-- Reports what an external program said about a text, and the text. -/
def reportFormatting (fault : FormatFault) (state : RunState) : RunState :=
  let located := locatedLines fault.diagnostics
  let state := located.foldl RunState.reportError state
  let state := if located.isEmpty then state.printError fault.diagnostics else state
  state.printError fault.source

/-- Ends a run that failed. -/
def conclude (failure : Failure) (state : RunState) : RunState × Exit :=
  if failure.isReported then
    let reported := state.reportError failure.text
    match failure with
    | .formatting fault => (reportFormatting fault reported, .status 1)
    | _ => (reported, .status 1)
  else (state, .broken failure)

/-- Generates what the options ask for. -/
def runOptions (formatter : Formatter) (environment : Environment) (options : Options)
    (state : RunState) : RunState × Except Failure Unit :=
  let loaded := Settings.load state.files environment options.config
  let state := state.logAll (Settings.loadRecords environment.limits state.files options.config)
  match loaded with
  | .error failure => (state, .error failure)
  | .ok settings =>
    let settings := settings.override options.overrides
    let (state, logging) := setUpLogging environment settings state
    match logging with
    | .error failure => (state, .error failure)
    | .ok () => state.run formatter settings options.files

/-- Follows a command line that could be read. -/
def follow (formatter : Formatter) (environment : Environment) (request : Request)
    (state : RunState) : RunState × Exit :=
  match request with
  | .help => (state.print help, .status 0)
  | .version => (state.print versionText, .status 0)
  | .run options =>
    if options.files.isEmpty then (state.printError usage, .status 1)
    else
      match runOptions formatter environment options state with
      | (state, .ok ()) => (state, .status 0)
      | (state, .error failure) => conclude failure state

/-- The state in which a command line begins. -/
def startIn (environment : Environment) (files : FileSystem) (level : Nat) (stamp : Text) :
    RunState :=
  { RunState.start files level stamp with charset := environment.charset }

/-- Runs a command line from its beginning. -/
def run (formatter : Formatter) (environment : Environment) (arguments : List Text)
    (files : FileSystem) (stamp : Text) : RunState × Exit :=
  match levelOf environment .null with
  | .error breakdown =>
    (startIn environment files LogLevel.fallback stamp, .broken (.broken breakdown))
  | .ok level =>
    let state := startIn environment files level stamp
    match readCommandLine arguments with
    | .error fault =>
      (state.printError (usage ++ program ++ ": error: " ++ fault.message ++ "\n"), .status 2)
    | .ok request => follow formatter environment request state

end WrapperGen.CommandLine
