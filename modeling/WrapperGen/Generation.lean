import WrapperGen.Render
import WrapperGen.Run
import WrapperGen.Scan
import WrapperGen.Settings

/-!
# Generating a file

A run scans the sources in order, renders the context, formats the text, and writes it. The output
is opened only after everything before has succeeded, so a run that fails writes nothing but
records.
-/

namespace WrapperGen

/-- Where the generated text goes. -/
inductive Destination where
  /-- The stream of output. -/
  | stream
  /-- A path, and its quoted form. -/
  | path (path written : Text)
  /-- An open file by its number, and how the number is shown. -/
  | handle (number : Int) (shown : Text)
  /-- A value that names no place, and what comes of writing there. -/
  | unusable (breakdown : Breakdown)
  deriving DecidableEq, Repr

/-- The place that a value stands for. -/
def Destination.ofJson (value : Json) : Destination :=
  if !value.isGiven then .stream
  else
    match value with
    | .string text => .path text (Text.quoted text)
    | .broken units =>
      if units.all StringUnit.isNameable then
        .path (Json.shownUnits units) (Json.quotedUnits units)
      else .unusable .unencodable
    | .int number => .handle number (Text.integer number)
    | .bool _ => .handle 1 "True"
    | _ => .unusable .wrongType

namespace Context

/-- The context that a run with these settings begins with. -/
def ofSettings (settings : Settings) : Context :=
  { exported := settings.exported, extendedOnly := settings.extendedOnly }

/-- The records of setting up the imports that a context begins with. -/
def initialRecords : List LogRecord :=
  ImportSet.defaultPaths.map fun path => importRecord ⟨path, []⟩

end Context

/-- Runs a command on a text; the status 0 stands for success. -/
def Formatter.run (formatter : Formatter) (command : List CommandWord) (source : Text) :
    Except Failure Text :=
  match formatter command source with
  | .missing =>
    .error (.formatting ⟨.programNotFound (Json.shownUnits (command.headD [])), source, []⟩)
  | .unstarted reason => .error (.unstarted reason)
  | .handover fault => .error (.handover fault)
  | .exited status output diagnostics =>
    if status = 0 then .ok output
    else .error (.formatting ⟨.failed status, source, diagnostics⟩)

namespace RunState

/-- Scans files in order; each is read as the records made before it have left it. -/
def scanFiles : RunState → Context → List Text → RunState × ScanResult
  | state, context, [] => (state, ⟨context, none⟩)
  | state, context, path :: paths =>
    let scanned := context.scanFile state.files path
    let logged := state.logAll (context.fileRecords state.files path)
    match scanned.failure with
    | none => scanFiles logged scanned.context paths
    | some _ => (logged, scanned)

/-- Hands a text to the formatter. Records show its command with U+FFFD in place of every half. -/
def format (formatter : Formatter) (command : List Json) (text : Text) (state : RunState) :
    RunState × Except Failure Text :=
  match Json.strings? command with
  | none => (state, .error (.broken .wrongType))
  | some words =>
    let command := formatCommand words
    let shown := command.map Json.shownUnits
    let logged := state.log ⟨.debug, .formatting,
      "Formatting " ++ Text.decimal text.length ++ " characters with " ++ Text.join " " shown⟩
    ({ logged with commands := logged.commands ++ [shown] }, formatter.run command text)

/-- The record of sources that have all been scanned. -/
def scannedRecord (paths : List Text) (context : Context) : LogRecord :=
  ⟨.info, .generation,
    "Scanned " ++ Text.decimal paths.length ++ " file(s), " ++
      Text.decimal context.functions.length ++ " function(s) declared"⟩

/-- Generates the text for the sources at the paths. -/
def generate (formatter : Formatter) (settings : Settings) (paths : List Text)
    (state : RunState) : RunState × Except Failure Text :=
  let (state, result) :=
    (state.logAll Context.initialRecords).scanFiles (.ofSettings settings) paths
  match result.failure with
  | some failure => (state, .error failure)
  | none =>
    let state := state.log (scannedRecord paths result.context)
    match result.context.render with
    | .error failure => (state, .error failure)
    | .ok text =>
      let state := state.log (result.context.renderRecord text)
      if settings.formatEnabled then state.format formatter settings.command text
      else (state, .ok text)

/-- The record of a text that has been written to a place. -/
def writtenRecord (text place : Text) : LogRecord :=
  ⟨.info, .generation,
    "Wrote " ++ Text.decimal text.length ++ " characters to " ++ place⟩

/-- Whether a number has the size of the numbers of open files, which take 32 bits. -/
def isHandleSized (number : Int) : Bool := -2147483648 ≤ number && number < 2147483648

/-- Writes a text to the open file with a number. -/
def deliverToHandle (text : Text) (number : Int) (shown : Text) (state : RunState) :
    RunState × Except Failure Unit :=
  let written := writtenRecord text shown
  if !isHandleSized number then (state, .error (.broken .wrongType))
  else if number < 0 then (state, .error (.broken .negativeHandle))
  else if number = 1 then ((state.print text).log written, .ok ())
  else if number = 2 then ((state.printError text).log written, .ok ())
  else (state, .error .badHandle)

/-- Writes a text to its destination. -/
def deliver (text : Text) (destination : Destination) (state : RunState) :
    RunState × Except Failure Unit :=
  match destination with
  | .stream =>
    if state.charset.takes text then (state.print text, .ok ())
    else (state, .error (.broken .unencodable))
  | .path path written =>
    match state.files.target path with
    | .error cause => (state, .error (.file ⟨cause, written⟩))
    | .ok location => ((state.write location text).log (writtenRecord text path), .ok ())
  | .handle number shown => state.deliverToHandle text number shown
  | .unusable breakdown => (state, .error (.broken breakdown))

/-- Generates the text for the sources at the paths and writes it to its destination. -/
def run (formatter : Formatter) (settings : Settings) (paths : List Text) (state : RunState) :
    RunState × Except Failure Unit :=
  let (state, generated) := state.generate formatter settings paths
  match generated with
  | .error failure => (state, .error failure)
  | .ok text => state.deliver text (.ofJson settings.output)

end RunState

end WrapperGen
