import WrapperGen.Failure
import WrapperGen.Log
import WrapperGen.Path
import WrapperGen.Text.Charset

/-!
# What a run leaves behind

A run reads and writes files, writes on two streams, and runs the external formatter. Its state is
what all of this has come to so far, with the logging in force: every record that is kept goes to
the stream of errors and, if there is a log file, to the end of that file, at the moment when it
is made. What the stream of output has no codes for it refuses; the stream of errors has a spelling
for every character, and what is kept of it is what has been written on it.
-/

namespace WrapperGen

/-- The logging in force. -/
structure Logging where
  level : Nat
  /-- Where the log file is, if records go to one. -/
  file : Option Location
  deriving DecidableEq, Repr

/-- How many places records go to. -/
def Logging.sinks (logging : Logging) : Nat := 1 + logging.file.toList.length

/-- What a run has come to so far. -/
structure RunState where
  files : FileSystem
  output : Text
  errors : Text
  /-- The commands that have been run. -/
  commands : List (List Text)
  logging : Logging
  /-- What stands for the time in front of a record. -/
  stamp : Text
  /-- The characters that the stream of output has codes for. -/
  charset : Charset := .unicode
  deriving Repr

/-- The path of the current directory. -/
def FileSystem.currentPath (files : FileSystem) : Text :=
  '/' :: Text.join ['/'] files.current

namespace RunState

/-- The state in which a run begins: nothing is written, and the level is all there is to logs. -/
def start (files : FileSystem) (level : Nat) (stamp : Text) : RunState where
  files
  output := []
  errors := []
  commands := []
  logging := ⟨level, none⟩
  stamp

/-- The state after a text is written on the stream of errors. -/
def printError (text : Text) (state : RunState) : RunState :=
  { state with errors := state.errors ++ text }

/-- The state after a text is written on the stream of output. -/
def print (text : Text) (state : RunState) : RunState :=
  { state with output := state.output ++ text }

/-- The state after a line is written to the log file, if there is one. -/
def printLog (text : Text) (state : RunState) : RunState :=
  match state.logging.file with
  | none => state
  | some location => { state with files := state.files.appendAt location (Text.encode text) }

/-- The state after a record is made. -/
def log (state : RunState) (record : LogRecord) : RunState :=
  if LogLevel.keeps state.logging.level record then
    let line := record.line state.stamp
    (state.printError line).printLog line
  else state

/-- The state after records are made in order. -/
def logAll (state : RunState) (records : List LogRecord) : RunState := records.foldl log state

/-- The state after an error is reported by the command line. -/
def reportError (state : RunState) (message : Text) : RunState :=
  state.log ⟨.error, .commandLine, message⟩

/-- The state after a file is given the bytes of a text. -/
def write (location : Location) (text : Text) (state : RunState) : RunState :=
  { state with files := state.files.setNode location (.file (Text.encode text)) }

end RunState

end WrapperGen
