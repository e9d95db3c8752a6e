import WrapperGen.CommandLine
import WrapperGen.Proofs.Run.Records

/-!
# Setting up the logging

The settings may ask for a log file. It is opened, and made if it is not there, before anything is
scanned, and from then on records are written to it. `RunState.KeptBut` says that a run has changed
no other file; setting up the logging is of that kind (`CommandLine.setUpLogging_outcome`), and so
are records.
-/

namespace WrapperGen

/-! ## What settings ask for -/

/-- The path that a value stands for. -/
def Json.path : Json → Except Breakdown Text
  | .string path => .ok path
  | .broken units =>
    if units.all StringUnit.isNameable then .ok (shownUnits units) else .error .unencodable
  | _ => .error .wrongType

namespace Settings

/-- The path of the log file, as it is looked at from the current directory. -/
def logPath (settings : Settings) (files : FileSystem) : Except Breakdown Text :=
  settings.logFile.path.map (Path.absolute files.currentPath)

end Settings

/-! ## What a run keeps -/

namespace RunState

/-- But for a log file, all files are as before, and nothing is printed. -/
structure KeptBut (log : Option Location) (before after : RunState) : Prop where
  output : after.output = before.output
  current : after.files.current = before.files.current
  node : ∀ location, log ≠ some location →
    after.files.node? location = before.files.node? location
  file : ∀ location, after.logging.file = some location → log = some location

variable {log : Option Location} {before middle after : RunState}

theorem KeptBut.recorded (h : before.KeptBut log middle) (hrecorded : middle.Recorded after) :
    before.KeptBut log after where
  output := hrecorded.output.trans h.output
  current := hrecorded.current.trans h.current
  node := fun location hlog =>
    (hrecorded.node location fun hfile => hlog (h.file location hfile)).trans (h.node location hlog)
  file := fun location hfile => h.file location (hrecorded.logging ▸ hfile)

theorem KeptBut.refl {state : RunState} (h : state.logging.file = none) :
    state.KeptBut log state where
  output := rfl
  current := rfl
  node := fun _ _ => rfl
  file := fun location hfile => absurd (h.symm.trans hfile) (by simp)

end RunState

namespace CommandLine

open RunState

/-! ## Setting up the logging -/

theorem openLog_eq (logFile : Json) (state : RunState) :
    openLog logFile state =
      if logFile.isGiven then
        match logFile.path with
        | .error breakdown => (state, .error (.broken breakdown))
        | .ok path => openLogAt path state
      else (state, .ok ()) := by
  unfold openLog
  cases logFile.isGiven with
  | false => rfl
  | true =>
    cases logFile with
    | broken units =>
      simp only [Json.path]
      cases units.all StringUnit.isNameable <;> rfl
    | null | bool _ | int _ | real _ | string _ | array _ | object _ => rfl

theorem charset_openLog (logFile : Json) (state : RunState) :
    (openLog logFile state).1.charset = state.charset := by
  rw [openLog_eq]
  split
  · split
    · rfl
    · unfold openLogAt
      simp only
      split <;> rfl
  · rfl

/-- The logging has nothing to do with the stream of output. -/
theorem charset_setUpLogging (environment : Environment) (settings : Settings) (state : RunState) :
    (setUpLogging environment settings state).1.charset = state.charset := by
  rw [setUpLogging]
  split
  · rfl
  · exact charset_openLog _ _

/-- Why the logging cannot be set up that settings ask for. -/
inductive Unlogged (environment : Environment) (settings : Settings) (files : FileSystem) :
    Failure → Prop
  | level {breakdown : Breakdown} (hlevel : levelOf environment settings.level = .error breakdown) :
      Unlogged environment settings files (.broken breakdown)
  | value {breakdown : Breakdown} (hgiven : settings.logFile.isGiven = true)
      (hpath : settings.logPath files = .error breakdown) :
      Unlogged environment settings files (.broken breakdown)
  | place {path : Text} {cause : FileCause} (hgiven : settings.logFile.isGiven = true)
      (hpath : settings.logPath files = .ok path) (htarget : files.target path = .error cause) :
      Unlogged environment settings files (.file (.onPath path cause))

/-- The level that is in force once the logging is set up; the old one if there is no other. -/
def threshold (environment : Environment) (settings : Settings) (state : RunState) : Nat :=
  (levelOf environment settings.level).toOption.getD state.logging.level

end CommandLine

end WrapperGen
