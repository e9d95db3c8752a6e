import WrapperGen.Failure
import WrapperGen.Json.Reader
import WrapperGen.Log
import WrapperGen.Path
import WrapperGen.Text.Blank
import WrapperGen.Text.Charset

/-!
# Settings

The settings of a run come from defaults, a JSON file, the environment and the command line, each
overriding the one before. Switches are checked when the file is read; a place to write to, a
level and the parts of a command are whatever values the file gives them, and are looked at when
they are used.
-/

namespace WrapperGen

/-- What surrounds a run: the variables that the program looks at, and what the system allows. -/
structure Environment where
  level : Option Text := none
  noFormat : Option Text := none
  /-- The characters that the stream of output has codes for. -/
  charset : Charset := .unicode
  /-- How large a configuration file may be. -/
  limits : JsonLimits := .standard
  deriving DecidableEq, Repr

namespace Environment

/-- The values that switch formatting off, in letters of either case. -/
def affirmatives : List Text := ["1", "true", "yes"]

/-- Whether the environment switches formatting off. -/
def formatDisabled (environment : Environment) : Bool :=
  affirmatives.contains (Text.lowerAscii (environment.noFormat.getD []))

/-- The name of the level that the environment sets, or the default one. -/
def levelName (environment : Environment) : Text := environment.level.getD LogLevel.defaultName

end Environment

/-- The settings of a run. -/
structure Settings where
  exported : Bool
  extendedOnly : Bool
  output : Json
  formatEnabled : Bool
  command : List Json
  level : Json
  logFile : Json
  deriving Repr

namespace Settings

/-- The value of a member of a section. -/
def member (table : Table Json) (key : Text) (fallback : Json) : Json :=
  (Table.find? table key).getD fallback

/-- The members of a section; a section that is left out has none. -/
def sectionNamed (document : Table Json) (name : Text) : Except SettingsCause (Table Json) :=
  match Table.find? document name with
  | none => .ok []
  | some (.object members) => .ok members
  | some _ => .error (.badSection name)

/-- An option that is switched on or off. -/
def switch (table : Table Json) (sectionName option : Text) (fallback : Bool) :
    Except SettingsCause Bool :=
  match Table.find? table option with
  | none => .ok fallback
  | some (.bool value) => .ok value
  | some _ => .error (.notSwitch sectionName option)

/-- The parts of the command that a value gives. A string is cut into its fields. -/
def commandParts (value : Json) : Except (SettingsCause ⊕ Breakdown) (List Json) :=
  let value : Json :=
    match value with
    | .string text => .array ((Text.fields text).map .string)
    | .broken units => .array ((StringUnit.fields units).map .ofUnits)
    | value => value
  if !value.isGiven then .error (.inl .emptyCommand)
  else
    match value with
    | .array items => .ok items
    | .object members => .ok (members.map fun (key, _) => .string key)
    | _ => .error (.inr .wrongType)

/-- The default command, as a value. -/
def defaultCommand : Json := .array (defaultFormatCommand.map .string)

/-- The settings that a document and the environment give. -/
def ofDocument (environment : Environment) (document : Table Json) :
    Except (SettingsCause ⊕ Breakdown) Settings := do
  let generation ← (sectionNamed document "generation").mapError .inl
  let exported ← (switch generation "generation" "export" false).mapError .inl
  let extendedOnly ← (switch generation "generation" "extended_only" false).mapError .inl
  let format ← (sectionNamed document "format").mapError .inl
  let enabled ← (switch format "format" "enabled" true).mapError .inl
  let command ← commandParts (member format "command" defaultCommand)
  let logging ← (sectionNamed document "logging").mapError .inl
  let configured := member logging "level" (.string LogLevel.defaultName)
  let level : Json :=
    match environment.level with
    | some (c :: name) => .string (c :: name)
    | _ => configured
  return {
    exported, extendedOnly, command, level
    output := member generation "output" .null
    formatEnabled := enabled && !environment.formatDisabled
    logFile := member logging "log_file" .null }

/-- The failure that a cause or a breakdown in a configuration file comes to. -/
def failureIn (file : Option Text) : SettingsCause ⊕ Breakdown → Failure
  | .inl cause => .settings ⟨cause, file⟩
  | .inr breakdown => .broken breakdown

/-- The text with every line ending written as a line feed. -/
def unifyLineEnds : Text → Text
  | '\r' :: '\n' :: rest => '\n' :: unifyLineEnds rest
  | '\r' :: rest => '\n' :: unifyLineEnds rest
  | c :: rest => c :: unifyLineEnds rest
  | [] => []

/-- The members of the document that a configuration file holds. -/
def documentOf (limits : JsonLimits) (file : Text) (bytes : List UInt8) :
    Except Failure (Table Json) :=
  match Text.decode? bytes with
  | none => .error (.broken .undecodable)
  | some text =>
    match Json.read limits (unifyLineEnds text) with
    | .error (.inl fault) => .error (.settings ⟨.document fault, some file⟩)
    | .error (.inr limit) => .error (.broken (.limit limit))
    | .ok (.object members) => .ok members
    | .ok _ => .error (.settings ⟨.root, some file⟩)

/-- The path of the configuration file; an empty path stands for none. -/
def filePath? (path : Option Text) : Option Text :=
  (path.filter (!·.isEmpty)).map Path.tidy

/-- The members of the configuration document. A file that does not exist has none. -/
def readDocument (limits : JsonLimits) (files : FileSystem) (path : Option Text) :
    Except Failure (Table Json) :=
  match filePath? path with
  | none => .ok []
  | some file =>
    match files.find file with
    | .error cause => .error (.file (.onPath file cause))
    | .ok none => .ok []
    | .ok (some .directory) => .error (.file (.onPath file .isDirectory))
    | .ok (some (.file bytes)) => documentOf limits file bytes

/-- The settings that a configuration file and the environment give. -/
def load (files : FileSystem) (environment : Environment) (path : Option Text) :
    Except Failure Settings := do
  let document ← readDocument environment.limits files path
  (ofDocument environment document).mapError (failureIn (filePath? path))

/-- The records of reading a configuration file. -/
def loadRecords (limits : JsonLimits) (files : FileSystem) (path : Option Text) :
    List LogRecord :=
  match filePath? path, readDocument limits files path with
  | some file, .ok _ =>
    let message : Text :=
      match files.find file with
      | .ok (some _) => "Loaded configuration from " ++ file
      | _ => "Configuration file " ++ file ++ " not found, using defaults"
    [⟨.debug, .settings, message⟩]
  | _, _ => []

/-- What the command line sets; what it leaves open stays as it is. -/
structure Overrides where
  output : Option Json := none
  exported : Option Bool := none
  extendedOnly : Option Bool := none
  formatEnabled : Option Bool := none
  level : Option Json := none

/-- The settings with what the command line sets. -/
def override (settings : Settings) (overrides : Overrides) : Settings where
  exported := overrides.exported.getD settings.exported
  extendedOnly := overrides.extendedOnly.getD settings.extendedOnly
  output := overrides.output.getD settings.output
  formatEnabled := overrides.formatEnabled.getD settings.formatEnabled
  command := settings.command
  level := overrides.level.getD settings.level
  logFile := settings.logFile

end Settings

end WrapperGen
