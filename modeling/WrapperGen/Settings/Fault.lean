import WrapperGen.Json.Fault
import WrapperGen.Text.Quoted

/-!
# Faults of configuration files

Whatever is wrong with a configuration is reported with the file it was read from.
-/

namespace WrapperGen

/-- What is wrong with a configuration. -/
inductive SettingsCause where
  /-- The file is no JSON document. -/
  | document (fault : JsonFault)
  /-- The document is no object. -/
  | root
  /-- A section is no object. -/
  | badSection (name : Text)
  /-- An option that is to be switched on or off is neither. -/
  | notSwitch (sectionName option : Text)
  /-- There is no command to format with. -/
  | emptyCommand
  deriving DecidableEq, Repr

/-- What is said about a cause. -/
def SettingsCause.message : SettingsCause → Text
  | document fault => "Failed to parse configuration: " ++ fault.message
  | root => "Configuration root must be an object"
  | badSection name => "Configuration section " ++ Text.quoted name ++ " must be an object"
  | notSwitch sectionName option =>
    "Configuration option " ++ sectionName ++ "." ++ option ++ " must be a boolean"
  | emptyCommand => "Formatter command must not be empty"

/-- A cause and the file that the configuration was read from, if there is one. -/
structure SettingsFault where
  cause : SettingsCause
  file : Option Text
  deriving DecidableEq, Repr

end WrapperGen
