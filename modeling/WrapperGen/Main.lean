import WrapperGen.CommandLine

/-!
# The program

What a command line can touch is copied into a file system, the command line is run on it, and
what has changed is written back. No other program is started from here: a run that asks for
formatting is told that the formatter is missing. A record's time is left open.
-/

open WrapperGen

namespace WrapperGen.Main

/-- What stands in a directory under a path, if anything can be read there. -/
def probe (path : String) : IO (Option Node) := do
  try
    return some (.file (← IO.FS.readBinFile path).toList)
  catch
    | .inappropriateType .. => return some .directory
    | _ => return none

/-- The path of a location. -/
def pathOf (location : Location) : String := String.ofList ('/' :: Text.join ['/'] location)

/-- The file system with everything that a walk along a path meets. -/
def copyPath (files : FileSystem) (path : Text) : IO FileSystem :=
  (FileSystem.passed (files.startOf path) (path.splitOn '/')).foldlM
    (fun files location => do
      if files.node? location.dropLast != some .directory then return files
      match ← probe (pathOf location) with
      | some node => return files.setNode location node
      | none => return files)
    files

/-- The paths that settings name. -/
def settingPaths (settings : Settings) : List Text :=
  [settings.output, settings.logFile].filterMap fun
    | .string path => some path
    | _ => none

/-- The file system with everything that a command line can touch. -/
def copyFiles (environment : Environment) (current : Location) (arguments : List Text) :
    IO FileSystem := do
  let empty : FileSystem := ⟨current, []⟩
  let files ← copyPath empty empty.currentPath
  match CommandLine.readCommandLine arguments with
  | .ok (.run options) =>
    let named := (Settings.filePath? options.config).toList ++ options.files
    let files ← named.foldlM copyPath files
    match Settings.load files environment options.config with
    | .ok settings => (settingPaths (settings.override options.overrides)).foldlM copyPath files
    | .error _ => return files
  | _ => return files

/-- Writes back the files that a run has changed. -/
def writeBack (before after : FileSystem) : IO Unit :=
  (after.newFiles before).forM fun (location, bytes) =>
    IO.FS.writeBinFile (pathOf location) ⟨bytes.toArray⟩

/-- The status that the program ends with. -/
def statusOf : CommandLine.Exit → UInt32
  | .status status => status.toUInt32
  | .broken _ => 1

end WrapperGen.Main

/-- Runs the command line that the program is given. -/
def main (arguments : List String) : IO UInt32 := do
  let level ← IO.getEnv "MKCALLABLE_LOG_LEVEL"
  let noFormat ← IO.getEnv "MKCALLABLE_NO_FORMAT"
  let environment : Environment :=
    { level := level.map String.toList, noFormat := noFormat.map String.toList }
  let current := ((toString (← IO.currentDir)).toList.splitOn '/').filter (!·.isEmpty)
  let texts := arguments.map String.toList
  let files ← Main.copyFiles environment current texts
  let (state, ended) := CommandLine.run (fun _ _ => .missing) environment texts files "<time>"
  Main.writeBack files state.files
  IO.print (String.ofList state.output)
  IO.eprint (String.ofList state.errors)
  return Main.statusOf ended
