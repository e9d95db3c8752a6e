import WrapperGen.Failure
import WrapperGen.Path

/-!
# Importing script modules

A script names the modules it imports by path. A name is resolved to an absolute path in normal
form, which is the key that a module is known by, and the module is read through an importer whose
working directory is that of the importing module.
-/

namespace WrapperGen

/-- How the bytes of a module are read. -/
inductive ModuleReader where
  /-- The bytes of the file. -/
  | plain
  /-- The bytes of the file, whose interpreter line becomes a comment. -/
  | interpreterLine
  /-- Any other way to bytes. -/
  | custom (read : Text → List UInt8)

/-- The bytes with a leading `#!` turned into the beginning of a comment. -/
def commentInterpreterLine : List UInt8 → List UInt8
  | 0x23 :: 0x21 :: rest => 0x2F :: 0x2F :: rest
  | bytes => bytes

/-- What imports modules for a script: the script's directory and a way to read. -/
structure Importer where
  workDir : Text
  reader : ModuleReader

namespace Importer

/-- The absolute path in normal form that a module name stands for. -/
def resolve (current : Text) (importer : Importer) (name : Text) : Except Failure Text :=
  if name.isEmpty then .error (.loading .emptyName)
  else .ok (Path.absolute current (Path.under importer.workDir name))

/-- The bytes of the module at a path. -/
def read (files : FileSystem) (importer : Importer) (path : Text) :
    Except Failure (List UInt8) :=
  if path.isEmpty then .error (.loading .emptyPath)
  else
    match importer.reader with
    | .plain => (files.read path).mapError .file
    | .interpreterLine => ((files.read path).map commentInterpreterLine).mapError .file
    | .custom read => .ok (read path)

/-- The importer for the modules that the module at a path imports. -/
def fork (importer : Importer) (path : Text) : Importer :=
  { importer with workDir := Path.directory path }

end Importer

end WrapperGen
