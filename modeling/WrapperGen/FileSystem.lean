import WrapperGen.Source
import WrapperGen.Text.Quoted

/-!
# File systems

A tree of files and directories with a current directory. A path is walked component by component,
so `missing/../file` is not found where `file` is. Every operation says what the tree is
afterwards, and one that fails leaves it as it was.
-/

namespace WrapperGen

/-- What a path leads to. -/
inductive Node where
  | file (bytes : List UInt8)
  | directory
  deriving DecidableEq, Repr

/-- The names that lead from the root to a node. -/
abbrev Location := List Text

/-- The nodes of a file system by location. The root is a directory without an entry. -/
structure FileSystem where
  current : Location
  nodes : List (Location × Node)
  deriving Repr

/-- Why an operation on a path fails. -/
inductive FileCause where
  | notFound
  | notDirectory
  | isDirectory
  | nameTooLong
  /-- No path holds the null character. -/
  | nullCharacter
  deriving DecidableEq, Repr

/-- An operation that failed, with the quoted form of the path that it was asked for. -/
structure FileFault where
  cause : FileCause
  written : Text
  deriving DecidableEq, Repr

namespace FileFault

/-- The fault with a cause for a path. -/
def onPath (path : Text) (cause : FileCause) : FileFault := ⟨cause, Text.quoted path⟩

/-- What is said about a failed operation. -/
def message (fault : FileFault) : Text :=
  match fault.cause with
  | .notFound => "[Errno 2] No such file or directory: " ++ fault.written
  | .notDirectory => "[Errno 20] Not a directory: " ++ fault.written
  | .isDirectory => "[Errno 21] Is a directory: " ++ fault.written
  | .nameTooLong => "[Errno 36] File name too long: " ++ fault.written
  | .nullCharacter => "embedded null byte"

end FileFault

namespace FileSystem

/-- The node at a location. -/
def node? (files : FileSystem) (location : Location) : Option Node :=
  if location.isEmpty then some .directory else files.nodes.lookup location

/-- The tree with a node at a location. -/
def setNode (location : Location) (node : Node) (files : FileSystem) : FileSystem :=
  { files with
    nodes :=
      if files.nodes.any (·.1 == location) then
        files.nodes.map fun entry => if entry.1 = location then (location, node) else entry
      else files.nodes ++ [(location, node)] }

/-- The greatest number of bytes in a component of a path. -/
def maxComponentBytes : Nat := 255

/-- The greatest number of bytes in a path. -/
def maxPathBytes : Nat := 4095

/-- Where a component leads from a location, whatever is there. -/
def moved (location : Location) (component : Text) : Location :=
  if component = [] ∨ component = ['.'] then location
  else if component = ['.', '.'] then location.dropLast
  else location ++ [component]

/-- One step of a walk: where a component leads from a directory. -/
def step (files : FileSystem) (location : Location) (component : Text) :
    Except FileCause Location :=
  match files.node? location with
  | none => .error .notFound
  | some (.file _) => .error .notDirectory
  | some .directory =>
    if maxComponentBytes < (Text.encode component).length then .error .nameTooLong
    else .ok (moved location component)

/-- Where a walk along components leads. The last location need not have a node. -/
def walk (files : FileSystem) (start : Location) (components : List Text) :
    Except FileCause Location :=
  components.foldlM files.step start

/-- Where the walk along a path begins. -/
def startOf (files : FileSystem) (path : Text) : Location :=
  if path.head? = some '/' then [] else files.current

/-- Why a path is refused before it is walked along, if it is. -/
def refusal? (path : Text) : Option FileCause :=
  if path.contains '\x00' then some .nullCharacter
  else if path.isEmpty then some .notFound
  else if maxPathBytes < (Text.encode path).length then some .nameTooLong
  else none

/-- The location that a path leads to. -/
def locate (files : FileSystem) (path : Text) : Except FileCause Location :=
  match refusal? path with
  | some cause => .error cause
  | none => files.walk (files.startOf path) (path.splitOn '/')

/-- What a path leads to, if it leads to anything. A name that is too long cannot be looked for. -/
def find (files : FileSystem) (path : Text) : Except FileCause (Option Node) :=
  match files.locate path with
  | .ok location => .ok (files.node? location)
  | .error .nameTooLong => .error .nameTooLong
  | .error _ => .ok none

/-- The bytes of the file that a path leads to. -/
def read (files : FileSystem) (path : Text) : Except FileFault (List UInt8) :=
  match files.locate path with
  | .error cause => .error (.onPath path cause)
  | .ok location =>
    match files.node? location with
    | some (.file bytes) => .ok bytes
    | some .directory => .error (.onPath path .isDirectory)
    | none => .error (.onPath path .notFound)

/--
The location of the file that is written under a path, which need not exist yet. The directory it
is to stand in must exist, and a path that ends in a slash names no file.
-/
def target (files : FileSystem) (path : Text) : Except FileCause Location :=
  match refusal? path with
  | some cause => .error cause
  | none => do
    let components := (Text.dropEndWhile (· == '/') path).splitOn '/'
    let parent ← files.walk (files.startOf path) components.dropLast
    let last := components.getLastD []
    match files.node? parent, path.getLast? with
    | some .directory, some '/' => .error .isDirectory
    | _, _ =>
      let location ← files.step parent last
      if files.node? location = some .directory then .error .isDirectory else .ok location

/-- The bytes of the file at a location; none if there is no file. -/
def bytesAt (files : FileSystem) (location : Location) : List UInt8 :=
  match files.node? location with
  | some (.file bytes) => bytes
  | _ => []

/-- The tree with bytes added at the end of the file at a location. -/
def appendAt (location : Location) (bytes : List UInt8) (files : FileSystem) : FileSystem :=
  files.setNode location (.file (files.bytesAt location ++ bytes))

/-- The locations that a walk along components passes, whatever is there. -/
def passed (start : Location) : List Text → List Location
  | [] => []
  | component :: rest => moved start component :: passed (moved start component) rest

/-- The tree with a directory at a location, unless something is there. -/
def makeDirectory (location : Location) (files : FileSystem) : FileSystem :=
  if (files.node? location).isSome then files else files.setNode location .directory

/-- The tree with a node under a path, and with the directories on the way to it. -/
def place (path : Text) (node : Node) (files : FileSystem) : FileSystem :=
  let locations := passed (files.startOf path) (path.splitOn '/')
  let made := locations.dropLast.foldl (fun files location => files.makeDirectory location) files
  made.setNode (locations.getLastD []) node

/-- The files that are in the tree but were not in an earlier one, or not with these bytes. -/
def newFiles (files earlier : FileSystem) : List (Location × List UInt8) :=
  files.nodes.filterMap fun (location, node) =>
    match node with
    | .directory => none
    | .file bytes =>
      if earlier.node? location = some (.file bytes) then none else some (location, bytes)

end FileSystem

end WrapperGen
