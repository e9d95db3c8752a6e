import WrapperGen.Literal
import WrapperGen.Runtime

/-!
# Imports of the generated file

The imports fall into two groups, each in ascending order of paths: packages that come with the
language, and external ones, whose paths hold a dot. A path is imported once. Default imports are
implicit as long as no directive has asked for them.
-/

namespace WrapperGen

/-- A package to import, under a local name if that is not empty. -/
structure Import where
  path : Text
  localName : Text
  deriving DecidableEq, Repr

namespace Import

/-- Whether the package is found outside of the language's own library. -/
def isExternal (entry : Import) : Bool := entry.path.contains '.'

/-- The import as it is written in an import block. -/
def render (entry : Import) : Text :=
  if entry.localName.isEmpty then Literal.quote entry.path
  else entry.localName ++ " " ++ Literal.quote entry.path

/-- The list with an entry in front of the first one with a greater path. -/
def insertSorted (entry : Import) : List Import → List Import
  | [] => [entry]
  | head :: rest =>
    if entry.path < head.path then entry :: head :: rest else head :: insertSorted entry rest

end Import

/-- A path that is to be imported under two different local names. -/
structure ImportConflict where
  path : Text
  localName : Text
  existing : Text
  deriving DecidableEq, Repr

/-- The imports that have been asked for, and the defaults that have not. -/
structure ImportSet where
  runtime : List Import
  external : List Import
  implicit : List Text
  deriving DecidableEq, Repr

namespace ImportSet

/-- All entries, those of the language's own library first. -/
def entries (imports : ImportSet) : List Import := imports.runtime ++ imports.external

/-- How many packages are imported. -/
def size (imports : ImportSet) : Nat := imports.entries.length

/-- The entry of a path. -/
def find? (imports : ImportSet) (path : Text) : Option Import :=
  imports.entries.find? (·.path == path)

/-- Whether a path is imported. -/
def contains (imports : ImportSet) (path : Text) : Bool := (imports.find? path).isSome

/-- Whether a path is marked as a default that nobody has asked for. -/
def isImplicit (imports : ImportSet) (path : Text) : Bool := imports.implicit.contains path

/-- The set with one more entry in its group. -/
def insert (entry : Import) (imports : ImportSet) : ImportSet :=
  if entry.isExternal then { imports with external := entry.insertSorted imports.external }
  else { imports with runtime := entry.insertSorted imports.runtime }

/-- The set in which a path is no longer marked as implicit. -/
def ask (path : Text) (imports : ImportSet) : ImportSet :=
  { imports with implicit := imports.implicit.filter (· != path) }

/--
The set after a path is asked for under a local name, which is empty for none. An empty path asks
for nothing, and a path that is there under the same name is no longer implicit.
-/
def add (path localName : Text) (imports : ImportSet) : Except ImportConflict ImportSet :=
  if path.isEmpty then .ok imports
  else
    match imports.find? path with
    | none => .ok (imports.insert ⟨path, localName⟩)
    | some entry =>
      if entry.localName = localName then .ok (imports.ask path)
      else .error ⟨path, localName, entry.localName⟩

/-- The entry that asking for a path under a local name would insert. -/
def newEntry? (path localName : Text) (imports : ImportSet) : Option Import :=
  if path.isEmpty || imports.contains path then none else some ⟨path, localName⟩

/-- The set with one more default, as if it were asked for without a local name. -/
def addDefault (imports : ImportSet) (path : Text) : ImportSet :=
  match imports.add path [] with
  | .ok added => added
  | .error _ => imports

/-- The set that begins with the defaults, all of them marked as implicit beforehand. -/
def ofDefaults (defaults : List Text) : ImportSet :=
  defaults.foldl addDefault ⟨[], [], defaults⟩

/-- The defaults of a run: the positional guards use `strconv`. -/
def defaultPaths : List Text := ["strconv"]

/-- The imports that a run begins with. -/
def initial : ImportSet := ofDefaults defaultPaths

/-- The paths that are imported and implicit, in ascending order. -/
def implicitPaths (imports : ImportSet) : List Text :=
  ((imports.entries.map Import.path).filter imports.isImplicit).mergeSort Text.ascending

end ImportSet

end WrapperGen
