import WrapperGen.Text

/-!
# Paths

A path is a text in which slashes separate components. A path is absolute if it begins with a
slash. Its normal form has no empty component, no `.`, and no `..` that can be cancelled against
the component before it.
-/

namespace WrapperGen.Path

/-- Whether a path begins at the root. -/
def isAbsolute (path : Text) : Bool := path.head? = some '/'

/-- The path under a directory, unless it is absolute. -/
def under (directory path : Text) : Text :=
  if isAbsolute path then path
  else if directory.isEmpty || directory.getLast? = some '/' then directory ++ path
  else directory ++ "/" ++ path

/-- The slashes that are kept in front of a path: exactly two stay two, more become one. -/
def leadingSlashes (path : Text) : Nat :=
  let count := (path.takeWhile (· == '/')).length
  if count = 2 then 2 else min count 1

/-- The component that stays where it is. -/
def here : Text := "."

/-- The component that leads to the parent. -/
def parent : Text := ".."

/--
Takes one more component of a path, whose components so far stand in reverse order. A `..` cancels
the component before it; at the root there is none, and a relative path keeps it.
-/
def push (absolute : Bool) (taken : List Text) (component : Text) : List Text :=
  if component.isEmpty || component == here then taken
  else if component != parent then component :: taken
  else
    match taken with
    | [] => if absolute then [] else [parent]
    | last :: rest => if last == parent then parent :: taken else rest

/-- The components that are left of a path once `.` and `..` are taken care of. -/
def components (path : Text) : List Text :=
  ((path.splitOn '/').foldl (push (isAbsolute path)) []).reverse

/-- The normal form of a path: no component is empty, `.`, or a `..` that can be cancelled. -/
def normalize (path : Text) : Text :=
  let normal := List.replicate (leadingSlashes path) '/' ++ Text.join ['/'] (components path)
  if normal.isEmpty then here else normal

/-- The absolute path in normal form, seen from a current directory. -/
def absolute (current path : Text) : Text := normalize (under current path)

/-- The directory part of a path: what stands before its last slash, and slashes alone. -/
def directory (path : Text) : Text :=
  let head := (path.reverse.dropWhile (· != '/')).reverse
  let stripped := Text.dropEndWhile (· == '/') head
  if stripped.isEmpty then head else stripped

/-- The path without empty components and `.`, in which every `..` stays. -/
def tidy (path : Text) : Text :=
  let kept := (path.splitOn '/').filter fun component => !component.isEmpty && component != here
  let tidied := List.replicate (leadingSlashes path) '/' ++ Text.join ['/'] kept
  if tidied.isEmpty then here else tidied

end WrapperGen.Path
