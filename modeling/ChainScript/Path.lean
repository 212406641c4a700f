import ChainScript.Text.Pieces

/-!
# Paths

Paths as text: joining, the pieces between slashes, and the extension of a file name. Nothing is
normalised here; what a path leads to is decided by a file tree.
-/

namespace ChainScript

/-- A place in a file tree: the names on the way from the top. -/
abbrev Location := List String

instance : LawfulBEq Location := inferInstance

namespace Path

open Text

/-- The path starts at the top. -/
def isAbsolute (path : String) : Bool :=
  path.toList.head? == some '/'

/-- The path `relative`, seen from `base`. An absolute path does not depend on the base. Joining an
empty path adds a slash. -/
def join (base relative : String) : String :=
  if isAbsolute relative then relative
  else if base.isEmpty || base.toList.getLast? == some '/' then base ++ relative
  else base ++ "/" ++ relative

/-- The pieces of the path between slashes. -/
def names (path : String) : List String :=
  (pieces (· == '/') path.toList).map String.ofList

/-- The absolute path of a location. -/
def ofLocation (location : Location) : String :=
  "/" ++ "/".intercalate location

/-- What follows the last point of a file name. A point at the start does not count. -/
def extensionOf? (name : List Char) : Option (List Char) :=
  (breakAt? '.' name.reverse).bind fun (after, before) =>
    if before.isEmpty || name = ['.', '.'] then none else some after.reverse

/-- The extension of the file that the path names. -/
def extension? (path : String) : Option String :=
  (names path).getLast?.bind fun name => (extensionOf? name.toList).map String.ofList

end Path

end ChainScript
