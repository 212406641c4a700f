import ChainScript.Path

/-!
# File trees

The directories and files that can be read, as a value: following a path to a location, reading a
file and listing a directory. Each way to fail has the sentence of the operating system. Symbolic
links and permissions are left out: an entry is a directory or a file, and may be read.
-/

namespace ChainScript

/-- Why a path cannot be followed, read or listed. -/
inductive FileFault where
  | notFound
  | notDirectory
  | isDirectory
  | nameTooLong
  | notText
  | nulInName
  deriving DecidableEq

/-- The sentence that reports the fault. -/
def FileFault.message : FileFault → String
  | notFound => "No such file or directory (os error 2)"
  | notDirectory => "Not a directory (os error 20)"
  | isDirectory => "Is a directory (os error 21)"
  | nameTooLong => "File name too long (os error 36)"
  | notText => "stream did not contain valid UTF-8"
  | nulInName => "file name contained an unexpected NUL byte"

/-- What stands at a location: a directory, or a file with its text. A file whose bytes are no
UTF-8 has no text. -/
inductive Node where
  | directory
  | file (text? : Option String)
  deriving DecidableEq

/-- The directories and files by their locations. The order of the entries is the order in which
directories are listed. Relative paths start at the working directory. -/
structure FileTree where
  entries : List (Location × Node) := []
  workingDirectory : Location := []

namespace FileTree

/-- The longest name of a file, in bytes. -/
def maxName : Nat := 255

/-- Paths of this many bytes are not opened. -/
def maxPath : Nat := 4096

/-- What stands at the location. The top is always a directory. -/
def node? (t : FileTree) : Location → Option Node
  | [] => some .directory
  | location => t.entries.lookup location

/-- The location that the names lead to, one after the other. -/
def follow (t : FileTree) (here : Location) : List String → Except FileFault Location
  | [] => .ok here
  | name :: rest =>
    match t.node? here with
    | none => .error .notFound
    | some (.file _) => .error .notDirectory
    | some .directory =>
      if name = "" ∨ name = "." then t.follow here rest
      else if name = ".." then t.follow here.dropLast rest
      else if maxName < name.utf8ByteSize then .error .nameTooLong
      else if (t.node? (here ++ [name])).isNone then .error .notFound
      else t.follow (here ++ [name]) rest

/-- The location that a path leads to. Two paths lead to the same file exactly if they lead to the
same location. -/
def locate (t : FileTree) (path : String) : Except FileFault Location :=
  if '\x00' ∈ path.toList then .error .nulInName
  else if path = "" then .error .notFound
  else t.follow (if Path.isAbsolute path then [] else t.workingDirectory) (Path.names path)

/-- The text of the file at a location. -/
def readAt (t : FileTree) (location : Location) : Except FileFault String :=
  match t.node? location with
  | none => .error .notFound
  | some .directory => .error .isDirectory
  | some (.file none) => .error .notText
  | some (.file (some text)) => .ok text

/-- The location that a path leads to, if the path is short enough to be opened. -/
def openPath (t : FileTree) (path : String) : Except FileFault Location :=
  if maxPath ≤ path.utf8ByteSize ∧ '\x00' ∉ path.toList then .error .nameTooLong
  else t.locate path

/-- The text of the file that a path leads to. -/
def read (t : FileTree) (path : String) : Except FileFault String :=
  (t.openPath path).bind t.readAt

/-- The names in the directory at a location, in the order of the tree. -/
def namesIn (t : FileTree) (directory : Location) : List String :=
  t.entries.filterMap fun (location, _) =>
    if location ≠ [] ∧ location.dropLast = directory then location.getLast? else none

/-- The names in the directory that a path leads to. -/
def list (t : FileTree) (path : String) : Except FileFault (List String) :=
  (t.openPath path).bind fun location =>
    match t.node? location with
    | some .directory => .ok (t.namesIn location)
    | some (.file _) => .error .notDirectory
    | none => .error .notFound

/-- The path leads to a file. -/
def isFile (t : FileTree) (path : String) : Bool :=
  match t.openPath path with
  | .ok location => match t.node? location with
    | some (.file _) => true
    | _ => false
  | .error _ => false

/-- The locations of the entries. -/
def locations (t : FileTree) : List Location :=
  t.entries.map Prod.fst

/-! ### Changing a tree -/

/-- Puts a node at a location, instead of what is there. -/
def put (t : FileTree) (location : Location) (node : Node) : FileTree :=
  if (t.node? location).isSome then
    { t with entries := t.entries.map fun (l, n) => if l = location then (l, node) else (l, n) }
  else { t with entries := t.entries ++ [(location, node)] }

/-- Adds the directories among `names` that are missing, from `here` on. -/
def putDirectories (t : FileTree) (here : Location) : List String → FileTree
  | [] => t
  | name :: rest =>
    let next := here ++ [name]
    (if (t.node? next).isSome then t else t.put next .directory).putDirectories next rest

/-- Writes a file, and the directories above it where they are missing. -/
def write (t : FileTree) (location : Location) (text? : Option String) : FileTree :=
  (t.putDirectories [] location.dropLast).put location (.file text?)

/-! ### Reading is possible at entries only -/

theorem mem_locations_of_readAt {t : FileTree} {location : Location} {text : String}
    (h : t.readAt location = .ok text) : location ∈ t.locations := by
  cases location with
  | nil => simp [readAt, node?] at h
  | cons name rest =>
    rw [readAt, node?] at h
    · cases hl : t.entries.lookup (name :: rest) with
      | none => simp [hl] at h
      | some node =>
        rw [List.lookup_eq_some_iff] at hl
        obtain ⟨before, after, he, _⟩ := hl
        simp [locations, he]
    · simp

end FileTree

end ChainScript
