import ChainScript.Declaration
import ChainScript.FileTree
import ChainScript.Store

/-!
# Loading files

Definition files may include each other in any way. What is left to do is kept as a stack of
frames, one for each file that is being read and on top the one read now. An include of a file that
was not loaded before marks it and puts a frame on the stack, so no file is read twice and loading
ends.
-/

namespace ChainScript

/-- The rest of a text that is being loaded, and the directory its includes start from. -/
structure Frame where
  base : String
  rest : List (List Char)

namespace Frame

/-- The frame of a text that did not come from a file. -/
def ofText (base text : String) : Frame :=
  { base, rest := Text.lines text.toList }

/-- The frame of the file at a location. Its includes start from its directory. -/
def ofFile (location : Location) (text : String) : Frame :=
  ofText (Path.ofLocation location.dropLast) text

end Frame

/-- What comes of the wish to load a file. -/
inductive Fetched where
  /-- It cannot be found or read. -/
  | failed (fault : FileFault)
  /-- It has been loaded before. -/
  | known
  /-- It is to be loaded now. -/
  | fresh (location : Location) (text : String)

namespace Store

/-- Looks for the file that a path leads to and reads it if it was not loaded before. -/
def fetch (s : Store) (files : FileTree) (path : String) : Fetched :=
  match files.locate path with
  | .error fault => .failed fault
  | .ok location =>
    if location ∈ s.loaded then .known
    else match files.readAt location with
      | .error fault => .failed fault
      | .ok text => .fresh location text

theorem not_mem_loaded_of_fetch {s : Store} {files : FileTree} {path : String}
    {location : Location} {text : String} (h : s.fetch files path = .fresh location text) :
    location ∉ s.loaded ∧ files.readAt location = .ok text := by
  rw [fetch] at h
  split at h
  · simp at h
  · split at h
    · simp at h
    · next hunknown =>
      split at h
      · simp at h
      · next hread =>
        simp only [Fetched.fresh.injEq] at h
        obtain ⟨rfl, rfl⟩ := h
        exact ⟨hunknown, hread⟩

/-- The number of files in the tree that are not loaded. -/
def pending (s : Store) (files : FileTree) : Nat :=
  files.locations.countP (· ∉ s.loaded)

theorem pending_markLoaded_lt {s : Store} {files : FileTree} {location : Location}
    (hlocation : location ∈ files.locations) (hunknown : location ∉ s.loaded) :
    (s.markLoaded location).pending files < s.pending files :=
  countP_not_mem_cons_lt hlocation hunknown

/-- The number of lines left in the frames, and of the frames themselves. -/
def work : List Frame → Nat
  | [] => 0
  | f :: frames => f.rest.length + 1 + work frames

/-- Loads what is left in the frames. An include that fails is noted and otherwise passed over. -/
def loadFrames (files : FileTree) (frames : List Frame) (s : Store) : Store :=
  match frames with
  | [] => s
  | { rest := [], .. } :: frames => loadFrames files frames s
  | { base, rest := line :: rest } :: frames =>
    match Declaration.readLine? line with
    | none => loadFrames files ({ base, rest } :: frames) s
    | some (.voice v) => loadFrames files ({ base, rest } :: frames) (s.insertVoice v)
    | some (.definition d) => loadFrames files ({ base, rest } :: frames) (s.insertDefinition d)
    | some (.inclusion path) =>
      let target := Path.join base path
      match _h : s.fetch files target with
      | .failed _ => loadFrames files ({ base, rest } :: frames) (s.warn (.missing target))
      | .known => loadFrames files ({ base, rest } :: frames) s
      | .fresh location text =>
        loadFrames files (.ofFile location text :: { base, rest } :: frames) (s.markLoaded location)
termination_by (s.pending files, work frames)
decreasing_by
  · apply Prod.Lex.right
    simp [work]
  · apply Prod.Lex.right
    simp [work]
  · apply Prod.Lex.right'
    · exact Nat.le_refl _
    · simp [work]
  · apply Prod.Lex.right'
    · exact Nat.le_refl _
    · simp [work]
  · apply Prod.Lex.right'
    · exact Nat.le_refl _
    · simp [work]
  · apply Prod.Lex.right
    simp [work]
  · apply Prod.Lex.left
    have ⟨hunknown, hread⟩ := not_mem_loaded_of_fetch _h
    exact pending_markLoaded_lt (FileTree.mem_locations_of_readAt hread) hunknown

/-- Loads a text that did not come from a file. Its includes start from `base`. -/
def loadText (s : Store) (files : FileTree) (base text : String) : Store :=
  loadFrames files [.ofText base text] s

/-- Loads a file and what it includes, unless it has been loaded before. If the file itself cannot
be read, the store stays as it is. -/
def load (s : Store) (files : FileTree) (path : String) : Except Failure Store :=
  match s.fetch files path with
  | .failed fault => .error (.unreadable path fault.message)
  | .known => .ok s
  | .fresh location text => .ok (loadFrames files [.ofFile location text] (s.markLoaded location))

/-- The file that the path leads to has been loaded. -/
def hasLoaded (s : Store) (files : FileTree) (path : String) : Bool :=
  match files.locate path with
  | .ok location => location ∈ s.loaded
  | .error _ => false

end Store

end ChainScript
