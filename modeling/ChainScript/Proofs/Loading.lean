import ChainScript.Store.Load
import Mathlib.Data.List.Perm.Basic
import Mathlib.Logic.Relation
import Mathlib.Tactic.Lemma

/-!
# Loading, one declaration after the other

The frames on the stack of the loader are a way to keep the declarations that are still to be taken.
What loading does to the store is what taking declarations does, one after the other: those that are
in the frames at first, and those of each file that is marked on the way.
-/

namespace ChainScript

/-- The declaration in a text whose includes start from `base`. An include gets the path that it
leads to from there. -/
def Declaration.within (base : String) : Declaration → Declaration
  | voice v => voice v
  | definition d => definition d
  | inclusion path => inclusion (Path.join base path)

namespace Frame

/-- The declarations that are left in a frame. -/
def declarations (f : Frame) : List Declaration :=
  (f.rest.filterMap Declaration.readLine?).map (.within f.base)

/-- The declarations that are left in the frames of a stack. -/
def todo (frames : List Frame) : List Declaration :=
  frames.flatMap declarations

lemma todo_cons (f : Frame) (frames : List Frame) :
    todo (f :: frames) = f.declarations ++ todo frames :=
  List.flatMap_cons

section

variable {base : String} {line : List Char} {rest : List (List Char)} {frames : List Frame}

lemma todo_of_silent (h : Declaration.readLine? line = none) :
    todo ({ base, rest := line :: rest } :: frames) = todo ({ base, rest } :: frames) := by
  rw [todo_cons, todo_cons, declarations, declarations, List.filterMap_cons_none h]

lemma todo_of_declaration {d : Declaration} (h : Declaration.readLine? line = some d) :
    todo ({ base, rest := line :: rest } :: frames) =
      d.within base :: todo ({ base, rest } :: frames) := by
  rw [todo_cons, todo_cons, declarations, declarations, List.filterMap_cons_some h]
  rfl

end

end Frame

/-! ### Files and their includes -/

namespace FileTree

variable {files : FileTree}

/-- The location of the file that a path leads to, if that file can be read. -/
def destination? (t : FileTree) (path : String) : Option Location :=
  match t.locate path with
  | .error _ => none
  | .ok location =>
    match t.readAt location with
    | .error _ => none
    | .ok _ => some location

/-- What the file at a location declares. Its includes start from its directory. -/
def declarations (t : FileTree) (location : Location) : List Declaration :=
  match t.readAt location with
  | .error _ => []
  | .ok text => (Declaration.readAll text).map (.within (Path.ofLocation location.dropLast))

/-- The location of the file that an include leads to, if that file can be read. -/
@[simp]
def target? (t : FileTree) : Declaration → Option Location
  | .inclusion path => t.destination? path
  | .voice _ | .definition _ => none

/-- The file at the one location has an include that leads to the file at the other one, and both
can be read. -/
def Includes (t : FileTree) (here there : Location) : Prop :=
  ∃ d ∈ t.declarations here, t.target? d = some there

/-- The file at the second location is included from the one at the first, through any number of
files. -/
def Reaches (t : FileTree) : Location → Location → Prop :=
  Relation.ReflTransGen t.Includes

lemma destination?_eq_some_iff {path : String} {location : Location} :
    files.destination? path = some location ↔
      files.locate path = .ok location ∧ ∃ text, files.readAt location = .ok text := by
  rw [destination?]
  cases hlocate : files.locate path with
  | error fault => simp
  | ok here =>
    cases hread : files.readAt here with
    | error fault =>
      refine iff_of_false (by simp [hread]) ?_
      rintro ⟨hhere, text, htext⟩
      cases hhere
      rw [hread] at htext
      cases htext
    | ok text =>
      simp only [hread, Option.some.injEq, Except.ok.injEq, iff_self_and]
      rintro rfl
      exact ⟨text, hread⟩

lemma declarations_ofFile {location : Location} {text : String}
    (h : files.readAt location = .ok text) :
    (Frame.ofFile location text).declarations = files.declarations location := by
  rw [declarations, h]
  rfl

end FileTree

/-! ### Taking declarations -/

namespace Store

/-- Takes one declaration. An include only marks the file that it leads to. -/
def take (files : FileTree) (s : Store) : Declaration → Store
  | .voice v => s.insertVoice v
  | .definition d => s.insertDefinition d
  | .inclusion path =>
    match s.fetch files path with
    | .failed _ => s.warn (.missing path)
    | .known => s
    | .fresh location _ => s.markLoaded location

section

variable {files : FileTree} {s : Store} {path : String} {location : Location} {text : String}

lemma take_of_failed {fault : FileFault} (h : s.fetch files path = .failed fault) :
    s.take files (.inclusion path) = s.warn (.missing path) := by
  rw [take, h]

lemma take_of_known (h : s.fetch files path = .known) :
    s.take files (.inclusion path) = s := by
  rw [take, h]

lemma take_of_fresh (h : s.fetch files path = .fresh location text) :
    s.take files (.inclusion path) = s.markLoaded location := by
  rw [take, h]

lemma locate_of_fetch_fresh (h : s.fetch files path = .fresh location text) :
    files.locate path = .ok location := by
  rw [fetch] at h
  split at h
  · cases h
  · next here hlocate =>
    split_ifs at h
    split at h
    · cases h
    · cases h
      exact hlocate

lemma destination?_of_fetch_fresh (h : s.fetch files path = .fresh location text) :
    files.destination? path = some location :=
  FileTree.destination?_eq_some_iff.mpr
    ⟨locate_of_fetch_fresh h, text, (not_mem_loaded_of_fetch h).2⟩

end

/-- A declaration adds a voice, a definition or a failure, or marks a file that can be read and was
not marked yet, or does nothing. -/
@[elab_as_elim]
lemma take_cases {files : FileTree} {s : Store} {P : Store → Prop}
    (voice : ∀ v, P (s.insertVoice v)) (definition : ∀ d, P (s.insertDefinition d))
    (failed : ∀ path, P (s.warn (.missing path))) (known : P s)
    (fresh : ∀ location text, location ∉ s.loaded → files.readAt location = .ok text →
      P (s.markLoaded location))
    (d : Declaration) : P (s.take files d) := by
  cases d with
  | voice v => exact voice v
  | definition d => exact definition d
  | inclusion path =>
    cases hfetch : s.fetch files path with
    | failed fault =>
      rw [take_of_failed hfetch]
      exact failed path
    | known => rwa [take_of_known hfetch]
    | fresh location text =>
      obtain ⟨hunknown, hread⟩ := not_mem_loaded_of_fetch hfetch
      rw [take_of_fresh hfetch]
      exact fresh location text hunknown hread

/-- From `s` with the declarations `todo` one gets to `t` by taking the declarations `taken` one after
the other and marking the files at `fresh`. These are reached from the includes in `todo`, and their
declarations are taken too. -/
structure Loads (files : FileTree) (todo : List Declaration) (s : Store)
    (taken : List Declaration) (fresh : List Location) (t : Store) : Prop where
  result : t = taken.foldl (take files) s
  loaded : t.loaded = fresh ++ s.loaded
  taken : taken.Perm (todo ++ fresh.flatMap files.declarations)
  reached : ∀ location ∈ fresh, ∃ d ∈ todo, ∃ root, files.target? d = some root ∧
    files.Reaches root location

namespace Loads

variable {files : FileTree} {todo taken : List Declaration} {fresh : List Location} {s t : Store}

lemma nil (files : FileTree) (s : Store) : Loads files [] s [] [] s where
  result := rfl
  loaded := rfl
  taken := .refl _
  reached _ h := by cases h

/-- A declaration is taken that marks no file. -/
lemma cons {d : Declaration} {next : Store} (hnext : s.take files d = next)
    (hloaded : next.loaded = s.loaded) (h : Loads files todo next taken fresh t) :
    Loads files (d :: todo) s (d :: taken) fresh t where
  result := by rw [h.result, List.foldl_cons, hnext]
  loaded := by rw [h.loaded, hloaded]
  taken := h.taken.cons d
  reached location hlocation := by
    obtain ⟨first, hfirst, hreaches⟩ := h.reached location hlocation
    exact ⟨first, List.mem_cons_of_mem _ hfirst, hreaches⟩

/-- An include is taken that marks a file. The declarations of that file come before the others. -/
lemma inclusion {path text : String} {location : Location}
    (hfetch : s.fetch files path = .fresh location text)
    (h : Loads files (files.declarations location ++ todo) (s.markLoaded location) taken fresh t) :
    Loads files (.inclusion path :: todo) s (.inclusion path :: taken) (fresh ++ [location]) t where
  result := by rw [h.result, List.foldl_cons, take_of_fresh hfetch]
  loaded := by rw [h.loaded, loaded_markLoaded, List.append_assoc, List.singleton_append]
  taken := by
    have hlater : (files.declarations location ++ todo ++ fresh.flatMap files.declarations).Perm
        (todo ++ (fresh ++ [location]).flatMap files.declarations) := by
      rw [List.flatMap_append, List.flatMap_singleton, List.append_assoc, ← List.append_assoc todo]
      exact List.perm_append_comm
    exact (h.taken.trans hlater).cons _
  reached := by
    have hlocation : files.target? (.inclusion path) = some location :=
      destination?_of_fetch_fresh hfetch
    intro there hthere
    rcases List.mem_append.mp hthere with hfresh | hthere
    · obtain ⟨d, hd, root, hroot, hreaches⟩ := h.reached there hfresh
      rcases List.mem_append.mp hd with hdeclared | htodo
      · have hincludes : files.Includes location root := ⟨d, hdeclared, hroot⟩
        exact ⟨_, List.mem_cons_self .., location, hlocation, .head hincludes hreaches⟩
      · exact ⟨d, List.mem_cons_of_mem _ htodo, root, hroot, hreaches⟩
    · rw [List.mem_singleton.mp hthere]
      exact ⟨_, List.mem_cons_self .., location, hlocation, .refl⟩

/-- What is loaded after something else adds to it. -/
lemma append {todo' taken' : List Declaration} {fresh' : List Location} {u : Store}
    (hst : Loads files todo s taken fresh t) (htu : Loads files todo' t taken' fresh' u) :
    Loads files (todo ++ todo') s (taken ++ taken') (fresh' ++ fresh) u where
  result := by rw [htu.result, hst.result, List.foldl_append]
  loaded := by rw [htu.loaded, hst.loaded, List.append_assoc]
  taken := by
    have hmiddle : (fresh.flatMap files.declarations ++ (todo' ++
        fresh'.flatMap files.declarations)).Perm
        (todo' ++ (fresh' ++ fresh).flatMap files.declarations) := by
      rw [List.flatMap_append, ← List.append_assoc todo']
      exact List.perm_append_comm
    have hboth := hst.taken.append htu.taken
    rw [List.append_assoc] at hboth ⊢
    exact hboth.trans (hmiddle.append_left todo)
  reached := by
    intro location hlocation
    rcases List.mem_append.mp hlocation with hlocation | hlocation
    · obtain ⟨d, hd, hreaches⟩ := htu.reached location hlocation
      exact ⟨d, List.mem_append_right _ hd, hreaches⟩
    · obtain ⟨d, hd, hreaches⟩ := hst.reached location hlocation
      exact ⟨d, List.mem_append_left _ hd, hreaches⟩

/-- What is kept by each declaration that is taken is kept by all of them. -/
lemma keeps {P : Store → Prop} (h : Loads files todo s taken fresh t)
    (hstep : ∀ s d, P s → P (s.take files d)) (hs : P s) : P t := by
  rw [h.result]
  exact List.foldlRecOn taken (take files) hs fun s hs d _ => hstep s d hs

end Loads

/-- The loader takes the declarations in its frames and those of the files that it marks. -/
theorem loads_loadFrames (files : FileTree) (frames : List Frame) (s : Store) :
    ∃ taken fresh, Loads files (Frame.todo frames) s taken fresh (loadFrames files frames s) := by
  fun_induction loadFrames files frames s with
  | case1 s => exact ⟨[], [], .nil files s⟩
  | case2 s base frames ih => exact ih
  | case3 s base line rest frames hline ih => rwa [Frame.todo_of_silent hline]
  | case4 s base line rest frames v hline ih =>
    obtain ⟨taken, fresh, h⟩ := ih
    rw [Frame.todo_of_declaration hline]
    exact ⟨_, _, h.cons rfl (loaded_insertVoice s v)⟩
  | case5 s base line rest frames d hline ih =>
    obtain ⟨taken, fresh, h⟩ := ih
    rw [Frame.todo_of_declaration hline]
    exact ⟨_, _, h.cons rfl (loaded_insertDefinition s d)⟩
  | case6 s base line rest frames path hline target fault hfetch ih =>
    obtain ⟨taken, fresh, h⟩ := ih
    rw [Frame.todo_of_declaration hline]
    exact ⟨_, _, h.cons (take_of_failed hfetch) (loaded_warn s _)⟩
  | case7 s base line rest frames path hline target hfetch ih =>
    obtain ⟨taken, fresh, h⟩ := ih
    rw [Frame.todo_of_declaration hline]
    exact ⟨_, _, h.cons (take_of_known hfetch) rfl⟩
  | case8 s base line rest frames path hline target location text hfetch ih =>
    obtain ⟨taken, fresh, h⟩ := ih
    have hread := (not_mem_loaded_of_fetch hfetch).2
    rw [Frame.todo_cons, FileTree.declarations_ofFile hread] at h
    rw [Frame.todo_of_declaration hline]
    exact ⟨_, _, h.inclusion hfetch⟩

/-- Loading a file that can be loaded is including it. -/
theorem loads_load {files : FileTree} {path : String} {s t : Store}
    (h : s.load files path = .ok t) :
    ∃ taken fresh, Loads files [.inclusion path] s taken fresh t := by
  cases hfetch : s.fetch files path with
  | failed fault =>
    rw [load, hfetch] at h
    cases h
  | known =>
    rw [load, hfetch] at h
    cases h
    exact ⟨_, _, (Loads.nil files s).cons (take_of_known hfetch) rfl⟩
  | fresh location text =>
    rw [load, hfetch] at h
    cases h
    obtain ⟨taken, fresh, hloads⟩ :=
      loads_loadFrames files [.ofFile location text] (s.markLoaded location)
    have hread := (not_mem_loaded_of_fetch hfetch).2
    rw [Frame.todo_cons, FileTree.declarations_ofFile hread] at hloads
    exact ⟨_, _, hloads.inclusion hfetch⟩

end Store

end ChainScript
