import ChainScript.Proofs.Expansion
import Mathlib.Tactic.SplitIfs

/-!
# Includes that are deleted

If nothing can be loaded from a path, then a line that includes it comes to a load failure. A text
that loses this line, or a tree in which a file loses it, comes to the same changes without the
failure. Where the line is makes no difference: it may be in a file that is read only because
another one includes it.
-/

namespace ChainScript

/-! ### Paths that cannot be loaded -/

namespace FileTree

/-- Nothing can be loaded from the path, if the given files have been loaded before: it leads
nowhere, or to something that was not loaded and cannot be read as text. -/
def Unloadable (t : FileTree) (loaded : List Location) (path : String) : Prop :=
  (∃ fault, t.locate path = .error fault) ∨
    ∃ location fault, t.locate path = .ok location ∧ location ∉ loaded ∧
      t.readAt location = .error fault

variable {files : FileTree} {loaded : List Location} {path : String}

lemma Unloadable.cons {location : Location} {text : String} (h : files.Unloadable loaded path)
    (hread : files.readAt location = .ok text) : files.Unloadable (location :: loaded) path := by
  rcases h with hlocate | ⟨there, fault, hlocate, hunknown, hfault⟩
  · exact Or.inl hlocate
  · refine Or.inr ⟨there, fault, hlocate, fun hmem => ?_, hfault⟩
    rcases List.mem_cons.mp hmem with rfl | hmem
    · rw [hread] at hfault
      cases hfault
    · exact hunknown hmem

/-- No text that is loaded makes it possible to load the path. -/
lemma Unloadable.after_expand (h : files.Unloadable loaded path) (f : Frame) :
    files.Unloadable (Change.loadedAfter loaded (files.expand loaded f)) path := by
  fun_induction files.expand loaded f with
  | case1 loaded base => exact h
  | case2 loaded base line rest hline ih => exact ih h
  | case3 loaded base line rest v hline ih => exact ih h
  | case4 loaded base line rest d hline ih => exact ih h
  | case5 loaded base line rest path hline target fault hfetch ih => exact ih h
  | case6 loaded base line rest path hline target hfetch ih => exact ih h
  | case7 loaded base line rest path hline target location text hfetch inside ihinside ih =>
    rw [Change.loadedAfter_append]
    exact ih (ihinside (h.cons (Store.not_mem_loaded_of_fetch hfetch).2))

end FileTree

namespace Store

variable {s : Store} {files : FileTree} {path : String}

lemma fetch_eq_failed_iff :
    (∃ fault, s.fetch files path = .failed fault) ↔ files.Unloadable s.loaded path := by
  rw [fetch, FileTree.Unloadable]
  cases hlocate : files.locate path with
  | error fault => simp
  | ok location =>
    by_cases hloaded : location ∈ s.loaded
    · simp [hloaded]
    · cases hread : files.readAt location <;> simp [hloaded, hread]

lemma fetch_ofLoaded_eq_failed_iff {loaded : List Location} :
    (∃ fault, (ofLoaded loaded).fetch files path = .failed fault) ↔
      files.Unloadable loaded path :=
  fetch_eq_failed_iff

lemma load_eq_error_iff :
    (∃ failure, s.load files path = .error failure) ↔ files.Unloadable s.loaded path := by
  rw [← fetch_eq_failed_iff, load]
  cases s.fetch files path <;> simp

end Store

/-! ### Texts that lose a line -/

/-- The second frame is left of the first one if a line is deleted that includes the file at the
target. -/
def Frame.LosesInclude (f g : Frame) (target : String) : Prop :=
  ∃ base before line after path, f = { base, rest := before ++ line :: after } ∧
    g = { base, rest := before ++ after } ∧
    Declaration.readLine? line = some (.inclusion path) ∧ target = Path.join base path

namespace FileTree

variable {files : FileTree} {loaded : List Location} {target : String}

/-- A line with an include that fails comes to one load failure, and without it the other lines come
to the same. -/
lemma expand_of_losesInclude {f g : Frame} (h : f.LosesInclude g target)
    (hfail : files.Unloadable loaded target) :
    ∃ earlier later, files.expand loaded f = earlier ++ .failed target :: later ∧
      files.expand loaded g = earlier ++ later := by
  obtain ⟨base, before, line, after, path, rfl, rfl, hline, rfl⟩ := h
  have hlater := hfail.after_expand { base, rest := before }
  obtain ⟨fault, hfetch⟩ := Store.fetch_ofLoaded_eq_failed_iff.mpr hlater
  refine ⟨files.expand loaded { base, rest := before }, _, ?_, expand_append before after⟩
  rw [expand_append, expand_of_failed hline hfetch]

end FileTree

/-! ### Changes without a failure -/

namespace Change

/-- If the file at the location is marked by the first changes, then the others are the same without
one failure, and otherwise they are the same. -/
def Omits (location : Location) (target : String) (loaded : List Location)
    (changes others : List Change) : Prop :=
  if location ∉ loaded ∧ location ∈ loadedAfter loaded changes then
    ∃ earlier later, changes = earlier ++ .failed target :: later ∧ others = earlier ++ later
  else others = changes

namespace Omits

variable {location : Location} {target : String} {loaded : List Location}
  {changes others changes' others' : List Change}

lemma refl (h : location ∈ loadedAfter loaded changes → location ∈ loaded) :
    Omits location target loaded changes changes := by
  rw [Omits, if_neg fun hnew => hnew.1 (h hnew.2)]

lemma loadedAfter_eq (h : Omits location target loaded changes others) :
    loadedAfter loaded others = loadedAfter loaded changes := by
  rw [Omits] at h
  split_ifs at h with hnew
  · obtain ⟨earlier, later, rfl, rfl⟩ := h
    rw [loadedAfter_append, loadedAfter_append]
    rfl
  · rw [h]

lemma append (h : Omits location target loaded changes others)
    (h' : Omits location target (loadedAfter loaded changes) changes' others') :
    Omits location target loaded (changes ++ changes') (others ++ others') := by
  -- the file with the line is marked before, by the first changes, by the others, or not at all
  have hsubset := subset_loadedAfter (loadedAfter loaded changes) changes'
  rw [Omits] at h h' ⊢
  rw [loadedAfter_append]
  by_cases hknown : location ∈ loaded
  · have hmem := subset_loadedAfter loaded changes hknown
    rw [if_neg fun hnew => hnew.1 hknown] at h ⊢
    rw [if_neg fun hnew => hnew.1 hmem] at h'
    rw [h, h']
  · by_cases hmem : location ∈ loadedAfter loaded changes
    · rw [if_pos ⟨hknown, hmem⟩] at h
      rw [if_neg fun hnew => hnew.1 hmem] at h'
      rw [if_pos ⟨hknown, hsubset hmem⟩]
      obtain ⟨earlier, later, rfl, rfl⟩ := h
      exact ⟨earlier, later ++ changes', by simp, by simp [h']⟩
    · rw [if_neg fun hnew => hmem hnew.2] at h
      rw [h]
      split_ifs with hnew
      · rw [if_pos ⟨hmem, hnew.2⟩] at h'
        obtain ⟨earlier, later, rfl, rfl⟩ := h'
        exact ⟨changes ++ earlier, later, by simp, by simp⟩
      · rw [if_neg fun hnew' => hnew ⟨hknown, hnew'.2⟩] at h'
        rw [h']

lemma cons {change : Change} (hother : change.location? ≠ some location)
    (h : Omits location target (change.location?.toList ++ loaded) changes others) :
    Omits location target loaded (change :: changes) (change :: others) := by
  have hfirst : Omits location target loaded [change] [change] := refl fun hmem => by
    rcases List.mem_append.mp hmem with hmarked | hmem
    · exact absurd (Option.mem_toList.mp hmarked) hother
    · exact hmem
  exact hfirst.append h

end Omits

end Change

/-! ### Files that lose a line -/

/-- The files of the second tree are those of the first one, but the file at the location loses a
line that includes the file at the target. -/
structure FileTree.LosesInclude (t u : FileTree) (location : Location) (target : String) :
    Prop where
  locate : ∀ path, u.locate path = t.locate path
  readAt : ∀ other, other ≠ location → u.readAt other = t.readAt other
  text : ∃ before after, t.readAt location = .ok before ∧ u.readAt location = .ok after ∧
    (Frame.ofFile location before).LosesInclude (.ofFile location after) target

namespace FileTree.LosesInclude

variable {files files' : FileTree} {location : Location} {target path : String}
  {loaded : List Location}

lemma unloadable (h : files.LosesInclude files' location target)
    (hfail : files.Unloadable loaded path) : files'.Unloadable loaded path := by
  rw [Unloadable, h.locate]
  rcases hfail with hlocate | ⟨there, fault, hlocate, hunknown, hread⟩
  · exact Or.inl hlocate
  · refine Or.inr ⟨there, fault, hlocate, hunknown, ?_⟩
    rw [h.readAt, hread]
    rintro rfl
    obtain ⟨before, after, htext, -⟩ := h.text
    rw [hread] at htext
    cases htext

/-- The same comes of the wish to load a path, unless the file that loses the line is read. -/
lemma fetch_eq (h : files.LosesInclude files' location target)
    (hother : ∀ text, (Store.ofLoaded loaded).fetch files path ≠ .fresh location text) :
    (Store.ofLoaded loaded).fetch files' path = (Store.ofLoaded loaded).fetch files path := by
  obtain ⟨before, after, htext, -⟩ := h.text
  rw [Store.fetch, h.locate, Store.fetch]
  cases hlocate : files.locate path with
  | error fault => rfl
  | ok there =>
    by_cases hloaded : there ∈ (Store.ofLoaded loaded).loaded
    · simp only [if_pos hloaded]
    · have hne : there ≠ location := by
        rintro rfl
        refine hother before ?_
        rw [Store.fetch, hlocate]
        simp only [if_neg hloaded, htext]
      simp only [h.readAt there hne]

/-- A file is read whether or not it loses the line. -/
lemma fetch_fresh {there : Location} {text : String}
    (h : files.LosesInclude files' location target)
    (hfetch : (Store.ofLoaded loaded).fetch files path = .fresh there text) :
    ∃ text', (Store.ofLoaded loaded).fetch files' path = .fresh there text' ∧
      if there = location then (Frame.ofFile there text).LosesInclude (.ofFile there text') target
      else text' = text := by
  split_ifs with hthere
  · subst hthere
    obtain ⟨before, after, hbefore, hafter, hframe⟩ := h.text
    obtain ⟨hunknown, hread⟩ := Store.not_mem_loaded_of_fetch hfetch
    rw [hbefore] at hread
    cases hread
    refine ⟨after, ?_, hframe⟩
    rw [Store.fetch, h.locate, Store.locate_of_fetch_fresh hfetch]
    simp only [if_neg hunknown, hafter]
  · refine ⟨text, ?_, rfl⟩
    rw [h.fetch_eq (by simp [hfetch, hthere]), hfetch]

/-- A file that is read comes to the same without the failure if its lines do, and if the line with
the include is its own. -/
lemma omits_expandPath_of_fresh {there : Location} {text : String}
    (h : files.LosesInclude files' location target) (hfail : files.Unloadable loaded target)
    (hfetch : (Store.ofLoaded loaded).fetch files path = .fresh there text)
    (hinside : Change.Omits location target (there :: loaded)
      (files.expand (there :: loaded) (.ofFile there text))
      (files'.expand (there :: loaded) (.ofFile there text))) :
    Change.Omits location target loaded (files.expandPath loaded path)
      (files'.expandPath loaded path) := by
  obtain ⟨hunknown, hread⟩ := Store.not_mem_loaded_of_fetch hfetch
  obtain ⟨text', hfetch', htext⟩ := h.fetch_fresh hfetch
  rw [expandPath_of_fresh hfetch, expandPath_of_fresh hfetch']
  split_ifs at htext with hthere
  · subst hthere
    -- the file is marked now, so the trees make no difference to its lines; what is left is the
    -- line that it loses itself
    have hsame : files'.expand (there :: loaded) (.ofFile there text) =
        files.expand (there :: loaded) (.ofFile there text) := by
      rwa [Change.Omits, if_neg fun hnew => hnew.1 (List.mem_cons_self ..)] at hinside
    have hlater := h.unloadable (hfail.cons hread)
    obtain ⟨earlier, later, hwith, hwithout⟩ := expand_of_losesInclude htext hlater
    have hmarked : there ∈ Change.loadedAfter loaded
        (.opened there :: files.expand (there :: loaded) (.ofFile there text)) :=
      Change.subset_loadedAfter (there :: loaded) _ (List.mem_cons_self ..)
    rw [Change.Omits, if_pos ⟨hunknown, hmarked⟩, ← hsame, hwith, hwithout]
    exact ⟨.opened there :: earlier, later, rfl, rfl⟩
  · rw [htext]
    exact .cons (by simpa [Change.location?] using hthere) hinside

/-- If a file cannot be loaded, and another one loses a line that includes it, then what a text
comes to loses one failure, or nothing if the other file is not read. -/
theorem omits_expand (h : files.LosesInclude files' location target) (f : Frame)
    (hfail : files.Unloadable loaded target) :
    Change.Omits location target loaded (files.expand loaded f) (files'.expand loaded f) := by
  fun_induction files.expand loaded f with
  | case1 loaded base =>
    rw [expand_nil]
    exact .refl id
  | case2 loaded base line rest hline ih =>
    rw [expand_of_silent hline]
    exact ih hfail
  | case3 loaded base line rest v hline ih =>
    rw [expand_of_voice hline]
    exact .cons nofun (ih hfail)
  | case4 loaded base line rest d hline ih =>
    rw [expand_of_definition hline]
    exact .cons nofun (ih hfail)
  | case5 loaded base line rest path hline there fault hfetch ih =>
    have hfetch' : (Store.ofLoaded loaded).fetch files' there = .failed fault := by
      rw [h.fetch_eq (by simp [hfetch]), hfetch]
    rw [expand_of_failed hline hfetch']
    exact .cons nofun (ih hfail)
  | case6 loaded base line rest path hline there hfetch ih =>
    have hfetch' : (Store.ofLoaded loaded).fetch files' there = .known := by
      rw [h.fetch_eq (by simp [hfetch]), hfetch]
    rw [expand_of_known hline hfetch']
    exact ih hfail
  | case7 loaded base line rest path hline there opened text hfetch inside ihinside ih =>
    obtain ⟨text', hfetch', -⟩ := h.fetch_fresh hfetch
    have hlater := hfail.cons (Store.not_mem_loaded_of_fetch hfetch).2
    have hpath : inside = files.expandPath loaded there := (expandPath_of_fresh hfetch).symm
    have homits := h.omits_expandPath_of_fresh hfail hfetch (ihinside hlater)
    rw [expand_of_inclusion hline (by simp [there, hfetch']), homits.loadedAfter_eq, ← hpath]
    rw [← hpath] at homits
    exact homits.append (ih (hlater.after_expand _))

end FileTree.LosesInclude

/-! ### Deleting a line of a file -/

namespace FileTree

variable {t u : FileTree} {location : Location}

lemma lookup_map_replace (entries : List (Location × Node)) (node : Node) (here : Location) :
    (entries.map fun (l, n) => if l = location then (l, node) else (l, n)).lookup here =
      if here = location then (entries.lookup here).map fun _ => node else entries.lookup here := by
  induction entries with
  | nil => simp
  | cons e rest ih =>
    obtain ⟨l, n⟩ := e
    rw [List.map_cons, apply_ite (fun e => List.lookup here (e :: _)), List.lookup_cons,
      List.lookup_cons, List.lookup_cons, ih]
    by_cases hhere : here = l
    · subst hhere
      simp
    · have hne : (here == l) = false := by simpa using hhere
      simp [hne]

/-- A node that is put in the place of another one is there, and nothing else has changed. -/
lemma node?_put {old : Node} (h : t.node? location = some old) (hne : location ≠ [])
    (node : Node) (here : Location) :
    (t.put location node).node? here = if here = location then some node else t.node? here := by
  rw [put, h, Option.isSome_some, if_pos rfl]
  cases here with
  | nil => simp [node?, hne.symm]
  | cons name names =>
    rw [node?, lookup_map_replace, node?]
    · split_ifs with hhere
      · subst hhere
        rw [node?] at h
        · rw [h, Option.map_some]
        · simp
      · rfl
    · simp
    · simp

/-- Where a path leads depends only on the directories, and on where there are files. -/
lemma locate_congr (hdirectory : u.workingDirectory = t.workingDirectory)
    (hnode : ∀ here, u.node? here = t.node? here ∨
      ∃ a b, t.node? here = some (.file a) ∧ u.node? here = some (.file b)) (path : String) :
    u.locate path = t.locate path := by
  have hfollow : ∀ here names, u.follow here names = t.follow here names := by
    intro here names
    induction names generalizing here with
    | nil => rfl
    | cons name rest ih =>
      rw [follow, follow]
      rcases hnode here with hsame | ⟨a, b, ht, hu⟩
      · have hnext : (u.node? (here ++ [name])).isNone = (t.node? (here ++ [name])).isNone := by
          rcases hnode (here ++ [name]) with hsame | ⟨a, b, ht, hu⟩
          · rw [hsame]
          · rw [ht, hu]
            rfl
        simp only [hsame, hnext, ih]
      · rw [ht, hu]
  rw [locate, locate, hdirectory, hfollow]

/-- The line is deleted by putting the shorter text in the place of the file. -/
theorem losesInclude_put {text shorter target : String} (hread : t.readAt location = .ok text)
    (hframe : (Frame.ofFile location text).LosesInclude (.ofFile location shorter) target) :
    t.LosesInclude (t.put location (.file (some shorter))) location target := by
  have hnode : t.node? location = some (.file (some text)) := by
    rw [readAt] at hread
    split at hread <;> simp_all
  have hne : location ≠ [] := by
    rintro rfl
    cases hnode
  have hput := node?_put hnode hne (.file (some shorter))
  refine ⟨locate_congr ?_ fun here => ?_, fun other hother => ?_, text, shorter, hread, ?_, hframe⟩
  · rw [put]
    split_ifs <;> rfl
  · rw [hput]
    split_ifs with hhere
    · subst hhere
      exact Or.inr ⟨_, _, hnode, rfl⟩
    · exact Or.inl rfl
  · rw [readAt, hput, if_neg hother, readAt]
  · rw [readAt, hput, if_pos rfl]

end FileTree

end ChainScript
