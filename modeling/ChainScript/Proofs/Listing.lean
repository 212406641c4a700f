import ChainScript.Context
import ChainScript.Proofs.Deletion
import Mathlib.Data.List.Sort
import Mathlib.Data.String.Basic

/-!
# The order of a listing

In which order a directory lists its names is up to the operating system. Where a path leads and
what a file says do not depend on it, so neither does loading a file. The definition files of the
root are taken in the order of their names, and two listings of the same names have only one such
order.
-/

namespace ChainScript

namespace FileTree

/-- The trees have the same files and directories, and each directory lists the same names, but
perhaps in another order. -/
structure Relists (t u : FileTree) : Prop where
  workingDirectory : u.workingDirectory = t.workingDirectory
  node : ∀ location, u.node? location = t.node? location
  names : ∀ directory, (u.namesIn directory).Perm (t.namesIn directory)

/-! ### Entries in another order -/

lemma lookup_eq_of_perm {entries entries' : List (Location × Node)} (h : entries.Perm entries')
    (hnodup : (entries.map Prod.fst).Nodup) (location : Location) :
    entries'.lookup location = entries.lookup location := by
  induction h with
  | nil => rfl
  | cons entry _ ih =>
    rw [List.map_cons, List.nodup_cons] at hnodup
    rw [List.lookup_cons, List.lookup_cons, ih hnodup.2]
  | swap first second rest =>
    obtain ⟨l, node⟩ := first
    obtain ⟨l', node'⟩ := second
    have hne : l' ≠ l := fun heq => by
      rw [List.map_cons, List.map_cons, heq] at hnodup
      exact (List.nodup_cons.mp hnodup).1 List.mem_cons_self
    rw [List.lookup_cons, List.lookup_cons, List.lookup_cons, List.lookup_cons]
    cases hlocation : location == l with
    | false => rfl
    | true =>
      have hother : (location == l') = false := by
        rw [eq_of_beq hlocation]
        exact beq_eq_false_iff_ne.mpr hne.symm
      rw [hother]
  | trans hfirst _ ihfirst ihsecond =>
    rw [ihsecond ((hfirst.map Prod.fst).nodup_iff.mp hnodup), ihfirst hnodup]

/-- The entries of a tree that has one at each location can be listed in any order. -/
theorem relists_of_perm {t u : FileTree} (hentries : t.entries.Perm u.entries)
    (hnodup : t.locations.Nodup) (hdirectory : u.workingDirectory = t.workingDirectory) :
    t.Relists u where
  workingDirectory := hdirectory
  node location := by
    cases location with
    | nil => rfl
    | cons name rest => exact lookup_eq_of_perm hentries hnodup (name :: rest)
  names _ := hentries.symm.filterMap _

namespace Relists

variable {t u : FileTree} (h : t.Relists u)

include h

/-! ### Paths and files -/

lemma locate (path : String) : u.locate path = t.locate path :=
  locate_congr h.workingDirectory (fun here => Or.inl (h.node here)) path

lemma openPath (path : String) : u.openPath path = t.openPath path := by
  rw [FileTree.openPath, h.locate, FileTree.openPath]

lemma readAt (location : Location) : u.readAt location = t.readAt location := by
  rw [FileTree.readAt, h.node, FileTree.readAt]

lemma isFile (path : String) : u.isFile path = t.isFile path := by
  simp only [FileTree.isFile, h.openPath, h.node]

lemma fetch (s : Store) (path : String) : s.fetch u path = s.fetch t path := by
  simp only [Store.fetch, h.locate, h.readAt]

/-! ### Loading a file -/

/-- Each line comes to the same. -/
lemma expand (loaded : List Location) (f : Frame) : u.expand loaded f = t.expand loaded f := by
  fun_induction t.expand loaded f with
  | case1 => exact expand_nil
  | case2 loaded base line rest hline ih => rw [expand_of_silent hline, ih]
  | case3 loaded base line rest v hline ih => rw [expand_of_voice hline, ih]
  | case4 loaded base line rest d hline ih => rw [expand_of_definition hline, ih]
  | case5 loaded base line rest path hline target fault hfetch ih =>
    rw [expand_of_failed hline ((h.fetch _ _).trans hfetch), ih]
  | case6 loaded base line rest path hline target hfetch ih =>
    rw [expand_of_known hline ((h.fetch _ _).trans hfetch), ih]
  | case7 loaded base line rest path hline target location text hfetch inside ihinside ihrest =>
    rw [expand_of_fresh hline ((h.fetch _ _).trans hfetch), ihinside]
    exact congrArg (inside ++ ·) ihrest

lemma loadFrames (frames : List Frame) (s : Store) :
    Store.loadFrames u frames s = Store.loadFrames t frames s := by
  have hframe : Store.loadFrame u = Store.loadFrame t := by
    funext s f
    rw [Store.loadFrame, h.expand, Store.loadFrame]
  rw [Store.loadFrames_eq_foldl, hframe, ← Store.loadFrames_eq_foldl]

lemma load (s : Store) (path : String) : s.load u path = s.load t path := by
  simp only [Store.load, h.fetch, h.loadFrames]

lemma loadDefault : Context.loadDefault u = Context.loadDefault t := by
  funext s path
  simp only [Context.loadDefault, h.load]

/-! ### The definition files -/

lemma list (path : String) :
    (∃ fault, u.list path = .error fault ∧ t.list path = .error fault) ∨
      ∃ names names', u.list path = .ok names ∧ t.list path = .ok names' ∧ names.Perm names' := by
  rw [FileTree.list, FileTree.list, h.openPath]
  cases t.openPath path with
  | error fault => exact Or.inl ⟨fault, rfl, rfl⟩
  | ok location =>
    dsimp only [Except.bind]
    rw [h.node]
    cases t.node? location with
    | none => exact Or.inl ⟨.notFound, rfl, rfl⟩
    | some node =>
      cases node with
      | file text? => exact Or.inl ⟨.notDirectory, rfl, rfl⟩
      | directory => exact Or.inr ⟨_, _, rfl, rfl, h.names location⟩

/-- The definition files are the same in the same order. -/
lemma definitionFiles (c : Config) : c.definitionFiles u = c.definitionFiles t := by
  have hdefinition : c.isDefinitionFile u = c.isDefinitionFile t := by
    funext path
    rw [Config.isDefinitionFile, h.isFile, Config.isDefinitionFile]
  rw [Config.definitionFiles, Config.definitionFiles, hdefinition]
  rcases h.list c.root with ⟨fault, hu, ht⟩ | ⟨names, names', hu, ht, hperm⟩
  · rw [hu, ht]
  · -- names in order are equal if they are the same up to their order
    have hsorted : names.mergeSort (fun a b => a ≤ b) = names'.mergeSort fun a b => a ≤ b := by
      refine List.Perm.eq_of_sortedLE List.sortedLE_mergeSort List.sortedLE_mergeSort ?_
      calc (names.mergeSort fun a b => a ≤ b).Perm names := List.mergeSort_perm _ _
        names.Perm names' := hperm
        names'.Perm (names'.mergeSort fun a b => a ≤ b) := (List.mergeSort_perm _ _).symm
    rw [hu, ht]
    dsimp only [Except.map]
    rw [hsorted]

lemma loadRoot (c : Config) (s : Store) : Context.loadRoot c u s = Context.loadRoot c t s := by
  rw [Context.loadRoot, h.definitionFiles, h.loadDefault, Context.loadRoot]

end Relists

end FileTree

/-- Loading the definition files of the root has the same outcome in whatever order directories are
listed. -/
theorem Context.loadDefaults_of_relists {t u : FileTree} (h : t.Relists u) (c : Context) :
    c.loadDefaults u = c.loadDefaults t := by
  rw [loadDefaults, h.loadRoot, loadDefaults]

namespace Reversed

/-- Two files that include each other and declare the same voice, and one that is no text. -/
def files : FileTree where
  entries := [
    (["a.voices"], .file (some "include b.voices\nvoice shared / 1")),
    (["b.voices"], .file (some "include a.voices\nvoice shared / 2")),
    (["c.voices"], .file none)]

/-- The same files, the last one first. -/
def backwards : FileTree :=
  { files with entries := files.entries.reverse }

lemma relists : files.Relists backwards :=
  FileTree.relists_of_perm (List.reverse_perm files.entries).symm (by decide) rfl

theorem loadDefaults_backwards :
    files.Relists backwards ∧ files.namesIn [] = (backwards.namesIn []).reverse ∧
      (Context.ofConfig { root := "/" }).loadDefaults backwards =
        (Context.ofConfig { root := "/" }).loadDefaults files :=
  ⟨relists, by decide, Context.loadDefaults_of_relists relists _⟩

end Reversed

end ChainScript
