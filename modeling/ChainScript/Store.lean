import ChainScript.Failure
import ChainScript.Path
import ChainScript.Voice

/-!
# The store

Voices and definitions by name, the files they were loaded from, and the load failures that no
execution has reported yet. A name has at most one voice and one definition, the ones inserted
last.
-/

namespace ChainScript

/-- Voices by name. -/
abbrev Voices := Catalogue Voice.name

/-- Definitions by name. -/
abbrev Definitions := Catalogue Definition.name

/-- What has been declared so far. -/
structure Store where
  voices : Voices
  definitions : Definitions
  /-- Where the files loaded so far are, the last one first. -/
  loaded : List Location
  /-- Load failures, oldest first. -/
  warnings : List Failure

namespace Store

/-- The store before anything is declared. -/
def empty : Store :=
  { voices := .empty, definitions := .empty, loaded := [], warnings := [] }

instance : Inhabited Store := ⟨empty⟩

/-- The voice with the given name. -/
def voice? (s : Store) (name : String) : Option Voice :=
  s.voices.find? name

/-- The definition with the given name. -/
def definition? (s : Store) (name : String) : Option Definition :=
  s.definitions.find? name

/-- The names of the voices in ascending order. -/
def voiceNames (s : Store) : List String :=
  s.voices.keys

/-- The names of the voices that are chains. -/
def chainNames (s : Store) : List String :=
  (s.voices.entries.filter fun v => v.chain?.isSome).map Voice.name

/-- Adds a voice, instead of the one with the same name if there is one. -/
def insertVoice (s : Store) (v : Voice) : Store :=
  { s with voices := s.voices.insert v }

/-- Adds a definition, instead of the one with the same name if there is one. -/
def insertDefinition (s : Store) (d : Definition) : Store :=
  { s with definitions := s.definitions.insert d }

/-- Notes that the file at a location has been read. -/
def markLoaded (s : Store) (location : Location) : Store :=
  { s with loaded := location :: s.loaded }

/-- Keeps a load failure until an execution reports it. -/
def warn (s : Store) (failure : Failure) : Store :=
  { s with warnings := s.warnings ++ [failure] }

/-- The store without its load failures. -/
def clearWarnings (s : Store) : Store :=
  { s with warnings := [] }

/-- The stores hold the same voices, definitions, loaded files and load failures. In which order
files were loaded makes no difference. -/
def same (s t : Store) : Bool :=
  s.voices.size == t.voices.size &&
    (s.voices.entries.zip t.voices.entries).all (fun (v, w) => v.same w) &&
    s.definitions.entries == t.definitions.entries &&
    s.loaded.all (· ∈ t.loaded) && t.loaded.all (· ∈ s.loaded) &&
    s.warnings == t.warnings

/-! ### Lookup -/

theorem name_of_voice? {s : Store} {name : String} {v : Voice} (h : s.voice? name = some v) :
    v.name = name :=
  Catalogue.key_of_find? h

theorem mem_chainNames_of_voice? {s : Store} {name text : String} {v : Voice}
    (h : s.voice? name = some v) (hchain : v.chain? = some text) : name ∈ s.chainNames := by
  rw [chainNames, List.mem_map]
  refine ⟨v, ?_, name_of_voice? h⟩
  rw [List.mem_filter]
  exact ⟨Catalogue.mem_of_find? h, by simp [hchain]⟩

theorem voice?_insertVoice (s : Store) (v : Voice) (name : String) :
    (s.insertVoice v).voice? name = if v.name = name then some v else s.voice? name :=
  Catalogue.find?_insert s.voices v name

@[simp]
theorem voice?_empty (name : String) : empty.voice? name = none := rfl

/-! ### The parts after each change -/

variable (s : Store) (v : Voice) (d : Definition) (failure : Failure) (location : Location)

@[simp]
theorem definitions_insertVoice : (s.insertVoice v).definitions = s.definitions := rfl

@[simp]
theorem loaded_insertVoice : (s.insertVoice v).loaded = s.loaded := rfl

@[simp]
theorem warnings_insertVoice : (s.insertVoice v).warnings = s.warnings := rfl

@[simp]
theorem voiceNames_insertDefinition : (s.insertDefinition d).voiceNames = s.voiceNames := rfl

@[simp]
theorem loaded_insertDefinition : (s.insertDefinition d).loaded = s.loaded := rfl

@[simp]
theorem warnings_insertDefinition : (s.insertDefinition d).warnings = s.warnings := rfl

@[simp]
theorem voiceNames_warn : (s.warn failure).voiceNames = s.voiceNames := rfl

@[simp]
theorem definitions_warn : (s.warn failure).definitions = s.definitions := rfl

@[simp]
theorem loaded_warn : (s.warn failure).loaded = s.loaded := rfl

@[simp]
theorem warnings_warn : (s.warn failure).warnings = s.warnings ++ [failure] := rfl

@[simp]
theorem voiceNames_markLoaded : (s.markLoaded location).voiceNames = s.voiceNames := rfl

@[simp]
theorem definitions_markLoaded : (s.markLoaded location).definitions = s.definitions := rfl

@[simp]
theorem loaded_markLoaded : (s.markLoaded location).loaded = location :: s.loaded := rfl

@[simp]
theorem warnings_markLoaded : (s.markLoaded location).warnings = s.warnings := rfl

end Store

/-! ### What is left to do -/

/-- Of some entries fewer are unseen once one of them is seen. Loading ends because of this, with
locations for entries, and so does execution, with names of voices. -/
theorem countP_not_mem_cons_lt {α : Type} [BEq α] [LawfulBEq α] {a : α} {entries seen : List α}
    (ha : a ∈ entries) (hseen : a ∉ seen) :
    entries.countP (· ∉ a :: seen) < entries.countP (· ∉ seen) := by
  have hle (part : List α) : part.countP (· ∉ a :: seen) ≤ part.countP (· ∉ seen) := by
    refine List.countP_mono_left fun b _ hb => ?_
    simp only [List.mem_cons, not_or, decide_eq_true_eq] at hb ⊢
    exact hb.2
  obtain ⟨before, after, rfl⟩ := List.append_of_mem ha
  rw [List.countP_append, List.countP_append, List.countP_cons_of_neg (by simp),
    List.countP_cons_of_pos (by simp [hseen])]
  exact Nat.add_lt_add_of_le_of_lt (hle before) (Nat.lt_succ_of_le (hle after))

end ChainScript
