import ChainScript.Proofs.Declaring
import ChainScript.Proofs.Floats

/-!
# What lines declare is well-formed

Whatever a line looks like, it declares nothing or something well-formed. Names, parameters, fields
and paths are such that they can be written in a line. A body is a chain between braces, or it is a
text, a truth value or a number. Lines that are empty or comments declare nothing.
-/

namespace ChainScript

open Text

/-! ### Words and ends -/

namespace Text

variable {p : Char → Bool} {text t : List Char}

lemma of_mem_pieces (h : t ∈ pieces p text) : ∀ c ∈ t, p c = false := by
  induction text generalizing t with
  | nil =>
    rw [pieces, List.mem_singleton] at h
    rw [h]
    exact List.forall_mem_nil _
  | cons c rest ih =>
    rw [pieces] at h
    split_ifs at h with hc
    · rcases List.mem_cons.mp h with rfl | h
      · exact List.forall_mem_nil _
      · exact ih h
    · obtain ⟨piece, more, hpieces⟩ := List.exists_cons_of_ne_nil (pieces_ne_nil p rest)
      rw [hpieces] at h ih
      rcases List.mem_cons.mp h with rfl | h
      · exact List.forall_mem_cons.mpr ⟨by simpa using hc, ih (List.mem_cons_self ..)⟩
      · exact ih (List.mem_cons_of_mem _ h)

/-- A word is not empty, and there are no separators in it. -/
lemma of_mem_words (h : t ∈ words p text) : t ≠ [] ∧ ∀ c ∈ t, p c = false := by
  obtain ⟨hpiece, hne⟩ := List.mem_filter.mp h
  exact ⟨by simpa using hne, of_mem_pieces hpiece⟩

lemma head?_dropWhile (p : Char → Bool) (t : List Char) : (t.dropWhile p).head?.any p = false := by
  have h := List.head?_dropWhile_not p t
  cases hhead : (t.dropWhile p).head? with
  | none => rfl
  | some c =>
    rw [hhead] at h
    exact h

end Text

/-! ### Bodies -/

/-- A chain text between braces, or a literal that is a text, a truth value or a number. -/
inductive Body.WellFormed : Body → Prop where
  | chain {text : String} (htrimmed : Trimmed text.toList) (hhead : text.toList.head? = some '{')
      (hlast : text.toList.getLast? = some '}') : WellFormed (.chain text)
  | text (t : String) : WellFormed (.literal (.str t))
  | truth (b : Bool) : WellFormed (.literal (.bool b))
  | number {x : Float} (h : x.isNaN = false) : WellFormed (.literal (.number x))

namespace Declaration

lemma wellFormed_of_literal? {text : List Char} {value : Value}
    (h : Lexeme.literal? text = some value) : (Body.literal value).WellFormed := by
  rw [Lexeme.literal?] at h
  cases hcategory : Lexeme.category text with
  | quoted =>
    rw [hcategory] at h
    cases h
    exact .text _
  | boolean =>
    rw [hcategory] at h
    cases h
    exact .truth _
  | number =>
    rw [hcategory] at h
    obtain ⟨x, hx, rfl⟩ := Option.map_eq_some_iff.mp h
    exact .number (Lexeme.isNaN_of_isNumeral (Lexeme.isNumeral_of_category hcategory) hx)
  | empty | identifier | other =>
    rw [hcategory] at h
    cases h

lemma wellFormed_of_readBody? {text : List Char} {body : Body} (htext : Trimmed text)
    (h : readBody? text = some body) : body.WellFormed := by
  rw [readBody?] at h
  split_ifs at h with hbraced hempty
  · cases h
    rw [Chain.isBraced, htext.trim_eq, Bool.and_eq_true, beq_iff_eq, beq_iff_eq] at hbraced
    rw [← String.toList_ofList (l := text)] at htext hbraced
    exact .chain htext hbraced.1 hbraced.2
  · cases h
    cases hliteral : Lexeme.literal? text with
    | none => exact .text _
    | some value => exact wellFormed_of_literal? hliteral

/-! ### Declarations -/

/-- Names, parameters, fields and paths can be written in a line, and the body is well-formed. -/
inductive WellFormed : Declaration → Prop where
  | voice {v : Voice} (hname : IsVoiceName v.name.toList)
      (hparameters : ∀ p ∈ v.parameters, Lexeme.isIdentifier p.toList = true)
      (hbody : v.body.WellFormed) : WellFormed (.voice v)
  | definition {d : Definition} (hname : Lexeme.isIdentifier d.name.toList = true)
      (hfields : ∀ f ∈ d.fields, IsField f.toList) : WellFormed (.definition d)
  | inclusion {path : String} (hpath : IsPath path.toList) : WellFormed (.inclusion path)

lemma isIdentifier_of_readParameters? {inner : List Char} {parameters : List String}
    (h : readParameters? inner = some parameters) :
    ∀ p ∈ parameters, Lexeme.isIdentifier p.toList = true := by
  rw [readParameters?] at h
  split_ifs at h with hall
  cases h
  intro p hp
  obtain ⟨name, hname, rfl⟩ := List.mem_map.mp hp
  rw [String.toList_ofList]
  exact List.all_eq_true.mp hall name hname

lemma isIdentifier_of_splitParameters? {head name : List Char} {parameters : List String}
    (h : splitParameters? head = some (name, parameters)) :
    ∀ p ∈ parameters, Lexeme.isIdentifier p.toList = true := by
  rw [splitParameters?] at h
  split at h
  · cases h
    exact List.forall_mem_nil _
  · obtain ⟨inner, -, h⟩ := Option.bind_eq_some_iff.mp h
    obtain ⟨_, hread, h⟩ := Option.map_eq_some_iff.mp h
    cases h
    exact isIdentifier_of_readParameters? hread

lemma wellFormed_of_readVoice? {rest : List Char} {v : Voice} (h : readVoice? rest = some v) :
    (voice v).WellFormed := by
  have hname := isVoiceName_of_readVoice? h
  obtain ⟨⟨head, text⟩, -, h⟩ := Option.bind_eq_some_iff.mp h
  obtain ⟨⟨name, parameters⟩, hhead, h⟩ := Option.bind_eq_some_iff.mp h
  obtain ⟨body, hbody, rfl⟩ := Option.map_eq_some_iff.mp h
  obtain ⟨⟨_, _⟩, hsplit, hword⟩ := Option.bind_eq_some_iff.mp hhead
  dsimp only at hword
  split_ifs at hword
  cases hword
  exact .voice hname (isIdentifier_of_splitParameters? hsplit)
    (wellFormed_of_readBody? (trimmed_trim text) hbody)

lemma wellFormed_of_readDefinition? {rest : List Char} {d : Definition}
    (h : readDefinition? rest = some d) : (definition d).WellFormed := by
  obtain ⟨⟨name, fields⟩, -, h⟩ := Option.bind_eq_some_iff.mp h
  dsimp only at h
  split_ifs at h with hname
  cases h
  refine .definition (by rwa [String.toList_ofList]) fun f hf => ?_
  obtain ⟨word, hword, rfl⟩ := List.mem_map.mp hf
  obtain ⟨hne, hseparates⟩ := of_mem_words hword
  rw [String.toList_ofList]
  refine ⟨hne, fun c hc => ?_⟩
  have hc := hseparates c hc
  rw [separatesFields, Bool.or_eq_false_iff, beq_eq_false_iff_ne] at hc
  exact hc.symm

/-- What is left between the quotes at both ends has no quotes there. -/
lemma isPath_dropQuotes {text : List Char} (hne : dropQuotes text ≠ []) :
    IsPath (dropQuotes text) := by
  refine ⟨hne, ?_, ?_⟩
  · -- what is dropped at the end leaves the first character where it is
    have hprefix : dropQuotes text <+: text.dropWhile Lexeme.isQuote := by
      rw [← List.reverse_suffix, dropQuotes, List.reverse_reverse]
      exact List.dropWhile_suffix _
    obtain ⟨tail, htail⟩ := hprefix
    have hhead := head?_dropWhile Lexeme.isQuote text
    rwa [← htail, List.head?_append_of_ne_nil _ hne] at hhead
  · rw [dropQuotes, List.getLast?_reverse]
    exact head?_dropWhile _ _

lemma wellFormed_of_readInclusion? {rest : List Char} {path : String}
    (h : readInclusion? rest = some path) : (inclusion path).WellFormed := by
  rw [readInclusion?] at h
  split_ifs at h with hempty
  cases h
  refine .inclusion ?_
  rw [String.toList_ofList]
  exact isPath_dropQuotes (by simpa using hempty)

lemma wellFormed_of_read? {line : String} {d : Declaration} (h : read? line = some d) :
    d.WellFormed := by
  simp only [read?, readLine?] at h
  split_ifs at h
  · obtain ⟨_, hread, rfl⟩ := Option.map_eq_some_iff.mp h
    exact wellFormed_of_readDefinition? hread
  · obtain ⟨_, hread, rfl⟩ := Option.map_eq_some_iff.mp h
    exact wellFormed_of_readVoice? hread
  · obtain ⟨_, hread, rfl⟩ := Option.map_eq_some_iff.mp h
    exact wellFormed_of_readInclusion? hread

/-- A line without anything but blanks, or one that starts with a mark of a comment after them. -/
def IsSilent (line : String) : Prop :=
  trim line.toList = [] ∨ ['#'] <+: trim line.toList ∨ ['/', '/'] <+: trim line.toList

instance (line : String) : Decidable (IsSilent line) :=
  inferInstanceAs (Decidable (_ = _ ∨ _ <+: _ ∨ _ <+: _))

lemma read?_of_isSilent {line : String} (h : IsSilent line) : read? line = none := by
  have hsilent : isSilent (trim line.toList) = true := by
    rcases h with hempty | ⟨rest, hrest⟩ | ⟨rest, hrest⟩
    · rw [hempty]
      rfl
    · rw [isSilent, ← hrest, stripStart?_append]
      simp
    · rw [isSilent, ← hrest, stripStart?_append]
      simp
  simp only [read?, readLine?, hsilent, if_true]

/-- All that is read from any line is well-formed, and nothing is read from an empty line or a
comment. -/
theorem read?_wellFormed (line : String) :
    (∀ d, read? line = some d → d.WellFormed) ∧ (IsSilent line → read? line = none) :=
  ⟨fun _ h => wellFormed_of_read? h, read?_of_isSilent⟩

namespace Scribble

/-- Slashes, parentheses, braces and quotes where they do not belong, parameters and fields left
out, a number and a word that reads as one elsewhere. -/
def accepted : List String :=
  ["voice a)\x7d'( x,, _1 ) // (b)/", "  voice \"v / -1.5e+3\t", "voice n / nan",
    "voice c / \x7d\x7b", "voice c/{}", "def d \x7b \x7bf1 , ,'g' \x7d \x7d x", "def e",
    "include '\" a'b \"\"'"]

/-- Blanks alone, and comments after blanks. -/
def silent : List String := [" \t ", "# voice v / 1", "  //voice v / 1"]

theorem read?_wellFormed_scribble :
    (∀ line ∈ accepted, ∃ d, read? line = some d ∧ d.WellFormed) ∧
      ∀ line ∈ silent, IsSilent line ∧ read? line = none := by
  have haccepted : ∀ line ∈ accepted, (read? line).isSome = true := by decide +kernel
  have hsilent : ∀ line ∈ silent, IsSilent line := by decide +kernel
  constructor
  · intro line hline
    obtain ⟨d, hd⟩ := Option.isSome_iff_exists.mp (haccepted line hline)
    exact ⟨d, hd, (read?_wellFormed line).1 d hd⟩
  · intro line hline
    exact ⟨hsilent line hline, (read?_wellFormed line).2 (hsilent line hline)⟩

end Scribble

end Declaration

end ChainScript
