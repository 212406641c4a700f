import ChainScript.Proofs.Cutting
import ChainScript.Proofs.Expansion
import ChainScript.Proofs.Trim

/-!
# Texts one after the other

Blanks around a line do not change what it declares, and an empty line declares nothing. So the
pieces between line feeds declare what the lines declare: neither a carriage return at the end of a
piece nor an empty piece at the end of the text makes a difference. Two texts with a line feed
between them declare what the first declares and then what the second declares, and loading both is
loading one after the other.
-/

namespace ChainScript

namespace Text

/-- The text with a carriage return before each line feed. -/
def withReturns (text : List Char) : List Char :=
  text.flatMap fun c => if c = '\n' then ['\r', '\n'] else [c]

lemma pieces_append_of_break {p : Char → Bool} {c : Char} (hc : p c = true) (s t : List Char) :
    pieces p (s ++ c :: t) = pieces p s ++ pieces p t := by
  rw [pieces_eq_splitOnP, pieces_eq_splitOnP, pieces_eq_splitOnP, List.splitOnP_append_cons s t hc]

/-- The first text is the second one with blanks after it. -/
def Pads (padded piece : List Char) : Prop :=
  ∃ blanks, allBlank blanks = true ∧ padded = piece ++ blanks

/-- The pieces between the line feeds are the same up to blanks at their ends. -/
lemma pads_pieces_withReturns (text : List Char) :
    List.Forall₂ Pads (pieces (· == '\n') (withReturns text)) (pieces (· == '\n') text) := by
  induction text with
  | nil => exact .cons ⟨[], rfl, rfl⟩ .nil
  | cons c rest ih =>
    by_cases hc : c = '\n'
    · subst hc
      exact .cons ⟨['\r'], rfl, rfl⟩ ih
    · have hreturns : withReturns (c :: rest) = c :: withReturns rest := by
        rw [withReturns, List.flatMap_cons, if_neg hc]
        rfl
      have hbreak : (c == '\n') = false := beq_eq_false_iff_ne.mpr hc
      -- the character comes in front of the first piece on both sides
      rw [hreturns, pieces, pieces, if_neg (by simp [hbreak]), if_neg (by simp [hbreak])]
      generalize pieces (· == '\n') (withReturns rest) = padded at ih ⊢
      generalize pieces (· == '\n') rest = plain at ih ⊢
      cases ih with
      | nil => exact .cons ⟨[], rfl, (List.append_nil _).symm⟩ .nil
      | cons hpiece hmore =>
        obtain ⟨blanks, hblanks, rfl⟩ := hpiece
        exact .cons ⟨blanks, hblanks, rfl⟩ hmore

end Text

open Text

/-! ### What a text declares -/

namespace Declaration

lemma readLine?_append_of_allBlank {blanks : List Char} (h : allBlank blanks = true)
    (line : List Char) : readLine? (line ++ blanks) = readLine? line := by
  have htrim : trim (line ++ blanks) = trim line := trim_append_append allBlank_nil h line
  rw [readLine?, htrim, readLine?]

lemma readLine?_dropReturn (line : List Char) : readLine? (dropReturn line) = readLine? line := by
  rw [dropReturn]
  split_ifs with hreturn
  · obtain ⟨before, rfl⟩ := List.getLast?_eq_some_iff.mp hreturn
    rw [List.dropLast_concat, readLine?_append_of_allBlank rfl]
  · rfl

/-- The pieces between line feeds declare what the lines declare. -/
lemma filterMap_linesOfPieces (pieces : List (List Char)) :
    (linesOfPieces pieces).filterMap readLine? = pieces.filterMap readLine? := by
  fun_induction linesOfPieces pieces with
  | case1 => rfl
  | case2 last hempty =>
    rw [List.isEmpty_iff.mp hempty]
    rfl
  | case3 last => rfl
  | case4 line rest _ ih =>
    rw [List.filterMap_cons, List.filterMap_cons, readLine?_dropReturn, ih]

lemma readAll_eq_pieces (text : String) :
    readAll text = (pieces (· == '\n') text.toList).filterMap readLine? :=
  filterMap_linesOfPieces _

/-- A text declares what the part before a line feed declares, and then what the other part
declares. -/
lemma readAll_append (t u : String) : readAll (t ++ "\n" ++ u) = readAll t ++ readAll u := by
  have htext : (t ++ "\n" ++ u).toList = t.toList ++ '\n' :: u.toList := by simp
  rw [readAll_eq_pieces, htext, pieces_append_of_break rfl, List.filterMap_append,
    ← readAll_eq_pieces, ← readAll_eq_pieces]

lemma filterMap_of_pads {padded plain : List (List Char)} (h : List.Forall₂ Pads padded plain) :
    padded.filterMap readLine? = plain.filterMap readLine? := by
  induction h with
  | nil => rfl
  | cons hpiece _ ih =>
    obtain ⟨blanks, hblanks, rfl⟩ := hpiece
    rw [List.filterMap_cons, List.filterMap_cons, readLine?_append_of_allBlank hblanks, ih]

lemma readAll_withReturns (t : String) :
    readAll (String.ofList (withReturns t.toList)) = readAll t := by
  rw [readAll_eq_pieces, readAll_eq_pieces, String.toList_ofList]
  exact filterMap_of_pads (pads_pieces_withReturns t.toList)

end Declaration

/-! ### Only declarations count -/

namespace FileTree

variable {files : FileTree} {loaded : List Location} {base : String} {rest rest' : List (List Char)}

/-- Lines that declare nothing can be left out. -/
lemma expand_filter (rest : List (List Char)) :
    files.expand loaded { base, rest } =
      files.expand loaded
        { base, rest := rest.filter fun line => (Declaration.readLine? line).isSome } := by
  induction rest generalizing loaded with
  | nil => rfl
  | cons line rest ih =>
    cases hline : Declaration.readLine? line with
    | none => rw [expand_of_silent hline, ih, List.filter_cons_of_neg (by simp [hline])]
    | some d => rw [List.filter_cons_of_pos (by simp [hline]), expand_cons, ih, ← expand_cons]

lemma expand_singleton_congr {line line' : List Char}
    (h : Declaration.readLine? line = Declaration.readLine? line') :
    files.expand loaded { base, rest := [line] } =
      files.expand loaded { base, rest := [line'] } := by
  rw [expand, h, ← expand]

lemma expand_map_congr (h : rest.map Declaration.readLine? = rest'.map Declaration.readLine?) :
    files.expand loaded { base, rest } = files.expand loaded { base, rest := rest' } := by
  induction rest generalizing loaded rest' with
  | nil => rw [List.map_eq_nil_iff.mp h.symm]
  | cons line rest ih =>
    obtain ⟨line', more, rfl, hline, hmore⟩ := List.map_eq_cons_iff.mp h.symm
    rw [expand_cons, expand_cons line', expand_singleton_congr hline.symm, ih hmore.symm]

/-- What lines come to depends only on what they declare. -/
lemma expand_congr
    (h : rest.filterMap Declaration.readLine? = rest'.filterMap Declaration.readLine?) :
    files.expand loaded { base, rest } = files.expand loaded { base, rest := rest' } := by
  rw [expand_filter, expand_filter rest']
  refine expand_map_congr ?_
  have hdeclared (lines : List (List Char)) :
      (lines.filter fun line => (Declaration.readLine? line).isSome).map Declaration.readLine? =
        (lines.filterMap Declaration.readLine?).map some := by
    rw [List.map_filterMap_some_eq_filter_map_isSome, List.filter_map]
    rfl
  rw [hdeclared, hdeclared, h]

end FileTree

namespace Store

variable (s : Store) (files : FileTree) (base : String)

/-- Texts that declare the same load alike. -/
lemma loadText_congr {t u : String} (h : Declaration.readAll t = Declaration.readAll u) :
    s.loadText files base t = s.loadText files base u := by
  rw [loadText_eq_foldl, loadText_eq_foldl]
  exact congrArg (List.foldl Change.apply s) (FileTree.expand_congr h)

/-- Loading two texts with a line feed between them leaves the store that is left by loading the
first and then the second. A carriage return before each line feed of a text changes nothing. -/
theorem loadText_linewise (t u : String) :
    s.loadText files base (t ++ "\n" ++ u) =
        (s.loadText files base t).loadText files base u ∧
      s.loadText files base (String.ofList (Text.withReturns t.toList)) =
        s.loadText files base t := by
  constructor
  · -- the lines of the whole text need not be those of its parts, but they declare the same
    have hlines : (lines (t ++ "\n" ++ u).toList).filterMap Declaration.readLine? =
        (lines t.toList ++ lines u.toList).filterMap Declaration.readLine? := by
      rw [List.filterMap_append]
      exact Declaration.readAll_append t u
    have hexpand : files.expand s.loaded (.ofText base (t ++ "\n" ++ u)) =
        files.expand s.loaded { base, rest := lines t.toList ++ lines u.toList } :=
      FileTree.expand_congr hlines
    rw [loadText_eq_foldl, hexpand, FileTree.expand_append, List.foldl_append, loadText_eq_foldl,
      loadText_eq_foldl, Change.loaded_foldl_apply]
    rfl
  · exact loadText_congr s files base (Declaration.readAll_withReturns t)

end Store

end ChainScript
