import ChainScript.Declaration
import ChainScript.Proofs.Cutting
import ChainScript.Proofs.Numerals

/-!
# Writing and reading declarations

The names, parameters, bodies, fields and paths that a line can be written with so that it declares
them again. A line is taken apart at the first slash, the first parenthesis or brace, the last
closing brace and the quotes at the ends, and none of these is mistaken for a character of what was
written.
-/

namespace ChainScript

open Text

namespace Lexeme

/-! ### Identifiers -/

lemma isBlank_of_isWordChar {c : Char} (h : isWordChar c = true) : isBlank c = false := by
  rw [Bool.eq_false_iff]
  intro hblank
  have hrange : (48 ≤ c.toNat ∧ c.toNat ≤ 57) ∨ (65 ≤ c.toNat ∧ c.toNat ≤ 90) ∨ c.toNat = 95 ∨
      (97 ≤ c.toNat ∧ c.toNat ≤ 122) := by
    delta isWordChar Char.isAlphanum Char.isAlpha Char.isUpper Char.isLower Char.isDigit at h
    simp only [Bool.or_eq_true, Bool.and_eq_true, decide_eq_true_eq, beq_iff_eq,
      UInt32.le_iff_toNat_le] at h
    rcases h with ((h | h) | h) | rfl
    · exact Or.inr (Or.inl h)
    · exact Or.inr (Or.inr (Or.inr h))
    · exact Or.inl h
    · exact Or.inr (Or.inr (Or.inl rfl))
  simp only [isBlank, Bool.or_eq_true, Bool.and_eq_true, decide_eq_true_eq, beq_iff_eq] at hblank
  omega

lemma isWordChar_of_isIdentifier {t : List Char} (h : isIdentifier t = true) :
    ∀ c ∈ t, isWordChar c = true := by
  cases t with
  | nil => cases h
  | cons c rest =>
    rw [isIdentifier, Bool.and_eq_true, Bool.or_eq_true, List.all_eq_true] at h
    intro d hd
    rcases List.mem_cons.mp hd with rfl | hd
    · rw [isWordChar, Char.isAlphanum]
      rcases h.1 with hfirst | hfirst <;> simp [hfirst]
    · exact h.2 d hd

lemma ne_nil_of_isIdentifier {t : List Char} (h : isIdentifier t = true) : t ≠ [] := by
  rintro rfl
  cases h

/-- Only letters, digits and underscores stand in an identifier. -/
lemma not_mem_of_isIdentifier {t : List Char} (h : isIdentifier t = true) {d : Char}
    (hd : isWordChar d = false) : d ∉ t := by
  intro hmem
  rw [isWordChar_of_isIdentifier h d hmem] at hd
  cases hd

lemma trimmed_of_isIdentifier {t : List Char} (h : isIdentifier t = true) : Trimmed t :=
  trimmed_of_forall fun c hc => isBlank_of_isWordChar (isWordChar_of_isIdentifier h c hc)

end Lexeme

namespace Declaration

/-! ### Lines -/

lemma read?_writeLine {keyword rest : List Char} (hkeyword : Lexeme.isIdentifier keyword = true)
    (hne : rest ≠ []) (hrest : Trimmed rest) : read? (writeLine keyword rest) =
      if keyword = ['d', 'e', 'f'] then (readDefinition? rest).map definition
      else if keyword = ['v', 'o', 'i', 'c', 'e'] then (readVoice? rest).map voice
      else if keyword = ['i', 'n', 'c', 'l', 'u', 'd', 'e'] then
        (readInclusion? rest).map inclusion
      else none := by
  have htrimmed : Trimmed (keyword ++ [' '] ++ rest) :=
    (Lexeme.trimmed_of_isIdentifier hkeyword).append_append hrest
      (Lexeme.ne_nil_of_isIdentifier hkeyword) hne [' ']
  have hsilent : isSilent (keyword ++ ' ' :: rest) = false := by
    obtain ⟨c, ks, rfl⟩ := List.exists_cons_of_ne_nil (Lexeme.ne_nil_of_isIdentifier hkeyword)
    have hhash : ¬ '#' = c := by
      rintro rfl
      exact Lexeme.not_mem_of_isIdentifier hkeyword (by decide) (List.mem_cons_self ..)
    have hslash : ¬ '/' = c := by
      rintro rfl
      exact Lexeme.not_mem_of_isIdentifier hkeyword (by decide) (List.mem_cons_self ..)
    simp [isSilent, stripStart?, hhash, hslash]
  have hsplit : splitKeyword (keyword ++ ' ' :: rest) = (keyword, rest) := by
    have hblank : ∀ c ∈ keyword, isBlank c = false := fun c hc =>
      Lexeme.isBlank_of_isWordChar (Lexeme.isWordChar_of_isIdentifier hkeyword c hc)
    have hleft : trimLeft ([' '] ++ rest) = rest := by
      obtain ⟨c, cs, rfl⟩ := List.exists_cons_of_ne_nil hne
      rw [trimLeft_append_of_allBlank (by decide), trimLeft_cons_of_not_blank (hrest.1 c rfl)]
    rw [splitKeyword, breakAtBlank_append hblank (by decide)]
    exact congrArg (Prod.mk keyword) hleft
  rw [List.append_assoc, List.singleton_append] at htrimmed
  rw [read?, writeLine, String.toList_ofList, readLine?, htrimmed.trim_eq]
  simp only [hsilent, hsplit, Bool.false_eq_true, if_false]

/-! ### Voices -/

/-- The text can be the name of a voice. -/
def IsVoiceName (name : List Char) : Prop :=
  name ≠ [] ∧ ∀ c ∈ name, isBlank c = false ∧ c ≠ '/' ∧ c ≠ '('

instance (name : List Char) : Decidable (IsVoiceName name) :=
  decidable_of_iff
    (name ≠ [] ∧ name.all (fun c => !isBlank c && (c != '/' && c != '(')) = true)
    (by simp [IsVoiceName])

lemma IsVoiceName.trimmed {name : List Char} (h : IsVoiceName name) : Trimmed name :=
  trimmed_of_forall fun c hc => (h.2 c hc).1

/-- The names between commas are found again, whatever blanks there are before the first. -/
lemma pieces_joined {b : List Char} (hb : allBlank b = true) {names : List (List Char)}
    (h : ∀ t ∈ names, Lexeme.isIdentifier t = true) :
    ((pieces (· == ',') (b ++ [',', ' '].intercalate names)).map trim).filter
      (fun t => !t.isEmpty) = names := by
  have hcomma : ∀ c ∈ b, (c == ',') = false := by
    intro c hc
    rw [beq_eq_false_iff_ne]
    rintro rfl
    exact absurd (allBlank_iff.mp hb ',' hc) (by decide)
  induction names generalizing b with
  | nil =>
    rw [List.intercalate_nil, List.append_nil, pieces_of_forall hcomma]
    simp [trim_of_allBlank hb]
  | cons t more ih =>
    have ht := h t (by simp)
    have htrim : trim (b ++ t) = t := (Lexeme.trimmed_of_isIdentifier ht).trim_prepend hb
    have hname : ∀ c ∈ b ++ t, (c == ',') = false := by
      intro c hc
      rcases List.mem_append.mp hc with hc | hc
      · exact hcomma c hc
      · rw [beq_eq_false_iff_ne]
        rintro rfl
        exact Lexeme.not_mem_of_isIdentifier ht (by decide) hc
    by_cases hmore : more = []
    · rw [hmore, List.intercalate_singleton, pieces_of_forall hname]
      simp [htrim, Lexeme.ne_nil_of_isIdentifier ht]
    · have hrest := ih (b := [' ']) (by decide) (fun u hu => h u (List.mem_cons_of_mem _ hu))
        (by simp)
      rw [List.intercalate_cons_of_ne_nil hmore, List.append_assoc, ← List.append_assoc,
        List.cons_append, pieces_append_cons hname (by simp), List.map_cons, htrim,
        List.filter_cons_of_pos (by simp [Lexeme.ne_nil_of_isIdentifier ht]), hrest]

lemma readParameters?_joinNames {parameters : List String}
    (h : ∀ p ∈ parameters, Lexeme.isIdentifier p.toList = true) :
    readParameters? (joinNames parameters) = some parameters := by
  have hnames : ∀ t ∈ parameters.map String.toList, Lexeme.isIdentifier t = true := by
    intro t ht
    obtain ⟨p, hp, rfl⟩ := List.mem_map.mp ht
    exact h p hp
  have hpieces := pieces_joined allBlank_nil hnames
  rw [List.nil_append] at hpieces
  rw [readParameters?, joinNames, hpieces, if_pos (List.all_eq_true.mpr hnames)]
  simp [Function.comp_def]

variable {name : String} {parameters : List String}

lemma readHead?_writeHead (hname : IsVoiceName name.toList)
    (hparameters : ∀ p ∈ parameters, Lexeme.isIdentifier p.toList = true) :
    readHead? (writeHead name parameters) = some (name, parameters) := by
  have hopen : '(' ∉ name.toList := fun hmem => (hname.2 '(' hmem).2.2 rfl
  have hword : (name.toList.isEmpty || name.toList.any isBlank) = false := by
    rw [Bool.or_eq_false_iff, List.isEmpty_eq_false_iff, List.any_eq_false]
    exact ⟨hname.1, fun c hc => by simp [(hname.2 c hc).1]⟩
  have hsplit : splitParameters? (writeHead name parameters) = some (name.toList, parameters) := by
    rw [writeHead, splitParameters?]
    cases parameters with
    | nil => simp [breakAt?_eq_none_iff.mpr hopen]
    | cons p more =>
      have hread := readParameters?_joinNames hparameters
      simp only [List.isEmpty_cons, Bool.false_eq_true, if_false, List.cons_append,
        breakAt?_append hopen, stripEnd?_append, Option.bind_some, hread, Option.map_some,
        hname.trimmed.trim_eq]
  rw [readHead?, hsplit, Option.bind_some]
  simp only [hword, Bool.false_eq_true, if_false, String.ofList_toList]

lemma trimmed_writeHead (hname : IsVoiceName name.toList) (parameters : List String) :
    Trimmed (writeHead name parameters) := by
  rw [writeHead]
  split
  · simpa using hname.trimmed
  · have hclose : Trimmed [')'] := trimmed_of_all rfl
    have := hname.trimmed.append_append hclose hname.1 (by simp) ('(' :: joinNames parameters)
    simpa using this

lemma slash_not_mem_joinNames {names : List String} (h : ∀ p ∈ names, '/' ∉ p.toList) :
    '/' ∉ joinNames names := by
  rw [joinNames]
  induction names with
  | nil => simp
  | cons p more ih =>
    rw [List.map_cons]
    by_cases hmore : more = []
    · simpa [hmore] using h p (by simp)
    · rw [List.intercalate_cons_of_ne_nil (by simpa using hmore)]
      simpa [h p (by simp)] using ih fun q hq => h q (List.mem_cons_of_mem _ hq)

lemma slash_not_mem_writeHead (hname : IsVoiceName name.toList)
    (hparameters : ∀ p ∈ parameters, Lexeme.isIdentifier p.toList = true) :
    '/' ∉ writeHead name parameters := by
  have hslash : '/' ∉ name.toList := fun hmem => (hname.2 '/' hmem).2.1 rfl
  have hjoined : '/' ∉ joinNames parameters := slash_not_mem_joinNames fun p hp =>
    Lexeme.not_mem_of_isIdentifier (hparameters p hp) (by decide)
  rw [writeHead]
  split <;> simp [hslash, hjoined]

/-- The line of a voice declares it if the body is read from its text. -/
theorem read?_writeVoice {text : String} {body : Body} (hname : IsVoiceName name.toList)
    (hparameters : ∀ p ∈ parameters, Lexeme.isIdentifier p.toList = true)
    (htext : Trimmed text.toList) (hbody : readBody? text.toList = some body) :
    read? (writeVoice name parameters text) = some (.voice { name, parameters, body }) := by
  have hne : text.toList ≠ [] := by
    intro hnil
    rw [hnil] at hbody
    cases hbody
  have hhead := trimmed_writeHead hname parameters
  have hheadne : writeHead name parameters ≠ [] := by simp [writeHead, hname.1]
  have hrest : Trimmed (writeHead name parameters ++ [' ', '/', ' '] ++ text.toList) :=
    hhead.append_append htext hheadne hne [' ', '/', ' ']
  have hbreak : breakAt? '/' (writeHead name parameters ++ ' ' :: '/' :: ' ' :: text.toList) =
      some (writeHead name parameters ++ [' '], ' ' :: text.toList) := by
    have hslash : '/' ∉ writeHead name parameters ++ [' '] := by
      simpa using slash_not_mem_writeHead hname hparameters
    simpa using breakAt?_append hslash (' ' :: text.toList)
  have hblank : allBlank [' '] = true := by decide
  have htrimhead : trim (writeHead name parameters ++ [' ']) = writeHead name parameters :=
    hhead.trim_append hblank
  have htrimtext : trim (' ' :: text.toList) = text.toList := htext.trim_prepend hblank
  rw [writeVoice, read?_writeLine (by decide) (by simp) (by simpa using hrest), if_neg (by decide),
    if_pos rfl, readVoice?, hbreak, Option.bind_some]
  simp only [htrimhead, htrimtext, readHead?_writeHead hname hparameters, Option.bind_some, hbody,
    Option.map_some]

lemma isVoiceName_of_readVoice? {rest : List Char} {v : Voice} (h : readVoice? rest = some v) :
    IsVoiceName v.name.toList := by
  obtain ⟨⟨head, body⟩, hbreak, h⟩ := Option.bind_eq_some_iff.mp h
  obtain ⟨⟨name, parameters⟩, hhead, h⟩ := Option.bind_eq_some_iff.mp h
  obtain ⟨_, -, rfl⟩ := Option.map_eq_some_iff.mp h
  obtain ⟨⟨text, _⟩, hsplit, hword⟩ := Option.bind_eq_some_iff.mp hhead
  have hslash : '/' ∉ trim head := fun hmem =>
    (eq_append_of_breakAt? hbreak).2 ((trim_isInfix head).subset hmem)
  -- the name is what stands before the first parenthesis
  have htext : text.Sublist (trim head) ∧ '(' ∉ text := by
    rw [splitParameters?] at hsplit
    split at hsplit
    · next hnone =>
      cases hsplit
      exact ⟨List.Sublist.refl _, breakAt?_eq_none_iff.mp hnone⟩
    · next before after hopen =>
      obtain ⟨inner, -, hinner⟩ := Option.bind_eq_some_iff.mp hsplit
      obtain ⟨_, -, hpair⟩ := Option.map_eq_some_iff.mp hinner
      cases hpair
      obtain ⟨heq, hnot⟩ := eq_append_of_breakAt? hopen
      refine ⟨?_, fun hmem => hnot ((trim_isInfix before).subset hmem)⟩
      rw [heq]
      exact (trim_isInfix before).sublist.trans (List.sublist_append_left _ _)
  dsimp only at hword
  split_ifs at hword with hbad
  cases hword
  rw [Bool.not_eq_true, Bool.or_eq_false_iff, List.isEmpty_eq_false_iff, List.any_eq_false] at hbad
  rw [IsVoiceName, String.toList_ofList]
  refine ⟨hbad.1, fun c hc => ⟨by simpa using hbad.2 c hc, ?_, ?_⟩⟩
  · rintro rfl
    exact hslash (htext.1.subset hc)
  · rintro rfl
    exact htext.2 hc

lemma readVoice?_of_read? {line : String} {v : Voice} (h : read? line = some (.voice v)) :
    ∃ rest, readVoice? rest = some v := by
  simp only [read?, readLine?] at h
  split_ifs at h
  · obtain ⟨_, -, hd⟩ := Option.map_eq_some_iff.mp h
    cases hd
  · obtain ⟨_, hv, hd⟩ := Option.map_eq_some_iff.mp h
    cases hd
    exact ⟨_, hv⟩
  · obtain ⟨_, -, hd⟩ := Option.map_eq_some_iff.mp h
    cases hd

/-- Only what can be the name of a voice is declared as one. -/
theorem isVoiceName_of_read? {line : String} {v : Voice} (h : read? line = some (.voice v)) :
    IsVoiceName v.name.toList := by
  obtain ⟨rest, hrest⟩ := readVoice?_of_read? h
  exact isVoiceName_of_readVoice? hrest

/-! ### Bodies -/

/-- The text can be written as the body of a voice, and stands for the given body: a chain in braces,
a text between double quotes, a truth value or a number. -/
inductive IsBodyText : List Char → Body → Prop where
  | chain {t : List Char} (hhead : t.head? = some '{') (hlast : t.getLast? = some '}') :
      IsBodyText t (.chain (String.ofList t))
  | quotation (inside : List Char) :
      IsBodyText ('"' :: inside ++ ['"']) (.literal (.str (String.ofList inside)))
  | yes : IsBodyText ['t', 'r', 'u', 'e'] (.literal (.bool true))
  | no : IsBodyText ['f', 'a', 'l', 's', 'e'] (.literal (.bool false))
  | number {t : List Char} {x : Float} (h : Lexeme.category t = .number)
      (hx : Decimal.readFloat? t = some x) : IsBodyText t (.literal (.number x))

/-- Each text that the lexer takes for a number is the body of a number. -/
lemma exists_isBodyText_number {t : List Char} (h : Lexeme.category t = .number) :
    ∃ x, IsBodyText t (.literal (.number x)) := by
  have hnumeral := Lexeme.isNumeral_of_category h
  rw [Lexeme.isNumeral, Bool.and_eq_true] at hnumeral
  obtain ⟨x, hx⟩ := Option.isSome_iff_exists.mp hnumeral.2
  exact ⟨x, .number h hx⟩

namespace IsBodyText

variable {t : List Char} {body : Body}

lemma trimmed (h : IsBodyText t body) : Trimmed t := by
  cases h with
  | chain hhead hlast =>
    constructor
    · intro c hc
      rw [hhead, Option.mem_some_iff] at hc
      rw [← hc]
      decide
    · intro c hc
      rw [hlast, Option.mem_some_iff] at hc
      rw [← hc]
      decide
  | quotation inside => exact trimmed_of_ends (by decide) (by decide) inside
  | yes => exact trimmed_of_all rfl
  | no => exact trimmed_of_all rfl
  | number h _ => exact Lexeme.trimmed_of_isNumeral (Lexeme.isNumeral_of_category h)

lemma readBody?_eq (h : IsBodyText t body) : readBody? t = some body := by
  have htrim := h.trimmed.trim_eq
  have hliteral : ∀ {v : Value}, t.head? ≠ some '{' → Lexeme.literal? t = some v →
      readBody? t = some (.literal v) := by
    intro v hhead hv
    have hbraced : Chain.isBraced t = false := by simp [Chain.isBraced, htrim, hhead]
    have hne : t.isEmpty = false := by
      rw [List.isEmpty_eq_false_iff]
      rintro rfl
      simp [Lexeme.literal?, Lexeme.category] at hv
    rw [readBody?, hbraced, hne, hv]
    rfl
  cases h with
  | chain hhead hlast =>
    have hbraced : Chain.isBraced t = true := by simp [Chain.isBraced, htrim, hhead, hlast]
    rw [readBody?, if_pos hbraced]
  | quotation inside =>
    apply hliteral
    · simp
    · simp [Lexeme.literal?, Lexeme.category, Lexeme.isQuoted, Lexeme.isQuote, Lexeme.inside]
  | yes => exact hliteral (by decide) rfl
  | no => exact hliteral (by decide) rfl
  | number h hx =>
    apply hliteral
    · intro hhead
      have hchars := Lexeme.isNumberChar_of_isNumeral (Lexeme.isNumeral_of_category h)
      rcases hchars '{' (List.mem_of_head? hhead) with hc | hc <;> revert hc <;> decide
    · rw [Lexeme.literal?, h]
      simp [hx]

end IsBodyText

/-! ### Definitions -/

/-- The text can be a field of a definition. -/
def IsField (field : List Char) : Prop :=
  field ≠ [] ∧ ∀ c ∈ field, isBlank c = false ∧ c ≠ ','

instance (field : List Char) : Decidable (IsField field) :=
  decidable_of_iff (field ≠ [] ∧ field.all (fun c => !isBlank c && c != ',') = true)
    (by simp [IsField])

lemma words_joined {fields : List (List Char)} (h : ∀ f ∈ fields, IsField f) :
    words separatesFields ([',', ' '].intercalate fields ++ [' ']) = fields := by
  have hblank : separatesFields ' ' = true := by decide
  induction fields with
  | nil => simp [words_cons hblank]
  | cons f more ih =>
    have hne : f ≠ [] := (h f (by simp)).1
    have hf : ∀ c ∈ f, separatesFields c = false := by
      intro c hc
      obtain ⟨hc, hcomma⟩ := (h f (by simp)).2 c hc
      simp [separatesFields, hc, hcomma]
    by_cases hmore : more = []
    · rw [hmore, List.intercalate_singleton, words_append_cons hne hf hblank, words_nil]
    · have hrest := ih fun g hg => h g (List.mem_cons_of_mem _ hg)
      rw [List.intercalate_cons_of_ne_nil hmore, List.append_assoc, List.append_assoc,
        List.cons_append, words_append_cons hne hf (by decide), List.singleton_append,
        words_cons hblank, hrest]

/-- The line of a definition declares it. -/
theorem read?_writeDefinition {d : Definition} (hname : Lexeme.isIdentifier d.name.toList = true)
    (hfields : ∀ f ∈ d.fields, IsField f.toList) :
    read? (writeDefinition d) = some (.definition d) := by
  have hwords : words separatesFields (' ' :: joinNames d.fields ++ [' ']) =
      d.fields.map String.toList := by
    rw [List.cons_append, words_cons (by decide), joinNames]
    apply words_joined
    intro f hf
    obtain ⟨field, hfield, rfl⟩ := List.mem_map.mp hf
    exact hfields field hfield
  have hsplit : splitFields?
      (d.name.toList ++ ' ' :: '{' :: ' ' :: joinNames d.fields ++ [' ', '}']) =
        some (d.name.toList, ' ' :: joinNames d.fields ++ [' ']) := by
    have hopen : '{' ∉ d.name.toList ++ [' '] := by
      simpa using Lexeme.not_mem_of_isIdentifier hname (by decide)
    have hbreak : breakAt? '{' (d.name.toList ++ ' ' :: '{' :: ' ' :: joinNames d.fields ++
        [' ', '}']) = some (d.name.toList ++ [' '], ' ' :: joinNames d.fields ++ [' ', '}']) := by
      simpa using breakAt?_append hopen (' ' :: joinNames d.fields ++ [' ', '}'])
    have hclose : beforeLast? '}' (' ' :: joinNames d.fields ++ [' ', '}']) =
        some (' ' :: joinNames d.fields ++ [' ']) := by
      have hnil : '}' ∉ ([] : List Char) := by simp
      simpa using beforeLast?_append hnil (' ' :: joinNames d.fields ++ [' '])
    have htrim : trim (d.name.toList ++ [' ']) = d.name.toList :=
      (Lexeme.trimmed_of_isIdentifier hname).trim_append (by decide)
    rw [splitFields?, hbreak]
    simp only [hclose, Option.map_some, htrim]
  have hrest : Trimmed (d.name.toList ++ (' ' :: '{' :: ' ' :: joinNames d.fields ++ [' ']) ++
      ['}']) :=
    (Lexeme.trimmed_of_isIdentifier hname).append_append (trimmed_of_all rfl)
      (Lexeme.ne_nil_of_isIdentifier hname) (by simp) _
  rw [writeDefinition, read?_writeLine (by decide) (by simp) (by simpa using hrest), if_pos rfl,
    readDefinition?, hsplit, Option.bind_some]
  simp only [hname, if_true, hwords, Option.map_some, String.ofList_toList]
  simp [Function.comp_def]

/-! ### Inclusions -/

/-- The text can be the path of a file to include: it neither starts nor ends with a quote. -/
def IsPath (path : List Char) : Prop :=
  path ≠ [] ∧ path.head?.any Lexeme.isQuote = false ∧ path.getLast?.any Lexeme.isQuote = false

instance (path : List Char) : Decidable (IsPath path) :=
  inferInstanceAs (Decidable (path ≠ [] ∧ _ = false ∧ _ = false))

lemma dropQuotes_quotation {path : List Char} (h : IsPath path) :
    dropQuotes ('"' :: path ++ ['"']) = path := by
  have hdrop : ∀ t : List Char, t ≠ [] → t.head?.any Lexeme.isQuote = false →
      ∀ u, ('"' :: (t ++ u)).dropWhile Lexeme.isQuote = t ++ u := by
    intro t ht hquote u
    obtain ⟨c, cs, rfl⟩ := List.exists_cons_of_ne_nil ht
    rw [List.head?_cons, Option.any_some] at hquote
    rw [List.dropWhile_cons_of_pos (by decide), List.cons_append,
      List.dropWhile_cons_of_neg (by simp [hquote])]
  obtain ⟨hne, hhead, hlast⟩ := h
  have hreverse : path.reverse.head?.any Lexeme.isQuote = false := by
    rwa [List.head?_reverse]
  rw [dropQuotes, List.cons_append, hdrop path hne hhead, List.reverse_append,
    List.reverse_singleton, List.singleton_append]
  have := hdrop path.reverse (by simpa using hne) hreverse []
  rw [List.append_nil] at this
  rw [this, List.reverse_reverse]

/-- The line that includes a file declares the inclusion. -/
theorem read?_writeInclusion {path : String} (hpath : IsPath path.toList) :
    read? (writeInclusion path) = some (.inclusion path) := by
  have hrest : Trimmed ('"' :: path.toList ++ ['"']) :=
    trimmed_of_ends (by decide) (by decide) path.toList
  have hdrop := dropQuotes_quotation hpath
  rw [writeInclusion, read?_writeLine (by decide) (by simp) hrest, if_neg (by decide),
    if_neg (by decide), if_pos rfl, readInclusion?, hrest.trim_eq, hdrop]
  simp [hpath.1]

/-! ### All declarations -/

/-- The line was written for the declaration, and it is one that can be written so. -/
inductive IsWritten : String → Declaration → Prop where
  | voice {name : String} {parameters : List String} {text : String} {body : Body}
      (hname : IsVoiceName name.toList)
      (hparameters : ∀ p ∈ parameters, Lexeme.isIdentifier p.toList = true)
      (hbody : IsBodyText text.toList body) :
      IsWritten (writeVoice name parameters text) (.voice { name, parameters, body })
  | definition {d : Definition} (hname : Lexeme.isIdentifier d.name.toList = true)
      (hfields : ∀ f ∈ d.fields, IsField f.toList) :
      IsWritten (writeDefinition d) (.definition d)
  | inclusion {path : String} (hpath : IsPath path.toList) :
      IsWritten (writeInclusion path) (.inclusion path)

/-- Every declaration that can be written is read from its line, and each text that the lexer takes
for a number can be written as a body. -/
theorem read?_eq_of_isWritten :
    (∀ line d, IsWritten line d → read? line = some d) ∧
      ∀ t, Lexeme.category t = .number → ∃ x, IsBodyText t (.literal (.number x)) := by
  refine ⟨fun line d h => ?_, fun t => exists_isBodyText_number⟩
  cases h with
  | voice hname hparameters hbody =>
    exact read?_writeVoice hname hparameters hbody.trimmed hbody.readBody?_eq
  | definition hname hfields => exact read?_writeDefinition hname hfields
  | inclusion hpath => exact read?_writeInclusion hpath

/-- Parentheses, braces, slashes and quotes within names, bodies, fields and paths. -/
theorem read?_eq_of_isWritten_mixed :
    read? "voice \x7d)'(text, _2) / \"it's / \x7b(\"\"" =
        some (.voice ⟨"\x7d)'", ["text", "_2"], .literal (.str "it's / \x7b(\"")⟩) ∧
      read? "def d_1 \x7b \x7bmin\x7d, \x7d/'max \x7d" =
        some (.definition ⟨"d_1", ["\x7bmin\x7d", "\x7d/'max"]⟩) ∧
      read? "include \" a'/b \"" = some (.inclusion " a'/b ") ∧
      ∃ x, IsBodyText "-1.5e+2".toList (.literal (.number x)) := by
  refine ⟨?_, ?_, ?_, read?_eq_of_isWritten.2 _ (by decide +kernel)⟩
  · have hname : IsVoiceName "\x7d)'".toList := by decide
    have hbody : IsBodyText "\"it's / \x7b(\"\"".toList (.literal (.str "it's / \x7b(\"")) :=
      .quotation "it's / \x7b(\"".toList
    have hwritten : IsWritten (writeVoice "\x7d)'" ["text", "_2"] "\"it's / \x7b(\"\"") _ :=
      .voice hname (by decide) hbody
    exact read?_eq_of_isWritten.1 _ _ hwritten
  · have hwritten : IsWritten (writeDefinition ⟨"d_1", ["\x7bmin\x7d", "\x7d/'max"]⟩) _ :=
      .definition (by decide) (by decide)
    exact read?_eq_of_isWritten.1 _ _ hwritten
  · have hwritten : IsWritten (writeInclusion " a'/b ") _ :=
      .inclusion (by decide)
    exact read?_eq_of_isWritten.1 _ _ hwritten

end Declaration

end ChainScript
