import ChainScript.Text.Blank

/-!
# Cutting text at single characters

The pieces between separators, the words of a text, its lines, and the first word with what
follows it.
-/

namespace ChainScript.Text

/-- The pieces of the text between the characters that satisfy `p`, empty ones included. There is
always one more piece than there are separators. -/
def pieces (p : Char → Bool) : List Char → List (List Char)
  | [] => [[]]
  | c :: rest =>
    if p c then [] :: pieces p rest
    else match pieces p rest with
      | [] => [[c]]
      | piece :: more => (c :: piece) :: more

/-- The non-empty pieces between the characters that satisfy `p`. -/
def words (p : Char → Bool) (text : List Char) : List (List Char) :=
  (pieces p text).filter fun piece => !piece.isEmpty

/-- The line feed at the end of a line may follow a carriage return, which is then no part of the
line. -/
def dropReturn (line : List Char) : List Char :=
  if line.getLast? = some '\r' then line.dropLast else line

/-- The lines among the pieces between line feeds. Text after the last line feed is a line unless
it is empty, and it keeps a carriage return at its end. -/
def linesOfPieces : List (List Char) → List (List Char)
  | [] => []
  | [last] => if last.isEmpty then [] else [last]
  | line :: rest => dropReturn line :: linesOfPieces rest

/-- The lines of a text. A line ends with a line feed, or with a carriage return and a line feed. -/
def lines (text : List Char) : List (List Char) :=
  linesOfPieces (pieces (· == '\n') text)

/-- The text before the first blank, and the text from it on. -/
def breakAtBlank (text : List Char) : List Char × List Char :=
  text.span fun c => !isBlank c

/-- What follows the first `c` of the text and what precedes it, if there is one. -/
def breakAt? (c : Char) : List Char → Option (List Char × List Char)
  | [] => none
  | d :: rest =>
    if d = c then some ([], rest)
    else (breakAt? c rest).map fun (before, after) => (d :: before, after)

/-- What precedes the last `c` of the text, if there is one. -/
def beforeLast? (c : Char) (text : List Char) : Option (List Char) :=
  (breakAt? c text.reverse).map fun (_, before) => before.reverse

/-- What is left of the text after a given beginning, if it begins so. -/
def stripStart? : List Char → List Char → Option (List Char)
  | [], text => some text
  | _ :: _, [] => none
  | c :: start, d :: text => if c = d then stripStart? start text else none

/-- The text without the given end, if it ends so. -/
def stripEnd? (ending : List Char) (text : List Char) : Option (List Char) :=
  (stripStart? ending.reverse text.reverse).map List.reverse

/-- The text before and after the first place where `target` stands. -/
def find? (target : List Char) : List Char → Option (List Char × List Char)
  | [] => (stripStart? target []).map fun after => ([], after)
  | c :: rest =>
    match stripStart? target (c :: rest) with
    | some after => some ([], after)
    | none => (find? target rest).map fun (before, after) => (c :: before, after)

theorem pieces_ne_nil (p : Char → Bool) (text : List Char) : pieces p text ≠ [] := by
  cases text with
  | nil => simp [pieces]
  | cons c rest =>
    simp only [pieces]
    split
    · simp
    · split <;> simp

theorem eq_append_of_stripStart? {start text rest : List Char}
    (h : stripStart? start text = some rest) : text = start ++ rest := by
  induction start generalizing text with
  | nil => simpa [stripStart?] using h
  | cons c start ih =>
    cases text with
    | nil => simp [stripStart?] at h
    | cons d text =>
      simp only [stripStart?] at h
      split at h
      · next hc => rw [hc, ih h, List.cons_append]
      · simp at h

@[simp]
theorem stripStart?_append (start rest : List Char) :
    stripStart? start (start ++ rest) = some rest := by
  induction start with
  | nil => simp [stripStart?]
  | cons c start ih => simpa [stripStart?] using ih

theorem eq_append_of_find? {target text before after : List Char}
    (h : find? target text = some (before, after)) : text = before ++ target ++ after := by
  induction text generalizing before with
  | nil =>
    simp only [find?, Option.map_eq_some_iff, Prod.mk.injEq] at h
    obtain ⟨a, ha, rfl, rfl⟩ := h
    simpa using eq_append_of_stripStart? ha
  | cons c rest ih =>
    simp only [find?] at h
    split at h
    · next a ha =>
      simp only [Option.some.injEq, Prod.mk.injEq] at h
      obtain ⟨rfl, rfl⟩ := h
      simpa using eq_append_of_stripStart? ha
    · simp only [Option.map_eq_some_iff, Prod.mk.injEq, Prod.exists] at h
      obtain ⟨b, a, hba, rfl, rfl⟩ := h
      simp [ih hba]

theorem eq_append_of_breakAt? {c : Char} {text before after : List Char}
    (h : breakAt? c text = some (before, after)) : text = before ++ c :: after ∧ c ∉ before := by
  induction text generalizing before with
  | nil => simp [breakAt?] at h
  | cons d rest ih =>
    simp only [breakAt?] at h
    split at h
    · next hd =>
      simp only [Option.some.injEq, Prod.mk.injEq] at h
      obtain ⟨rfl, rfl⟩ := h
      simp [hd]
    · next hd =>
      simp only [Option.map_eq_some_iff, Prod.mk.injEq, Prod.exists] at h
      obtain ⟨b, a, hba, rfl, rfl⟩ := h
      obtain ⟨hrest, hnot⟩ := ih hba
      simp [hrest, hnot, Ne.symm hd]

end ChainScript.Text
