import ChainScript.Text.Cased
import ChainScript.Text.CaseTable

/-!
# Upper and lower case

The full Unicode case mappings: one character may become several, and a capital sigma at the end
of a word becomes the final form of the small letter.
-/

namespace ChainScript.Text

/-- The code point that the first run with `n` in it maps `n` to. -/
def runImage? (runs : List (Nat × Nat × Nat × Int)) (n : Nat) : Option Nat :=
  runs.findSome? fun (first, last, step, shift) =>
    if first ≤ n && n ≤ last && (n - first) % step == 0 then some (n + shift).toNat else none

/-- The image of a character under a table of special images and a table of runs. A character in
neither is its own image. -/
def caseImage (special : List (Nat × List Nat)) (runs : List (Nat × Nat × Nat × Int)) (c : Char) :
    List Char :=
  match special.lookup c.toNat with
  | some image => image.map Char.ofNat
  | none => match runImage? runs c.toNat with
    | some n => [Char.ofNat n]
    | none => [c]

/-- The text in upper case. -/
def toUpper (text : List Char) : List Char :=
  text.flatMap (caseImage upperSpecial upperRuns)

/-- After characters that are skipped comes a cased one. -/
def casedFollows (text : List Char) : Bool :=
  match text.dropWhile isCaseIgnorable with
  | [] => false
  | c :: _ => isCased c

/-- The small sigma between `before`, read backwards, and `after`: the final form where a cased
character precedes and none follows. -/
def smallSigma (before after : List Char) : Char :=
  if casedFollows before && !casedFollows after then 'ς' else 'σ'

/-- The text in lower case, where `before` is what precedes it, read backwards. -/
def toLowerAfter (before : List Char) : List Char → List Char
  | [] => []
  | c :: rest =>
    (if c = 'Σ' then [smallSigma before rest] else caseImage lowerSpecial lowerRuns c) ++
      toLowerAfter (c :: before) rest

/-- The text in lower case. -/
def toLower (text : List Char) : List Char :=
  toLowerAfter [] text

end ChainScript.Text
