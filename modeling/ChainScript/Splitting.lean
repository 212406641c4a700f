import ChainScript.Lexeme
import ChainScript.Text.Pieces

/-!
# Splitting at separators

A chain is split at arrows and a step at plus signs. A quote that opens a piece protects the
separators up to the next quote of its kind. If a quote stays open at the end, quotes mean nothing
and the text is split at every separator.

The two ways of splitting are written differently: the one that heeds quotes goes through the text
character by character, the plain one jumps from one separator to the next.
-/

namespace ChainScript

open Text

/-- What separates the steps of a chain, and the alternatives of a step. -/
inductive Separator where
  | arrow
  | plus
  deriving DecidableEq

namespace Separator

/-- The characters of the separator. -/
def text : Separator → List Char
  | arrow => ['-', '>']
  | plus => ['+']

/-- The text is a numeral up to its `e`, so that a sign may follow: any number of minus signs, a
digit or a point, and what else reads as a number. -/
def isMantissa (piece : List Char) : Bool :=
  match piece.getLast? with
  | some 'e' | some 'E' =>
    let mantissa := piece.dropLast
    Lexeme.startsNumber (mantissa.dropWhile (· == '-')) && Decimal.isNumber mantissa
  | _ => false

/-- The separator ends the piece before it. A plus sign does not where it belongs to the power of
ten of a number. -/
def ends (piece after : List Char) : Separator → Bool
  | arrow => true
  | plus => !(after.head?.any Char.isDigit && isMantissa (trimLeft piece))

/-- What follows a separator that stands at the start of the text and ends the piece before it. -/
def cut? (s : Separator) (piece text : List Char) : Option (List Char) :=
  (stripStart? s.text text).filter fun after => s.ends piece after

theorem text_length_pos (s : Separator) : 0 < s.text.length := by
  cases s <;> decide

theorem eq_append_of_cut? {s : Separator} {piece text after : List Char}
    (h : s.cut? piece text = some after) : text = s.text ++ after := by
  rw [cut?, Option.filter_eq_some_iff] at h
  exact eq_append_of_stripStart? h.1

theorem length_of_cut? {s : Separator} {piece text after : List Char}
    (h : s.cut? piece text = some after) : after.length < text.length := by
  have := s.text_length_pos
  rw [eq_append_of_cut? h, List.length_append]
  omega

/-! ### Heeding quotes -/

/-- The pieces of the text, where `piece` is the part of the first that has been passed and `quote`
the quote that is open. -/
def splitQuotedFrom (s : Separator) (quote : Option Char) (piece text : List Char) :
    Option (List (List Char)) :=
  match quote, text with
  | none, [] => some [piece]
  | some _, [] => none
  | some q, c :: rest => splitQuotedFrom s (if c = q then none else some q) (piece ++ [c]) rest
  | none, c :: rest =>
    if Lexeme.isQuote c && allBlank piece then splitQuotedFrom s (some c) (piece ++ [c]) rest
    else match _h : s.cut? piece (c :: rest) with
      | some after => (splitQuotedFrom s none [] after).map (piece :: ·)
      | none => splitQuotedFrom s none (piece ++ [c]) rest
termination_by text.length
decreasing_by
  · simp
  · simp
  · exact length_of_cut? _h
  · simp

/-- The pieces of the text, where a quote that opens a piece protects what follows it. There are
none if a quote stays open. -/
def splitQuoted (s : Separator) (text : List Char) : Option (List (List Char)) :=
  s.splitQuotedFrom none [] text

/-! ### Without regard to quotes -/

/-- The pieces of the text, where `piece` is the part of the first that has been passed. -/
def splitPlainFrom (s : Separator) (piece text : List Char) : List (List Char) :=
  match _h : find? s.text text with
  | none => [piece ++ text]
  | some (before, after) =>
    if s.ends (piece ++ before) after then (piece ++ before) :: splitPlainFrom s [] after
    else splitPlainFrom s (piece ++ before ++ s.text) after
termination_by text.length
decreasing_by
  all_goals
    have := s.text_length_pos
    rw [eq_append_of_find? _h, List.length_append, List.length_append]
    omega

/-- The pieces of the text between all separators. -/
def splitPlain (s : Separator) (text : List Char) : List (List Char) :=
  s.splitPlainFrom [] text

/-- The pieces of the text, split with regard to quotes if they are balanced and without it
otherwise. -/
def split (s : Separator) (text : List Char) : List (List Char) :=
  (s.splitQuoted text).getD (s.splitPlain text)

end Separator

end ChainScript
