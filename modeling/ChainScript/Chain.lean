import ChainScript.Splitting

/-!
# Chains as text

A chain is written between braces, its steps with arrows between them and the alternatives of a
step with plus signs between them. The braces may be left out. Beside the readers stand the
writers.
-/

namespace ChainScript.Chain

open Text

/-- The text without one brace at each end. -/
def stripBraces (text : List Char) : List Char :=
  let text := (stripStart? ['{'] text).getD text
  (stripEnd? ['}'] text).getD text

/-- What a chain text consists of between its braces. -/
def body (text : List Char) : List Char :=
  stripBraces (trim text)

/-- The steps of a chain text. There is always at least one, and it may be empty. -/
def splitSteps (text : List Char) : List (List Char) :=
  (Separator.arrow.split (body text)).map trim

/-- The alternatives of a step. A step without a plus sign has one. -/
def splitAlternatives (step : List Char) : List (List Char) :=
  (Separator.plus.split step).map trim

/-- The text stands between braces. -/
def isBraced (text : List Char) : Bool :=
  let text := trim text
  text.head? == some '{' && text.getLast? == some '}'

/-- The steps of a chain text. -/
def steps (text : String) : List String :=
  (splitSteps text.toList).map String.ofList

/-- The alternatives of a step. -/
def alternatives (step : String) : List String :=
  (splitAlternatives step.toList).map String.ofList

/-- The text is a chain by its braces. -/
def isChain (text : String) : Bool :=
  isBraced text.toList

/-! ### Writing -/

/-- The separator between blanks. -/
def spaced (s : Separator) : List Char :=
  ' ' :: s.text ++ [' ']

/-- The alternatives with plus signs between them. -/
def joinAlternatives (alternatives : List (List Char)) : List Char :=
  (spaced .plus).intercalate alternatives

/-- The steps with arrows between them, in braces. -/
def joinSteps (steps : List (List Char)) : List Char :=
  '{' :: (spaced .arrow).intercalate steps ++ ['}']

end ChainScript.Chain
