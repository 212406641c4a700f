import ChainScript.Value

/-!
# Lexemes

The kinds of text that can stand as one token, and the values that literals stand for.
-/

namespace ChainScript

/-- The kinds of tokens. -/
inductive Category where
  | empty
  /-- Text between two quotes of the same kind. -/
  | quoted
  | number
  | boolean
  /-- ASCII letters, digits and underscores, not starting with a digit. -/
  | identifier
  | other
  deriving DecidableEq

namespace Lexeme

/-- The character is a quote, single or double. -/
def isQuote (c : Char) : Bool :=
  c == '"' || c == '\''

/-- The text starts and ends with the same kind of quote, and these are two characters. -/
def isQuoted : List Char → Bool
  | [] => false
  | first :: rest => isQuote first && rest.getLast? == some first

/-- The text is a plus or a minus sign. -/
def isSign (c : Char) : Bool :=
  c == '+' || c == '-'

/-- The text starts with a digit or a point. -/
def startsNumber : List Char → Bool
  | [] => false
  | c :: _ => c.isDigit || c == '.'

/-- The text reads as a number and is written with digits. Words that read as numbers are not
written so. -/
def isNumeral (text : List Char) : Bool :=
  let unsigned := text.dropWhile isSign
  startsNumber unsigned && unsigned.any Char.isDigit && Decimal.isNumber text

/-- The character may stand in an identifier after the first. -/
def isWordChar (c : Char) : Bool :=
  c.isAlphanum || c == '_'

/-- ASCII letters, digits and underscores, not starting with a digit. -/
def isIdentifier : List Char → Bool
  | [] => false
  | c :: rest => (c.isAlpha || c == '_') && rest.all isWordChar

/-- The kind of a token. -/
def category (text : List Char) : Category :=
  if text.isEmpty then .empty
  else if isQuoted text then .quoted
  else if isNumeral text then .number
  else if text = ['t', 'r', 'u', 'e'] ∨ text = ['f', 'a', 'l', 's', 'e'] then .boolean
  else if isIdentifier text then .identifier
  else .other

/-- The text between the first and the last character. -/
def inside (text : List Char) : List Char :=
  text.tail.dropLast

/-- The value that a literal stands for. The other tokens have to be looked up. -/
def literal? (text : List Char) : Option Value :=
  match category text with
  | .quoted => some (.str (String.ofList (inside text)))
  | .number => (Decimal.readFloat? text).map .number
  | .boolean => some (.bool (text = ['t', 'r', 'u', 'e']))
  | .empty | .identifier | .other => none

end Lexeme

end ChainScript
