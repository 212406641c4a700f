import ChainScript.Text.Hidden

/-!
# Quoted text

How a text is written between double quotes inside a list or a map: quotes, backslashes and
characters that do not show are escaped. Between braces a text stands as it is.
-/

namespace ChainScript.Text

/-- The code point of a character in hexadecimal, between braces. -/
def numbered (c : Char) : List Char :=
  ['\\', 'u', '{'] ++ Nat.toDigits 16 c.toNat ++ ['}']

/-- How a character is written inside double quotes. -/
def escape (c : Char) : List Char :=
  if c = '\x00' then ['\\', '0']
  else if c = '\t' then ['\\', 't']
  else if c = '\r' then ['\\', 'r']
  else if c = '\n' then ['\\', 'n']
  else if c = '"' ∨ c = '\\' then ['\\', c]
  else if isHidden c then numbered c
  else [c]

/-- The text between double quotes. -/
def quoted (text : List Char) : List Char :=
  '"' :: text.flatMap escape ++ ['"']

/-- The text between braces. -/
def braced (text : String) : String :=
  String.ofList ('{' :: text.toList ++ ['}'])

end ChainScript.Text
