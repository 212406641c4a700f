import ChainScript.Chain
import ChainScript.Voice

/-!
# Declarations

The lines of a definition file and what each declares:

* `voice name(parameters) / body` a voice,
* `def name { fields }` a definition,
* `include path` another file.

Blank lines, comments and malformed lines declare nothing. The writers give for each declaration a
line that declares it.
-/

namespace ChainScript

open Text

/-- What a line declares. -/
inductive Declaration where
  | voice (v : Voice)
  | definition (d : Definition)
  | inclusion (path : String)

namespace Declaration

/-- The line is empty or a comment. -/
def isSilent (line : List Char) : Bool :=
  line.isEmpty || (stripStart? ['#'] line).isSome || (stripStart? ['/', '/'] line).isSome

/-- The first word of the line, and the rest without the blanks before it. -/
def splitKeyword (line : List Char) : List Char × List Char :=
  let (keyword, rest) := breakAtBlank line
  (keyword, trimLeft rest)

/-! ### Definitions -/

/-- The character separates fields. -/
def separatesFields (c : Char) : Bool :=
  c == ',' || isBlank c

/-- The name before the first brace, and the text between it and the last closing brace. Without
an opening brace all is the name. -/
def splitFields? (rest : List Char) : Option (List Char × List Char) :=
  match breakAt? '{' rest with
  | none => some (trim rest, [])
  | some (name, after) => (beforeLast? '}' after).map fun fields => (trim name, fields)

/-- A definition, if the name is an identifier. -/
def readDefinition? (rest : List Char) : Option Definition :=
  (splitFields? rest).bind fun (name, fields) =>
    if Lexeme.isIdentifier name then
      some { name := String.ofList name
             fields := (words separatesFields fields).map String.ofList }
    else none

/-! ### Voices -/

/-- The names between the parentheses, if all of them are identifiers. -/
def readParameters? (inner : List Char) : Option (List String) :=
  let names := ((pieces (· == ',') inner).map trim).filter fun name => !name.isEmpty
  if names.all Lexeme.isIdentifier then some (names.map String.ofList) else none

/-- The name before the first parenthesis, and the parameters between it and the parenthesis that
has to end the text. Without an opening parenthesis all is the name. -/
def splitParameters? (head : List Char) : Option (List Char × List String) :=
  match breakAt? '(' head with
  | none => some (head, [])
  | some (name, after) =>
    (stripEnd? [')'] after).bind fun inner =>
      (readParameters? inner).map fun parameters => (trim name, parameters)

/-- The name and the parameters, if the name is a word. -/
def readHead? (head : List Char) : Option (String × List String) :=
  (splitParameters? head).bind fun (name, parameters) =>
    if name.isEmpty || name.any isBlank then none else some (String.ofList name, parameters)

/-- A chain if the text is in braces, the value of a literal, and otherwise the text itself. -/
def readBody? (text : List Char) : Option Body :=
  if Chain.isBraced text then some (.chain (String.ofList text))
  else if text.isEmpty then none
  else some (.literal ((Lexeme.literal? text).getD (.str (String.ofList text))))

/-- A voice: its head before the first slash and its body after it. -/
def readVoice? (rest : List Char) : Option Voice :=
  (breakAt? '/' rest).bind fun (head, body) =>
    (readHead? (trim head)).bind fun (name, parameters) =>
      (readBody? (trim body)).map fun body => { name, parameters, body }

/-! ### Inclusions -/

/-- The text without the quotes of either kind at both ends. -/
def dropQuotes (text : List Char) : List Char :=
  ((text.dropWhile Lexeme.isQuote).reverse.dropWhile Lexeme.isQuote).reverse

/-- The path of a file to include, if it is not empty. -/
def readInclusion? (rest : List Char) : Option String :=
  let path := dropQuotes (trim rest)
  if path.isEmpty then none else some (String.ofList path)

/-- What a line declares, if it is well formed. -/
def readLine? (line : List Char) : Option Declaration :=
  let line := trim line
  if isSilent line then none
  else
    let (keyword, rest) := splitKeyword line
    if keyword = ['d', 'e', 'f'] then (readDefinition? rest).map definition
    else if keyword = ['v', 'o', 'i', 'c', 'e'] then (readVoice? rest).map voice
    else if keyword = ['i', 'n', 'c', 'l', 'u', 'd', 'e'] then (readInclusion? rest).map inclusion
    else none

/-- What a line declares, if it is well formed. -/
def read? (line : String) : Option Declaration :=
  readLine? line.toList

/-- What the lines of a text declare, in order. -/
def readAll (text : String) : List Declaration :=
  (lines text.toList).filterMap readLine?

/-! ### Writing -/

/-- The line that a keyword starts. -/
def writeLine (keyword rest : List Char) : String :=
  String.ofList (keyword ++ ' ' :: rest)

/-- The names with commas between them. -/
def joinNames (names : List String) : List Char :=
  [',', ' '].intercalate (names.map String.toList)

/-- The name of a voice, and its parameters in parentheses if there are any. -/
def writeHead (name : String) (parameters : List String) : List Char :=
  name.toList ++ if parameters.isEmpty then [] else '(' :: joinNames parameters ++ [')']

/-- The line of a voice whose body is given as text. -/
def writeVoice (name : String) (parameters : List String) (body : String) : String :=
  writeLine ['v', 'o', 'i', 'c', 'e'] (writeHead name parameters ++ ' ' :: '/' :: ' ' :: body.toList)

/-- The line of a definition. -/
def writeDefinition (d : Definition) : String :=
  writeLine ['d', 'e', 'f'] (d.name.toList ++ ' ' :: '{' :: ' ' :: joinNames d.fields ++ [' ', '}'])

/-- The line that includes a file. -/
def writeInclusion (path : String) : String :=
  writeLine ['i', 'n', 'c', 'l', 'u', 'd', 'e'] ('"' :: path.toList ++ ['"'])

end Declaration

end ChainScript
