import ChainScript.Context

/-!
# The shell

A session reads lines. A line is a command, a chain, or the name of a voice with inputs for it, and
each gets a text in response.
-/

namespace ChainScript

open Text

/-- A session of the shell. -/
structure Shell where
  context : Context
  /-- Warnings are shown after results. -/
  tracing : Bool

/-- What a line asks for. -/
inductive Request where
  | nothing
  | voices
  | definitions
  | load (path : String)
  | trace
  | chain (text : String)
  | voice (name : String) (inputs : Bindings)

namespace Request

/-- A word with an equals sign gives an input: a literal, or the text after the sign. -/
def readInput? (word : List Char) : Option Binding :=
  (breakAt? '=' word).map fun (name, value) =>
    (String.ofList name, (Lexeme.literal? value).getD (.str (String.ofList value)))

/-- The inputs among the words of a text, of which the last with a name counts. -/
def readInputs (text : List Char) : Bindings :=
  .ofList Prod.fst ((words isBlank text).filterMap readInput?)

/-- What a line asks for, by its first word. -/
def read (line : String) : Request :=
  let line := trim line.toList
  let (command, after) := breakAtBlank line
  let rest := trim after
  match String.ofList command with
  | "" => nothing
  | ":voices" => voices
  | ":defs" => definitions
  | ":load" => load (String.ofList rest)
  | ":trace" => trace
  | name => if Chain.isBraced line then chain (String.ofList line) else voice name (readInputs rest)

end Request

namespace Shell

/-- A session that has just begun. -/
def ofContext (context : Context) : Shell :=
  { context, tracing := false }

/-- The text of a definition: its name and its fields. -/
def definitionLine (d : Definition) : String :=
  d.name ++ ": " ++ ", ".intercalate d.fields

/-- The text of an execution: its value, and its warnings on lines of their own if they are to be
shown. -/
def render (tracing : Bool) (e : Execution) : String :=
  let warnings := if tracing then e.warnings else []
  e.value.display ++ String.join (warnings.map fun w => "\n  warning: " ++ w.message)

/-- The response to a request, and the session after it. -/
def answer (s : Shell) (files : FileTree) : Request → String × Shell
  | .nothing => ("", s)
  | .voices =>
    let context := s.context.loadDefaults files
    ("\n".intercalate context.store.voiceNames, { s with context })
  | .definitions =>
    let context := s.context.loadDefaults files
    let lines := context.store.definitions.entries.map definitionLine
    ("\n".intercalate (lines.mergeSort fun a b => a ≤ b), { s with context })
  | .load path =>
    match s.context.load files path with
    | .ok context => ("", { s with context })
    | .error failure => (failure.message, s)
  | .trace =>
    let tracing := !s.tracing
    ("trace " ++ (if tracing then "on" else "off"), { s with tracing })
  | .chain text =>
    let (execution, context) := s.context.executeChain files text .empty
    (render s.tracing execution, { s with context })
  | .voice name inputs =>
    let (execution, context) := s.context.executeVoice files name inputs
    (render s.tracing execution, { s with context })

/-- The response to a line, and the session after it. -/
def respond (s : Shell) (files : FileTree) (line : String) : String × Shell :=
  s.answer files (.read line)

end Shell

end ChainScript
