import DeadKeys.Script.Chord
import DeadKeys.Script.Token

/-!
# Script parser

What a script comes down to, a list of steps, and what may be wrong with it instead. The steps are
those of its tokens: chords, each with the line that it stands on, and directives, each with the
context number behind it. A parser keeps its place in the tokens and its line count, so that it can
go on behind an error.
-/

namespace DeadKeys.Script

/-! ## Steps and errors -/

/-- One step of a script. -/
inductive Step where
  | key (line : Nat) (stroke : Stroke)
  | focus (context : ContextId)
  | blur (context : ContextId)
deriving DecidableEq

/-- What is wrong with a script. -/
inductive Fault where
  /-- A character at which no token starts. -/
  | unexpected (text : List Char)
  | chord (text : List Char) (error : ChordError)
  /-- No context number follows a directive. -/
  | missingContext (directive : Directive)
  /-- A number that no directive asks for. -/
  | strayNumber
deriving DecidableEq

/-- The wording of a fault. -/
def Fault.message : Fault → String
  | .unexpected text => "Unexpected input: '" ++ String.ofList text ++ "'"
  | .chord text error => error.message (String.ofList text)
  | .missingContext directive => directive.text ++ " expects a context id"
  | .strayNumber => "Context id outside of @focus/@blur"

/-- A fault and the line that it is reported at. -/
structure ScriptError where
  line : Nat
  fault : Fault
deriving DecidableEq

/-- The wording of a script error. -/
def ScriptError.message (error : ScriptError) : String :=
  "Script error at line " ++ Nat.repr error.line ++ ": " ++ error.fault.message

/-! ## Parsers -/

/-- A parser: the tokens ahead, and the current line. -/
structure Parser where
  tokens : List Token
  line : Nat
deriving DecidableEq

/-- What a run of a parser gives: the steps or the first error, and the parser behind it. -/
abbrev Parsed := Except ScriptError (List Step) × Parser

/-- The step of a directive. -/
def Directive.step (directive : Directive) (context : ContextId) : Step :=
  match directive with
  | .focus => .focus context
  | .blur => .blur context

/-- The context that the token behind a directive names. -/
def Token.contextFor (directive : Directive) : Token → Except Fault ContextId
  | .number digits =>
    match contextNumber? digits with
    | some value => .ok ⟨value⟩
    | none => .error (.missingContext directive)
  | .fault text => .error (.unexpected text)
  | _ => .error (.missingContext directive)

/-- The outcome of a run with one step more in front. -/
def Parsed.prepend (step : Step) (parsed : Parsed) : Parsed :=
  (parsed.1.map (step :: ·), parsed.2)

namespace Parser

/-- Parses from a line on. A directive takes the token behind it, whatever it is. -/
def parseFrom (line : Nat) : List Token → Parsed
  | [] => (.ok [], ⟨[], line⟩)
  | .newline :: rest => parseFrom (line + 1) rest
  | .chord text :: rest =>
    match Stroke.parse text with
    | .ok stroke => (parseFrom line rest).prepend (.key line stroke)
    | .error error => (.error ⟨line, .chord text error⟩, ⟨rest, line⟩)
  | .directive directive :: [] => (.error ⟨line, .missingContext directive⟩, ⟨[], line⟩)
  | .directive directive :: token :: rest =>
    match token.contextFor directive with
    | .ok context => (parseFrom line rest).prepend (directive.step context)
    | .error fault => (.error ⟨line, fault⟩, ⟨rest, line⟩)
  | .number _ :: rest => (.error ⟨line, .strayNumber⟩, ⟨rest, line⟩)
  | .fault text :: rest => (.error ⟨line, .unexpected text⟩, ⟨rest, line⟩)

/-- The parser at the start of a script. -/
def ofText (text : String) : Parser := ⟨Script.tokens text.toList, 1⟩

/-- Parses the tokens ahead up to their end or the first error. -/
def parse (parser : Parser) : Parsed := parseFrom parser.line parser.tokens

end Parser

/-- Parses a whole script. -/
def parse (text : String) : Except ScriptError (List Step) := (Parser.ofText text).parse.1

end DeadKeys.Script
