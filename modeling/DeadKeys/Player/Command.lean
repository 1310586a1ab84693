import DeadKeys.Descriptor.Load
import DeadKeys.Host
import DeadKeys.Script.Parser

/-!
# Commands

What the player can be asked to do. A command sees the files as a function from paths, and reports
printed lines or why it failed. A script is played on a fresh host whose context 1 has the focus.
The transcript has a line for every key-down and, at the end, the text of every context that
something was committed to.
-/

namespace DeadKeys.Player

/-! ## Transcripts -/

/-- What is told about one key-down: its line in the script, its code, the layer it was resolved in
first, and the answer. -/
structure KeyLine where
  line : Nat
  code : String
  layer : String
  output : Output
deriving DecidableEq

/-- What is told about a script. -/
structure Transcript where
  keys : List KeyLine
  /-- The text of each context with commits, in the order of the contexts. -/
  texts : List (ContextId × String)
deriving DecidableEq

/-- A text with blanks in front to fill a column. -/
def padLeft (width : Nat) (text : String) : String :=
  String.ofList (text.toList.leftpad width ' ')

/-- A text with blanks behind to fill a column. -/
def padRight (width : Nat) (text : String) : String :=
  String.ofList (text.toList.rightpad width ' ')

/-- The printed line of a key-down. -/
def KeyLine.render (key : KeyLine) : String :=
  padLeft 4 (Nat.repr key.line) ++ "  " ++ padRight 12 key.code ++ " [" ++ key.layer ++ "] " ++
    key.output.shown

/-- The printed line of a context's text. -/
def renderText (entry : ContextId × String) : String :=
  entry.1.text ++ ": " ++ Text.quote entry.2

/-- The printed lines of a transcript. -/
def Transcript.render (transcript : Transcript) : List String :=
  transcript.keys.map KeyLine.render ++ transcript.texts.map renderText

/-- Plays one key event. Only a key-down is told about; its layer is that of the event's modifiers
and of right Alt as it was before. -/
def playEvent (keyboard : String) (line : Nat) (host : Host) (event : KeyEvent) :
    Logged (List KeyLine × Host) := do
  let layer := Layer.name (event.modifiers host.altRightHeld)
  let (output, next) ← host.dispatch keyboard event
  return (if event.isDown then [⟨line, event.code, layer, output⟩] else [], next)

/-- Plays key events one after the other. -/
def playEvents (keyboard : String) (line : Nat) (host : Host) :
    List KeyEvent → Logged (List KeyLine × Host)
  | [] => return ([], host)
  | event :: rest => do
    let (lines, next) ← playEvent keyboard line host event
    let (others, last) ← playEvents keyboard line next rest
    return (lines ++ others, last)

/-- Plays one step. -/
def playStep (keyboard : String) (host : Host) : Script.Step → Logged (List KeyLine × Host)
  | .key line stroke => playEvents keyboard line host stroke.events
  | .focus context => do return ([], ← host.focus context)
  | .blur context => do return ([], ← host.blur context)

/-- Plays steps one after the other. -/
def playSteps (keyboard : String) (host : Host) :
    List Script.Step → Logged (List KeyLine × Host)
  | [] => return ([], host)
  | step :: rest => do
    let (lines, next) ← playStep keyboard host step
    let (others, last) ← playSteps keyboard next rest
    return (lines ++ others, last)

/-- The context that has the focus when a script starts. -/
def firstContext : ContextId := ⟨1⟩

/-- Plays a script on a fresh host. -/
def playScript (layouts : LayoutStore) (keyboard : String) (steps : List Script.Step) :
    Logged Transcript := do
  let host ← (Host.new layouts).focus firstContext
  let (keys, last) ← playSteps keyboard host steps
  return ⟨keys, last.committedContexts.map fun context => (context, last.textFor context)⟩

/-! ## Summaries of layouts -/

/-- The printed line of a space override. -/
def spaceLine (entry : String × String) : String :=
  "  space[" ++ entry.1 ++ "]: " ++ Text.quote entry.2

/-- The printed lines about one keyboard: its layers, dead keys, transforms and space overrides. -/
def layoutLines (id : String) (layout : Layout) : List String :=
  let root := layout.transforms.root
  [id,
    "  layers:     " ++ String.intercalate ", " layout.layerNames,
    "  dead keys:  " ++ String.intercalate " " layout.allDeadKeys.toList,
    "  transforms: " ++ String.intercalate " " (root.map (·.1)) ++ " (" ++
      Nat.repr root.leafCount ++ " leaves)"]
    ++ layout.space.entries.map spaceLine

/-- The printed lines about all keyboards of a store. -/
def storeLines (layouts : LayoutStore) : List String :=
  layouts.entries.flatMap fun (id, layout) => layoutLines id layout

/-! ## Requests and reports -/

/-- A request to the player. -/
inductive Command where
  /-- Plays a script, given by its path or in place; the latter counts if both are there. -/
  | play (descriptor keyboard : String) (script eval : Option String)
  /-- Summarises the keyboards of a document. -/
  | check (descriptor : String)
  /-- Shows the fallback chain of a modifier list. -/
  | layers (modifiers : String)
deriving DecidableEq

/-- Why a file cannot be read. -/
inductive ReadError where
  | notFound
  | notUtf8
  /-- Any other reason, in the words of the system. -/
  | other (message : String)
deriving DecidableEq

/-- The wording of a read error. -/
def ReadError.message : ReadError → String
  | .notFound => "No such file or directory (os error 2)"
  | .notUtf8 => "stream did not contain valid UTF-8"
  | .other message => message

/-- The files, by path. -/
abbrev Files := String → Except ReadError String

/-- Why a command fails. -/
inductive Failure where
  | descriptorFile (path : String) (error : ReadError)
  | descriptor (path : String) (error : Descriptor.LoadError)
  | keyboardNotFound (keyboard path : String)
  | scriptFile (path : String) (error : ReadError)
  | noScript
  | script (error : Script.ScriptError)
  | modifiers (error : ModifierError)
deriving DecidableEq

/-- The wording of a failure, followed by what is behind it. -/
def Failure.chain : Failure → List String
  | .descriptorFile path error =>
    ["Failed to load " ++ path, "IO error: " ++ error.message, error.message]
  | .descriptor path error => ["Failed to load " ++ path, error.message] ++ error.cause?.toList
  | .keyboardNotFound keyboard path => ["Keyboard '" ++ keyboard ++ "' not found in " ++ path]
  | .scriptFile path error => ["Failed to read " ++ path, error.message]
  | .noScript => ["Either a script file or --eval is required"]
  | .script error => [error.message]
  | .modifiers error => [error.message]

/-- The printed lines of a command, or why it failed before printing anything. -/
abbrev Report := Except Failure (List String)

/-- Loads the document at a path. -/
def loadFile (files : Files) (path : String) : Logged (Except Failure LayoutStore) :=
  match files path with
  | .error error => return .error (.descriptorFile path error)
  | .ok text => do return (← Descriptor.load text).mapError (.descriptor path)

/-- The text of the script that a command names. -/
def scriptText (files : Files) : (script eval : Option String) → Except Failure String
  | _, some text => .ok text
  | some path, none => (files path).mapError (.scriptFile path)
  | none, none => .error .noScript

/-- The steps of the script that a command names, after the keyboard was found. -/
def scriptSteps (files : Files) (layouts : LayoutStore) (descriptor keyboard : String)
    (script eval : Option String) : Except Failure (List Script.Step) := do
  if layouts.contains keyboard then
    (Script.parse (← scriptText files script eval)).mapError .script
  else throw (.keyboardNotFound keyboard descriptor)

/-- Runs a command. -/
def Command.run (files : Files) : Command → Logged Report
  | .play descriptor keyboard script eval => do
    match ← loadFile files descriptor with
    | .error failure => return .error failure
    | .ok layouts =>
      match scriptSteps files layouts descriptor keyboard script eval with
      | .error failure => return .error failure
      | .ok steps => do return .ok (← playScript layouts keyboard steps).render
  | .check descriptor => do return (← loadFile files descriptor).map storeLines
  | .layers modifiers =>
    return (Modifiers.parse modifiers).mapError Failure.modifiers |>.map fun modifiers =>
      [String.intercalate " -> " (Layer.fallbackChain (Layer.name modifiers))]

/-- The paths that a command may read. -/
def Command.paths : Command → List String
  | .play descriptor _ script _ => descriptor :: script.toList
  | .check descriptor => [descriptor]
  | .layers _ => []

end DeadKeys.Player
