import DeadKeys.Diagnostic
import DeadKeys.Layer

/-!
# Engines

An engine serves one context. All that it remembers between events is the composition that is under
way and whether right Alt is held. A key-down is decided by the first layer of the fallback chain
that has something for the key (`decideAlong_value`). The output, the engine behind the key-down and
the record all follow from the decision, so a rule about key-downs is a rule about
`Layout.decide?`.
-/

namespace DeadKeys

/-! ## States -/

/-- A composition under way: the level for the next value, and the values typed so far, of which the
first is the dead key. -/
structure Composition where
  level : Transform.Level
  sequence : List String
deriving DecidableEq

/-- An engine, which serves one context. -/
structure Engine where
  composition : Option Composition
  altRightHeld : Bool
deriving DecidableEq

namespace Engine

/-- A new engine: idle, with right Alt up. -/
def idle : Engine := ⟨none, false⟩

/-- Whether a composition is under way. -/
def isComposing (engine : Engine) : Bool := engine.composition.isSome

/-- The values typed since the dead key, the dead key first; none when idle. -/
def sequence (engine : Engine) : List String :=
  match engine.composition with
  | some composition => composition.sequence
  | none => []

/-- Starts a composition at the level that a dead key opens. -/
def begin (engine : Engine) (deadKey : String) (level : Transform.Level) : Engine :=
  { engine with composition := some ⟨level, [deadKey]⟩ }

/-- Moves a composition on to a deeper level. An idle engine stays idle. -/
def advance (engine : Engine) (value : String) (level : Transform.Level) : Engine :=
  { engine with
    composition := engine.composition.map fun composition =>
      ⟨level, composition.sequence ++ [value]⟩ }

/-- Ends the composition. -/
def clear (engine : Engine) : Engine := { engine with composition := none }

/-- Forgets everything. -/
def reset (_engine : Engine) : Engine := idle

end Engine

/-! ## Outputs

The answer to a key event. -/

/-- What an engine answers to a key event. -/
inductive Output where
  /-- Commit this text. -/
  | emit (text : String)
  /-- The key is consumed and nothing is committed. -/
  | suppress
  /-- The layout has nothing for the key. -/
  | passThrough
deriving DecidableEq

namespace Output

/-- Whether the host must not apply its own handling of the key. -/
def isHandled (output : Output) : Bool := output ≠ .passThrough

/-- The text to commit. -/
def text? : Output → Option String
  | .emit text => some text
  | _ => none

/-- How an output is shown. -/
def shown : Output → String
  | .emit text => "emit " ++ Text.quote text
  | .suppress => "suppress"
  | .passThrough => "pass-through"

end Output

/-! ## Decisions -/

/-- What a layer makes of a key-down. -/
inductive Decision where
  /-- A dead key starts a composition at the level that it opens. -/
  | started (layer value : String) (level : Transform.Level)
  /-- A value is typed as it is. -/
  | typed (value : String)
  /-- The value completes the composition. -/
  | completed (text : String)
  /-- The value leads to a deeper level. -/
  | continued (value : String) (level : Transform.Level)
  /-- The value does not continue the composition; both are swallowed. -/
  | abandoned (value : String)
deriving DecidableEq

namespace Decision

/-- The answer to the key-down. -/
def output : Decision → Output
  | .typed value => .emit value
  | .completed text => .emit text
  | .started .. | .continued .. | .abandoned _ => .suppress

/-- The engine behind the key-down. -/
def next (engine : Engine) : Decision → Engine
  | .started _ value level => engine.begin value level
  | .typed _ => engine
  | .completed _ | .abandoned _ => engine.clear
  | .continued value level => engine.advance value level

/-- What is noted about the decision that an engine came to. -/
def records (engine : Engine) : Decision → List Diagnostic
  | .started layer value _ => [.deadKeyTyped value layer]
  | .completed text => [.composed text engine.sequence]
  | .abandoned value => [.abandoned engine.sequence value]
  | .typed _ | .continued .. => []

end Decision

/-! ## The decision of one layer -/

/-- What a composition, or its absence, makes of a typed value. -/
def Engine.feed (engine : Engine) (value : String) : Decision :=
  match engine.composition with
  | none => .typed value
  | some composition =>
    match composition.level.get? value with
    | some (.leaf text) => .completed text
    | some (.branch level) => .continued value level
    | none => .abandoned value

namespace Layout

/-- The dead key that a mapped value starts, with the level that it opens. Compositions only start
from idle. -/
def startedBy? (layout : Layout) (engine : Engine) (layer : String) (mapped : Option String) :
    Option (String × Transform.Level) :=
  if engine.isComposing then none
  else mapped.bind fun value => (layout.openedLevel? layer value).map fun level => (value, level)

/-- The value that a key types in a layer that maps it to `mapped`. The space bar always types
something: the text of the starting layer, else what is mapped, else a space. -/
def typedValue? (layout : Layout) (start code : String) (mapped : Option String) :
    Option String :=
  if code = Key.space then
    some ((layout.spaceText? start <|> mapped).getD " ")
  else mapped

/-- The decision of one layer about a key-down, or `none` to ask the next layer. A dead key counts
before anything else. -/
def decide? (layout : Layout) (engine : Engine) (start code layer : String) :
    Option Decision :=
  match layout.layer? layer with
  | none => none
  | some table =>
    match layout.startedBy? engine layer (table.get? code) with
    | some (value, level) => some (.started layer value level)
    | none => (layout.typedValue? start code (table.get? code)).map engine.feed

end Layout

/-! ## Key events

Right Alt is tracked on the way and never reaches the layers. -/

namespace Layout

/-- Asks the layers in order; the first decision counts. Every layer that is asked is noted. -/
def decideAlong (layout : Layout) (engine : Engine) (keyboard start code : String) :
    List String → Logged (Option Decision)
  | [] => return none
  | layer :: rest => do
    Logged.note (.triedLayer keyboard code layer)
    match layout.decide? engine start code layer with
    | some decision => return some decision
    | none => layout.decideAlong engine keyboard start code rest

/-- Along a chain the first layer with a decision decides. -/
theorem decideAlong_value (layout : Layout) (engine : Engine) (keyboard start code : String)
    (chain : List String) :
    (layout.decideAlong engine keyboard start code chain).value =
      chain.findSome? (layout.decide? engine start code) := by
  induction chain with
  | nil => rfl
  | cons layer rest ih =>
    rw [decideAlong, List.findSome?_cons]
    cases h : layout.decide? engine start code layer with
    | some decision => rfl
    | none => exact ih

end Layout

namespace Engine

/-- Answers a key-down under given modifiers, and gives the engine behind it. -/
def keyDown (layouts : LayoutStore) (engine : Engine) (keyboard code : String)
    (modifiers : Modifiers) : Logged (Output × Engine) :=
  match layouts.get? keyboard with
  | none => do
    Logged.note (.unknownKeyboard keyboard)
    return (.passThrough, engine)
  | some layout => do
    let start := Layer.name modifiers
    match ← layout.decideAlong engine keyboard start code (Layer.fallbackChain start) with
    | some decision => do
      Logged.noteAll (decision.records engine)
      return (decision.output, decision.next engine)
    | none => do
      Logged.note (.notMapped keyboard code start)
      return (.passThrough, engine)

/-- Tracks right Alt. The first part says whether that was all there is to the event, as it is for
a key-down of right Alt. -/
def trackAltRight (engine : Engine) (event : KeyEvent) : Bool × Engine :=
  if event.isAltRight then (event.isDown, { engine with altRightHeld := event.isDown })
  else (false, engine)

/-- Answers a raw key event. Key-ups only matter to the tracking of right Alt. -/
def handle (layouts : LayoutStore) (engine : Engine) (keyboard : String) (event : KeyEvent) :
    Logged (Output × Engine) :=
  let (consumed, tracked) := engine.trackAltRight event
  if consumed then return (.suppress, tracked)
  else if event.isDown then
    tracked.keyDown layouts keyboard event.code (event.modifiers tracked.altRightHeld)
  else return (.passThrough, tracked)

end Engine

end DeadKeys
