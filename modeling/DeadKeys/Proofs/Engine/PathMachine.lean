import DeadKeys.Proofs.Engine.Call
import DeadKeys.Proofs.Engine.Resolution

/-!
# Engines as path machines

A path machine holds no place in a transform tree. While it composes it remembers the keyboard of
the dead key and the values typed so far, and every further value is looked up along the whole path
from the root of that keyboard's tree.

`PathMachine.engine` gives the engine that a path machine stands for: its level is the level behind
the path. Every call commutes with this view (`PathMachine.call_engine`), so an engine and a path
machine cannot be told apart by any run.
-/

namespace DeadKeys

open Transform

/-- All that a path machine remembers: whether right Alt is held and, while it composes, the
keyboard of the dead key and the values typed so far. -/
structure PathMachine where
  pending : Option (String × List String)
  altRightHeld : Bool

namespace PathMachine

/-- A new path machine. -/
def idle : PathMachine := ⟨none, false⟩

/-- What can be seen of a path machine. -/
def observe (machine : PathMachine) : Observation :=
  match machine.pending with
  | some (_, path) => ⟨true, path, machine.altRightHeld⟩
  | none => ⟨false, [], machine.altRightHeld⟩

/-- The root of the transforms of a keyboard; an unknown keyboard has none. -/
def rootOf (layouts : LayoutStore) (keyboard : String) : Level :=
  match layouts.get? keyboard with
  | some layout => layout.transforms.root
  | none => []

/-- What a resolved key does: while composing the path with the new value decides, from idle a dead
key of the deciding layer that the transforms know starts a path, and any other value is typed. -/
def press (layouts : LayoutStore) (machine : PathMachine) (keyboard : String) (layout : Layout)
    (resolution : Resolution) : Output × PathMachine :=
  match machine.pending with
  | some (origin, path) =>
    match (rootOf layouts origin).lookup (path ++ [resolution.value]) with
    | some (.leaf text) => (.emit text, { machine with pending := none })
    | some (.branch _) =>
      (.suppress, { machine with pending := some (origin, path ++ [resolution.value]) })
    | none => (.suppress, { machine with pending := none })
  | none =>
    match resolution.mapped with
    | some value =>
      if layout.isDeadKey resolution.layer value ∧ layout.transforms.root.lookup [value] ≠ none then
        (.suppress, { machine with pending := some (keyboard, [value]) })
      else (.emit resolution.value, machine)
    | none => (.emit resolution.value, machine)

/-- Answers a key-down under given modifiers. -/
def keyDown (layouts : LayoutStore) (machine : PathMachine) (keyboard code : String)
    (modifiers : Modifiers) : Output × PathMachine :=
  match layouts.get? keyboard with
  | none => (.passThrough, machine)
  | some layout =>
    match layout.resolve? (Layer.name modifiers) code with
    | none => (.passThrough, machine)
    | some resolution => machine.press layouts keyboard layout resolution

/-- Answers a call. Only right Alt and key-downs do anything, besides a reset. -/
def call (layouts : LayoutStore) (machine : PathMachine) : EngineCall → Answer × PathMachine
  | .handle keyboard event =>
    if event.isAltRight then
      (.output (if event.isDown then .suppress else .passThrough),
        { machine with altRightHeld := event.isDown })
    else if event.isDown then
      let result :=
        machine.keyDown layouts keyboard event.code (event.modifiers machine.altRightHeld)
      (.output result.1, result.2)
    else (.output .passThrough, machine)
  | .keyDown keyboard code modifiers =>
    let result := machine.keyDown layouts keyboard code modifiers
    (.output result.1, result.2)
  | .trackAltRight event =>
    if event.isAltRight then (.consumed event.isDown, { machine with altRightHeld := event.isDown })
    else (.consumed false, machine)
  | .reset => (.done, idle)

/-! ## What a press does -/

section Press

variable {layouts : LayoutStore} {machine : PathMachine} {keyboard origin : String}
  {layout : Layout} {resolution : Resolution} {path : List String}

/-- A value that completes the path is answered with the text at its end. -/
theorem press_of_leaf {text : String} (hpending : machine.pending = some (origin, path))
    (h : (rootOf layouts origin).lookup (path ++ [resolution.value]) = some (.leaf text)) :
    machine.press layouts keyboard layout resolution =
      (.emit text, { machine with pending := none }) := by
  rw [press, hpending]
  simp only [h]

/-- A value that leads on is swallowed and remembered. -/
theorem press_of_branch {level : Level} (hpending : machine.pending = some (origin, path))
    (h : (rootOf layouts origin).lookup (path ++ [resolution.value]) = some (.branch level)) :
    machine.press layouts keyboard layout resolution =
      (.suppress, { machine with pending := some (origin, path ++ [resolution.value]) }) := by
  rw [press, hpending]
  simp only [h]

/-- A value that leads nowhere is swallowed, and the path is forgotten. -/
theorem press_of_nothing (hpending : machine.pending = some (origin, path))
    (h : (rootOf layouts origin).lookup (path ++ [resolution.value]) = none) :
    machine.press layouts keyboard layout resolution =
      (.suppress, { machine with pending := none }) := by
  rw [press, hpending]
  simp only [h]

/-- From idle, a dead key that the transforms know is swallowed and starts a path. -/
theorem press_of_deadKey {deadKey : String} (hpending : machine.pending = none)
    (hmapped : resolution.mapped = some deadKey)
    (hdead : layout.isDeadKey resolution.layer deadKey = true ∧
      layout.transforms.root.lookup [deadKey] ≠ none) :
    machine.press layouts keyboard layout resolution =
      (.suppress, { machine with pending := some (keyboard, [deadKey]) }) := by
  rw [press, hpending]
  simp only [hmapped, if_pos hdead]

/-- From idle, any other value is typed as it is. -/
theorem press_of_ordinary (hpending : machine.pending = none)
    (hordinary : ∀ value, resolution.mapped = some value →
      ¬ (layout.isDeadKey resolution.layer value = true ∧
        layout.transforms.root.lookup [value] ≠ none)) :
    machine.press layouts keyboard layout resolution = (.emit resolution.value, machine) := by
  rw [press, hpending]
  cases hmapped : resolution.mapped with
  | none => rfl
  | some value => simp only [if_neg (hordinary value hmapped)]

/-- A press is answered with a text or swallowed, and touches nothing but the path. -/
theorem press_cases (layouts : LayoutStore) (machine : PathMachine) (keyboard : String)
    (layout : Layout) (resolution : Resolution) :
    ∃ pending,
      (∃ text, machine.press layouts keyboard layout resolution =
        (.emit text, { machine with pending := pending })) ∨
      machine.press layouts keyboard layout resolution =
        (.suppress, { machine with pending := pending }) := by
  cases hpending : machine.pending with
  | none =>
    by_cases hdead : ∃ value, resolution.mapped = some value ∧
        layout.isDeadKey resolution.layer value = true ∧
        layout.transforms.root.lookup [value] ≠ none
    · obtain ⟨value, hmapped, hdead⟩ := hdead
      exact ⟨_, .inr (press_of_deadKey hpending hmapped hdead)⟩
    · refine ⟨machine.pending, .inl ⟨resolution.value, press_of_ordinary hpending ?_⟩⟩
      exact fun value hmapped hboth => hdead ⟨value, hmapped, hboth⟩
  | some composing =>
    obtain ⟨origin, path⟩ := composing
    cases hlookup : (rootOf layouts origin).lookup (path ++ [resolution.value]) with
    | none => exact ⟨_, .inr (press_of_nothing hpending hlookup)⟩
    | some node =>
      cases node with
      | leaf text => exact ⟨_, .inl ⟨text, press_of_leaf hpending hlookup⟩⟩
      | branch level => exact ⟨_, .inr (press_of_branch hpending hlookup)⟩

end Press

/-! ## The engine of a path machine -/

/-- The engine that a path machine stands for: it has gone down the path already. -/
def engine (layouts : LayoutStore) (machine : PathMachine) : Engine where
  composition := machine.pending.map fun (origin, path) =>
    ⟨(rootOf layouts origin).levelAt path, path⟩
  altRightHeld := machine.altRightHeld

theorem observe_engine (layouts : LayoutStore) (machine : PathMachine) :
    (machine.engine layouts).observe = machine.observe := by
  rcases machine with ⟨_ | ⟨origin, path⟩, held⟩ <;> rfl

/-- A dead key opens the level behind it, which is the empty one if the root is a leaf. -/
theorem openedLevel?_eq (layout : Layout) (layer value : String) :
    layout.openedLevel? layer value =
      if layout.isDeadKey layer value ∧ layout.transforms.root.lookup [value] ≠ none then
        some (layout.transforms.root.levelAt [value])
      else none := by
  rw [Layout.openedLevel?, Level.lookup_singleton]
  by_cases hdead : layout.isDeadKey layer value
  · rw [if_pos hdead]
    cases hget : layout.transforms.root.get? value with
    | none => simp
    | some node =>
      have hlevel : layout.transforms.root.levelAt [value] = node.children :=
        Level.below_of_get? hget
      cases node with
      | leaf text => simp [hdead, hlevel, Node.children]
      | branch entries => simp [hdead, hlevel, Node.children]
  · simp [hdead]

/-- From idle, a resolved key does the same to both. -/
theorem press_idle (layouts : LayoutStore) (held : Bool) {keyboard : String} {layout : Layout}
    (hlayout : layouts.get? keyboard = some layout) (resolution : Resolution) :
    let decision := layout.decisionOn ⟨none, held⟩ resolution
    let result := press layouts ⟨none, held⟩ keyboard layout resolution
    decision.output = result.1 ∧ decision.next ⟨none, held⟩ = result.2.engine layouts := by
  intro decision result
  have hroot : rootOf layouts keyboard = layout.transforms.root := by rw [rootOf, hlayout]
  obtain ⟨layer, mapped, value⟩ := resolution
  cases mapped with
  | none => exact ⟨rfl, rfl⟩
  | some deadKey =>
    have hstarted : layout.startedBy? ⟨none, held⟩ layer (some deadKey) =
        (layout.openedLevel? layer deadKey).map fun level => (deadKey, level) := rfl
    by_cases hdead : layout.isDeadKey layer deadKey ∧
        layout.transforms.root.lookup [deadKey] ≠ none
    · have hdecision : decision =
          .started layer deadKey (layout.transforms.root.levelAt [deadKey]) := by
        simp only [decision, Layout.decisionOn, hstarted, openedLevel?_eq, if_pos hdead,
          Option.map_some]
      have hresult : result = (.suppress, ⟨some (keyboard, [deadKey]), held⟩) :=
        press_of_deadKey rfl rfl hdead
      rw [hdecision, hresult]
      exact ⟨rfl, by simp [engine, hroot, Decision.next, Engine.begin]⟩
    · have hdecision : decision = .typed value := by
        simp only [decision, Layout.decisionOn, hstarted, openedLevel?_eq, if_neg hdead,
          Option.map_none]
        rfl
      have hresult : result = (.emit value, ⟨none, held⟩) := by
        refine press_of_ordinary rfl ?_
        rintro _ ⟨⟩
        exact hdead
      rw [hdecision, hresult]
      exact ⟨rfl, rfl⟩

/-- Within a composition, a resolved key does the same to both, whatever keyboard it is on: looking
up the longer path is looking up the value in the level that the engine holds. -/
theorem press_composing (layouts : LayoutStore) (origin : String) (path : List String) (held : Bool)
    (keyboard : String) (layout : Layout) (resolution : Resolution) :
    let machine : PathMachine := ⟨some (origin, path), held⟩
    let decision := layout.decisionOn (machine.engine layouts) resolution
    let result := machine.press layouts keyboard layout resolution
    decision.output = result.1 ∧
      decision.next (machine.engine layouts) = result.2.engine layouts := by
  intro machine decision result
  have hdecision : decision = (machine.engine layouts).feed resolution.value := rfl
  have hlookup : (rootOf layouts origin).lookup (path ++ [resolution.value]) =
      ((rootOf layouts origin).levelAt path).get? resolution.value :=
    Level.lookup_append_singleton _ _ _
  cases hget : ((rootOf layouts origin).levelAt path).get? resolution.value with
  | none =>
    have hfeed : decision = .abandoned resolution.value := by
      rw [hdecision]
      simp [machine, engine, Engine.feed, hget]
    have hresult : result = (.suppress, ⟨none, held⟩) :=
      press_of_nothing rfl (hlookup.trans hget)
    rw [hfeed, hresult]
    exact ⟨rfl, rfl⟩
  | some node =>
    cases node with
    | leaf text =>
      have hfeed : decision = .completed text := by
        rw [hdecision]
        simp [machine, engine, Engine.feed, hget]
      have hresult : result = (.emit text, ⟨none, held⟩) :=
        press_of_leaf rfl (hlookup.trans hget)
      rw [hfeed, hresult]
      exact ⟨rfl, rfl⟩
    | branch entries =>
      -- the engine holds the level one value further down, which is the one behind the longer path
      have hlevel : (rootOf layouts origin).levelAt (path ++ [resolution.value]) = entries := by
        rw [Level.levelAt_append_singleton, Level.below_of_get? hget]
        rfl
      have hfeed : decision = .continued resolution.value entries := by
        rw [hdecision]
        simp [machine, engine, Engine.feed, hget]
      have hresult : result = (.suppress, ⟨some (origin, path ++ [resolution.value]), held⟩) :=
        press_of_branch rfl (hlookup.trans hget)
      rw [hfeed, hresult]
      exact ⟨rfl, by simp [machine, engine, hlevel, Decision.next, Engine.advance]⟩

/-- A key-down does the same to a path machine and to its engine. -/
theorem keyDown_engine (layouts : LayoutStore) (machine : PathMachine) (keyboard code : String)
    (modifiers : Modifiers) :
    ((machine.engine layouts).keyDown layouts keyboard code modifiers).value =
      ((machine.keyDown layouts keyboard code modifiers).1,
        (machine.keyDown layouts keyboard code modifiers).2.engine layouts) := by
  rw [Engine.keyDown_value, keyDown]
  cases hlayout : layouts.get? keyboard with
  | none => rfl
  | some layout =>
    dsimp only
    cases layout.resolve? (Layer.name modifiers) code with
    | none => rfl
    | some resolution =>
      obtain ⟨pending, held⟩ := machine
      cases pending with
      | none =>
        obtain ⟨houtput, hnext⟩ := press_idle layouts held hlayout resolution
        exact Prod.ext houtput hnext
      | some composing =>
        obtain ⟨houtput, hnext⟩ :=
          press_composing layouts composing.1 composing.2 held keyboard layout resolution
        exact Prod.ext houtput hnext

/-- Every call does the same to a path machine and to its engine. -/
theorem call_engine (layouts : LayoutStore) (machine : PathMachine) (request : EngineCall) :
    (machine.engine layouts).call layouts request =
      ((machine.call layouts request).1, (machine.call layouts request).2.engine layouts) := by
  cases request with
  | handle keyboard event =>
    rw [Engine.call, Engine.handle_value, call]
    by_cases halt : event.isAltRight
    · rw [if_pos halt, if_pos halt]
      rfl
    · rw [if_neg halt, if_neg halt]
      by_cases hdown : event.isDown
      · rw [if_pos hdown, if_pos hdown, show (machine.engine layouts).altRightHeld =
          machine.altRightHeld from rfl, keyDown_engine]
      · rw [if_neg hdown, if_neg hdown]
  | keyDown keyboard code modifiers => rw [Engine.call, keyDown_engine, call]
  | trackAltRight event =>
    rw [Engine.call, Engine.trackAltRight, call]
    by_cases halt : event.isAltRight
    · rw [if_pos halt, if_pos halt]
      rfl
    · rw [if_neg halt, if_neg halt]
  | reset => rfl

/-! ## Right Alt -/

/-- The latest move of right Alt since the last reset was down. -/
def LatestIsDown (calls : List EngineCall) : Prop :=
  ∃ before request after, calls = before ++ request :: after ∧ request.altRight? = some .down ∧
    ∀ later ∈ after, later.altRight? = none ∧ later ≠ .reset

theorem altRightHeld_press (layouts : LayoutStore) (machine : PathMachine) (keyboard : String)
    (layout : Layout) (resolution : Resolution) :
    (machine.press layouts keyboard layout resolution).2.altRightHeld = machine.altRightHeld := by
  obtain ⟨pending, ⟨text, h⟩ | h⟩ := press_cases layouts machine keyboard layout resolution
  · rw [h]
  · rw [h]

/-- A key-down never moves right Alt. -/
theorem altRightHeld_keyDown (layouts : LayoutStore) (machine : PathMachine)
    (keyboard code : String) (modifiers : Modifiers) :
    (machine.keyDown layouts keyboard code modifiers).2.altRightHeld = machine.altRightHeld := by
  rw [keyDown]
  cases layouts.get? keyboard with
  | none => rfl
  | some layout =>
    dsimp only
    cases layout.resolve? (Layer.name modifiers) code with
    | none => rfl
    | some resolution => exact altRightHeld_press ..

/-- Behind a call right Alt is held as the call moved it; a reset lets go of it. -/
theorem altRightHeld_call (layouts : LayoutStore) (machine : PathMachine) (request : EngineCall) :
    (machine.call layouts request).2.altRightHeld =
      if request = .reset then false
      else match request.altRight? with
        | some direction => decide (direction = .down)
        | none => machine.altRightHeld := by
  cases request with
  | handle keyboard event =>
    by_cases halt : event.isAltRight
    · simp [call, EngineCall.altRight?, halt, KeyEvent.isDown]
    · by_cases hdown : event.isDown <;>
        simp [call, EngineCall.altRight?, halt, hdown, altRightHeld_keyDown]
  | keyDown keyboard code modifiers => simp [call, EngineCall.altRight?, altRightHeld_keyDown]
  | trackAltRight event =>
    by_cases halt : event.isAltRight <;>
      simp [call, EngineCall.altRight?, halt, KeyEvent.isDown]
  | reset => rfl

/-- The latest move is that of the first call if no call behind it moves right Alt or resets. -/
theorem latestIsDown_cons {request : EngineCall} {calls : List EngineCall} :
    LatestIsDown (request :: calls) ↔
      LatestIsDown calls ∨ request.altRight? = some .down ∧
        ∀ later ∈ calls, later.altRight? = none ∧ later ≠ .reset := by
  constructor
  · rintro ⟨before, latest, after, hsplit, hdown, hlater⟩
    cases before with
    | nil =>
      obtain ⟨rfl, rfl⟩ := List.cons.inj hsplit
      exact .inr ⟨hdown, hlater⟩
    | cons first before =>
      obtain ⟨rfl, rfl⟩ := List.cons.inj hsplit
      exact .inl ⟨before, latest, after, rfl, hdown, hlater⟩
  · rintro (⟨before, latest, after, rfl, hdown, hlater⟩ | ⟨hdown, hquiet⟩)
    · exact ⟨request :: before, latest, after, rfl, hdown, hlater⟩
    · exact ⟨[], request, calls, rfl, hdown, hquiet⟩

/-- Whether right Alt is held behind a run: its latest move decides, and the start if there is
none. -/
theorem altRightHeld_stateAfter (layouts : LayoutStore) (machine : PathMachine)
    (calls : List EngineCall) :
    (stateAfter (call layouts) machine calls).altRightHeld = true ↔
      LatestIsDown calls ∨ machine.altRightHeld = true ∧
        ∀ request ∈ calls, request.altRight? = none ∧ request ≠ .reset := by
  induction calls generalizing machine with
  | nil => simp [stateAfter, LatestIsDown]
  | cons request calls ih =>
    have hstep : stateAfter (call layouts) machine (request :: calls) =
        stateAfter (call layouts) (machine.call layouts request).2 calls := rfl
    rw [hstep, ih, altRightHeld_call, latestIsDown_cons, List.forall_mem_cons]
    by_cases hreset : request = .reset
    · simp [hreset, EngineCall.altRight?]
    · cases hmove : request.altRight? with
      | none => simp [hreset]
      | some direction => cases direction <;> simp [hreset]

/-! ## Refinement -/

/-- A new engine and a new path machine answer every list of calls alike and look alike behind every
call, and behind every run both hold right Alt exactly if its latest move since the last reset was
down. -/
theorem engineTrace_eq_pathTrace (layouts : LayoutStore) (calls : List EngineCall) :
    trace (Engine.call layouts) Engine.observe .idle calls =
        trace (PathMachine.call layouts) observe idle calls ∧
      ((stateAfter (PathMachine.call layouts) idle calls).altRightHeld = true ↔
        LatestIsDown calls) := by
  constructor
  · exact trace_eq_of_square (engine layouts) (call_engine layouts) (observe_engine layouts) idle
      calls
  · rw [altRightHeld_stateAfter]
    simp [idle]

end PathMachine

end DeadKeys
