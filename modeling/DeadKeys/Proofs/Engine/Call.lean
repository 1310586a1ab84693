import DeadKeys.Engine

/-!
# Calls on an engine

All that a host can ask of an engine, as data, so that statements can range over whole runs. A run
shows the answer to every call and what can be seen of the engine behind it. Two machines that agree
call by call show the same run (`trace_eq_of_square`).
-/

namespace DeadKeys

/-- A call on an engine. -/
inductive EngineCall where
  /-- A raw key event of a keyboard. -/
  | handle (keyboard : String) (event : KeyEvent)
  /-- A key-down under given modifiers. -/
  | keyDown (keyboard code : String) (modifiers : Modifiers)
  /-- An event for the tracking of right Alt only. -/
  | trackAltRight (event : KeyEvent)
  /-- Back to the start. -/
  | reset
deriving DecidableEq

/-- The way in which right Alt moves in a call; `none` for any other call. -/
def EngineCall.altRight? : EngineCall → Option KeyDirection
  | .handle _ event | .trackAltRight event =>
    if event.isAltRight then some event.direction else none
  | .keyDown .. | .reset => none

/-- What a call answers. -/
inductive Answer where
  | output (output : Output)
  /-- Whether the tracking of right Alt was all there is to an event. -/
  | consumed (consumed : Bool)
  | done
deriving DecidableEq

/-- The text that an answer emits. -/
def Answer.text? : Answer → Option String
  | .output answered => answered.text?
  | .consumed _ | .done => none

/-- All that can be seen of an engine between two calls. -/
structure Observation where
  isComposing : Bool
  sequence : List String
  altRightHeld : Bool
deriving DecidableEq

/-! ## Runs -/

section Runs

variable {σ τ : Type}

/-- The state behind a list of calls. -/
def stateAfter (step : σ → EngineCall → Answer × σ) (state : σ) (calls : List EngineCall) : σ :=
  calls.foldl (fun state call => (step state call).2) state

/-- The answers to a list of calls, each with what can be seen behind it. -/
def trace (step : σ → EngineCall → Answer × σ) (observe : σ → Observation) :
    σ → List EngineCall → List (Answer × Observation)
  | _, [] => []
  | state, call :: calls =>
    ((step state call).1, observe (step state call).2) ::
      trace step observe (step state call).2 calls

theorem stateAfter_concat (step : σ → EngineCall → Answer × σ) (state : σ)
    (calls : List EngineCall) (call : EngineCall) :
    stateAfter step state (calls ++ [call]) = (step (stateAfter step state calls) call).2 := by
  simp [stateAfter]

/-- One more call shows its answer and what can be seen behind it. -/
theorem trace_concat (step : σ → EngineCall → Answer × σ) (observe : σ → Observation) (state : σ)
    (calls : List EngineCall) (call : EngineCall) :
    trace step observe state (calls ++ [call]) =
      trace step observe state calls ++
        [((step (stateAfter step state calls) call).1,
          observe (step (stateAfter step state calls) call).2)] := by
  induction calls generalizing state with
  | nil => rfl
  | cons first calls ih =>
    rw [List.cons_append, trace, ih, trace]
    rfl

/-- If every call commutes with a view of the states, whole runs show the same. -/
theorem trace_eq_of_square {step : σ → EngineCall → Answer × σ} {observe : σ → Observation}
    {step' : τ → EngineCall → Answer × τ} {observe' : τ → Observation} (view : τ → σ)
    (square : ∀ state call, step (view state) call =
      ((step' state call).1, view (step' state call).2))
    (seen : ∀ state, observe (view state) = observe' state) (state : τ)
    (calls : List EngineCall) :
    trace step observe (view state) calls = trace step' observe' state calls := by
  induction calls generalizing state with
  | nil => rfl
  | cons call calls ih => rw [trace, trace, square, seen, ih]

end Runs

/-! ## Engines -/

namespace Engine

/-- What can be seen of an engine. -/
def observe (engine : Engine) : Observation :=
  ⟨engine.isComposing, engine.sequence, engine.altRightHeld⟩

/-- Answers a call, and gives the engine behind it. -/
def call (layouts : LayoutStore) (engine : Engine) : EngineCall → Answer × Engine
  | .handle keyboard event =>
    let result := (engine.handle layouts keyboard event).value
    (.output result.1, result.2)
  | .keyDown keyboard code modifiers =>
    let result := (engine.keyDown layouts keyboard code modifiers).value
    (.output result.1, result.2)
  | .trackAltRight event =>
    let result := engine.trackAltRight event
    (.consumed result.1, result.2)
  | .reset => (.done, engine.reset)

/-- The texts that a new engine emits in the course of a run. -/
def emitted (layouts : LayoutStore) (calls : List EngineCall) : List String :=
  (trace (call layouts) observe .idle calls).filterMap fun shown => shown.1.text?

theorem emitted_concat (layouts : LayoutStore) (calls : List EngineCall) (request : EngineCall) :
    emitted layouts (calls ++ [request]) =
      emitted layouts calls ++
        ((stateAfter (call layouts) .idle calls).call layouts request).1.text?.toList := by
  rw [emitted, trace_concat, List.filterMap_append]
  cases htext : ((stateAfter (call layouts) .idle calls).call layouts request).1.text? <;>
    simp [emitted, htext]

/-- The answer to a raw key event, by kind: right Alt, other key-downs, other key-ups. -/
theorem handle_value (layouts : LayoutStore) (engine : Engine) (keyboard : String)
    (event : KeyEvent) :
    (engine.handle layouts keyboard event).value =
      if event.isAltRight then
        (if event.isDown then .suppress else .passThrough,
          { engine with altRightHeld := event.isDown })
      else if event.isDown then
        (engine.keyDown layouts keyboard event.code (event.modifiers engine.altRightHeld)).value
      else (.passThrough, engine) := by
  rw [handle, trackAltRight]
  by_cases halt : event.isAltRight
  · by_cases hdown : event.isDown <;> simp [halt, hdown]
  · by_cases hdown : event.isDown <;> simp [halt, hdown]

end Engine

end DeadKeys
