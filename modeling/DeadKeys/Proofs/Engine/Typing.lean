import DeadKeys.Proofs.Engine.PathMachine
import DeadKeys.Proofs.Layout.Extension

/-!
# Typing a declared transform

A press is a key-down that some layer resolves. Whatever else is asked of an engine, short of a
reset, leaves the composition under way alone (`PathMachine.pending_call_of_not_press`), and every
press moves it along the path that was typed. So a declared transform comes out once its values are
pressed in order, no matter what happens in between (`Engine.types_declared_transform`).
-/

namespace DeadKeys

open Transform

/-! ## Presses -/

/-- A key-down that the layout of its keyboard resolves. -/
structure Press where
  keyboard : String
  layout : Layout
  resolution : Resolution

/-- The press that a key-down is, if its keyboard is known and some layer resolves the key. -/
def Press.ofKeyDown? (layouts : LayoutStore) (keyboard code : String) (modifiers : Modifiers) :
    Option Press :=
  match layouts.get? keyboard with
  | none => none
  | some layout =>
    (layout.resolve? (Layer.name modifiers) code).map fun resolution =>
      ⟨keyboard, layout, resolution⟩

/-- The press that a call is, given whether right Alt is held. Key-ups and right Alt press nothing.
-/
def EngineCall.press? (layouts : LayoutStore) (held : Bool) : EngineCall → Option Press
  | .handle keyboard event =>
    if event.isDown && !event.isAltRight then
      Press.ofKeyDown? layouts keyboard event.code (event.modifiers held)
    else none
  | .keyDown keyboard code modifiers => Press.ofKeyDown? layouts keyboard code modifiers
  | .trackAltRight _ | .reset => none

/-- A press with the answer to it and what the engine shows of its composition behind it. -/
structure Report where
  press : Press
  answer : Answer
  isComposing : Bool
  sequence : List String

/-- What a host sees of a press. -/
def Report.shown (report : Report) : Answer × Bool × List String :=
  (report.answer, report.isComposing, report.sequence)

/-- The reports on the presses of a run; calls that press nothing leave no report. -/
def reports (layouts : LayoutStore) : Engine → List EngineCall → List Report
  | _, [] => []
  | engine, call :: calls =>
    let (answer, next) := engine.call layouts call
    match call.press? layouts engine.altRightHeld with
    | some press => ⟨press, answer, next.isComposing, next.sequence⟩ :: reports layouts next calls
    | none => reports layouts next calls

namespace PathMachine

variable {layouts : LayoutStore} {machine : PathMachine} {request : EngineCall} {press : Press}

theorem reports_of_press (h : request.press? layouts machine.altRightHeld = some press)
    (calls : List EngineCall) :
    reports layouts (machine.engine layouts) (request :: calls) =
      ⟨press, (machine.call layouts request).1,
        (machine.call layouts request).2.observe.isComposing,
        (machine.call layouts request).2.observe.sequence⟩ ::
        reports layouts ((machine.call layouts request).2.engine layouts) calls := by
  have hheld : request.press? layouts (machine.engine layouts).altRightHeld = some press := h
  rw [reports, call_engine, hheld, ← observe_engine layouts]
  rfl

theorem reports_of_not_press (h : request.press? layouts machine.altRightHeld = none)
    (calls : List EngineCall) :
    reports layouts (machine.engine layouts) (request :: calls) =
      reports layouts ((machine.call layouts request).2.engine layouts) calls := by
  have hheld : request.press? layouts (machine.engine layouts).altRightHeld = none := h
  rw [reports, call_engine, hheld]

/-! ## One call -/

/-- A key-down passes through unless it is a press. -/
theorem keyDown_eq (layouts : LayoutStore) (machine : PathMachine) (keyboard code : String)
    (modifiers : Modifiers) :
    machine.keyDown layouts keyboard code modifiers =
      match Press.ofKeyDown? layouts keyboard code modifiers with
      | some press => machine.press layouts press.keyboard press.layout press.resolution
      | none => (.passThrough, machine) := by
  rw [keyDown, Press.ofKeyDown?]
  cases layouts.get? keyboard with
  | none => rfl
  | some layout =>
    dsimp only
    cases layout.resolve? (Layer.name modifiers) code <;> rfl

theorem get?_of_ofKeyDown? {keyboard code : String} {modifiers : Modifiers}
    (h : Press.ofKeyDown? layouts keyboard code modifiers = some press) :
    layouts.get? press.keyboard = some press.layout := by
  rw [Press.ofKeyDown?] at h
  cases hlayout : layouts.get? keyboard with
  | none => simp [hlayout] at h
  | some layout =>
    simp only [hlayout, Option.map_eq_some_iff] at h
    obtain ⟨resolution, _, rfl⟩ := h
    exact hlayout

/-- The keyboard of a press is known. -/
theorem get?_of_press (h : request.press? layouts machine.altRightHeld = some press) :
    layouts.get? press.keyboard = some press.layout := by
  cases request with
  | handle keyboard event =>
    rw [EngineCall.press?] at h
    split at h
    · exact get?_of_ofKeyDown? h
    · cases h
  | keyDown keyboard code modifiers => exact get?_of_ofKeyDown? h
  | trackAltRight event => cases h
  | reset => cases h

/-- A press does what its resolution says. -/
theorem call_of_press (h : request.press? layouts machine.altRightHeld = some press) :
    machine.call layouts request =
      (.output (machine.press layouts press.keyboard press.layout press.resolution).1,
        (machine.press layouts press.keyboard press.layout press.resolution).2) := by
  cases request with
  | handle keyboard event =>
    rw [EngineCall.press?] at h
    split at h
    · rename_i hdown
      obtain ⟨hdown, halt⟩ := (Bool.and_eq_true _ _).mp hdown
      have halt : ¬ event.isAltRight = true := by simpa using halt
      rw [call, if_neg halt, if_pos hdown, keyDown_eq, h]
    · cases h
  | keyDown keyboard code modifiers =>
    rw [EngineCall.press?] at h
    rw [call, keyDown_eq, h]
  | trackAltRight event => cases h
  | reset => cases h

/-- A call that presses nothing, and is no reset, leaves the composition alone. -/
theorem pending_call_of_not_press (h : request.press? layouts machine.altRightHeld = none)
    (hreset : request ≠ .reset) :
    (machine.call layouts request).2.pending = machine.pending := by
  cases request with
  | handle keyboard event =>
    rw [call]
    by_cases halt : event.isAltRight
    · rw [if_pos halt]
    · rw [if_neg halt]
      by_cases hdown : event.isDown
      · rw [EngineCall.press?, if_pos (by simp [halt, hdown])] at h
        rw [if_pos hdown, keyDown_eq, h]
      · rw [if_neg hdown]
  | keyDown keyboard code modifiers =>
    rw [EngineCall.press?] at h
    rw [call, keyDown_eq, h]
  | trackAltRight event =>
    rw [call]
    split <;> rfl
  | reset => exact absurd rfl hreset

/-! ## Runs -/

variable {origin : String} {path : List String} {text : String}

theorem stateAfter_engine_cons (layouts : LayoutStore) (machine : PathMachine)
    (request : EngineCall) (calls : List EngineCall) :
    stateAfter (Engine.call layouts) (machine.engine layouts) (request :: calls) =
      stateAfter (Engine.call layouts) ((machine.call layouts request).2.engine layouts) calls := by
  rw [stateAfter, List.foldl_cons, call_engine]
  rfl

/-- A run without presses and resets ends as it started. -/
theorem isComposing_stateAfter {calls : List EngineCall} (hreset : EngineCall.reset ∉ calls)
    (hnone : reports layouts (machine.engine layouts) calls = []) :
    (stateAfter (Engine.call layouts) (machine.engine layouts) calls).isComposing =
      machine.pending.isSome := by
  induction calls generalizing machine with
  | nil =>
    obtain ⟨pending, held⟩ := machine
    cases pending <;> rfl
  | cons request calls ih =>
    rw [List.mem_cons, not_or] at hreset
    obtain ⟨hrequest, hcalls⟩ := hreset
    cases hpress : request.press? layouts machine.altRightHeld with
    | some press =>
      rw [reports_of_press hpress] at hnone
      cases hnone
    | none =>
      rw [reports_of_not_press hpress] at hnone
      rw [stateAfter_engine_cons, ih hcalls hnone,
        pending_call_of_not_press hpress (Ne.symm hrequest)]

/-- The first press of a run without resets finds the composition as it was at the start. What is
asked before it leaves no report, and the rest of the run starts from what the press does. -/
theorem reports_eq_cons {calls : List EngineCall} (hreset : EngineCall.reset ∉ calls)
    {others : List Press}
    (hpressed : (reports layouts (machine.engine layouts) calls).map (·.press) = press :: others) :
    layouts.get? press.keyboard = some press.layout ∧
      ∃ start : PathMachine, start.pending = machine.pending ∧
        ∃ rest, EngineCall.reset ∉ rest ∧
          let result := start.press layouts press.keyboard press.layout press.resolution
          reports layouts (machine.engine layouts) calls =
              ⟨press, .output result.1, result.2.observe.isComposing, result.2.observe.sequence⟩ ::
                reports layouts (result.2.engine layouts) rest ∧
            stateAfter (Engine.call layouts) (machine.engine layouts) calls =
              stateAfter (Engine.call layouts) (result.2.engine layouts) rest := by
  induction calls generalizing machine with
  | nil => cases hpressed
  | cons request calls ih =>
    rw [List.mem_cons, not_or] at hreset
    obtain ⟨hrequest, hcalls⟩ := hreset
    rw [stateAfter_engine_cons]
    cases hpress : request.press? layouts machine.altRightHeld with
    | none =>
      rw [reports_of_not_press hpress] at hpressed ⊢
      have hkept := pending_call_of_not_press hpress (Ne.symm hrequest)
      obtain ⟨hlayout, start, hstart, hrun⟩ := ih hcalls hpressed
      exact ⟨hlayout, start, hstart.trans hkept, hrun⟩
    | some first =>
      rw [reports_of_press hpress, List.map_cons] at hpressed
      obtain ⟨hfirst, _⟩ := List.cons.inj hpressed
      cases hfirst
      rw [reports_of_press hpress, call_of_press hpress]
      exact ⟨get?_of_press hpress, machine, rfl, calls, hcalls, rfl, rfl⟩

/-- What a host sees of presses that lead from a path to the text at its end. -/
def shownAlong (path values : List String) (text : String) : List (Answer × Bool × List String) :=
  (List.range (values.length - 1)).map
      (fun i => (.output .suppress, true, path ++ values.take (i + 1))) ++
    [(.output (.emit text), false, [])]

theorem shownAlong_cons_cons (path : List String) (value next : String) (values : List String)
    (text : String) :
    shownAlong path (value :: next :: values) text =
      (.output .suppress, true, path ++ [value]) ::
        shownAlong (path ++ [value]) (next :: values) text := by
  simp [shownAlong, List.range_succ_eq_map]

/-- Within a composition, presses of the values that lead to a leaf bring its text out. -/
theorem shown_reports_of_leaf {values : List String} (hvalues : values ≠ [])
    (hleaf : (rootOf layouts origin).lookup (path ++ values) = some (.leaf text))
    {calls : List EngineCall} (hreset : EngineCall.reset ∉ calls)
    (hpending : machine.pending = some (origin, path))
    (htyped : (reports layouts (machine.engine layouts) calls).map (·.press.resolution.value) =
      values) :
    (reports layouts (machine.engine layouts) calls).map Report.shown =
        shownAlong path values text ∧
      (stateAfter (Engine.call layouts) (machine.engine layouts) calls).isComposing = false := by
  -- on the values: what was typed and what is still to come always make up the whole path
  induction values generalizing machine path calls with
  | nil => exact absurd rfl hvalues
  | cons value values ih =>
    obtain ⟨report, others, hreports⟩ :
        ∃ report others, reports layouts (machine.engine layouts) calls = report :: others := by
      cases hreports : reports layouts (machine.engine layouts) calls with
      | nil => simp [hreports] at htyped
      | cons report others => exact ⟨report, others, rfl⟩
    obtain ⟨_, start, hstart, rest, hrest, hrun, hstate⟩ :=
      reports_eq_cons hreset (congrArg (List.map (·.press)) hreports)
    have hpending : start.pending = some (origin, path) := hstart.trans hpending
    rw [hrun, List.map_cons] at htyped
    obtain ⟨hvalue, hothers⟩ := List.cons.inj htyped
    cases hvalue
    rw [hstate, hrun, List.map_cons]
    cases values with
    | nil =>
      -- the last value: no call behind it is a press
      rw [press_of_leaf hpending hleaf] at hothers ⊢
      have hnone := List.map_eq_nil_iff.mp hothers
      refine ⟨?_, isComposing_stateAfter hrest hnone⟩
      rw [hnone]
      rfl
    | cons next values =>
      -- a value on the way: the rest of the run starts from the longer path
      have hsplit : path ++ report.press.resolution.value :: next :: values =
          (path ++ [report.press.resolution.value]) ++ next :: values := by simp
      rw [hsplit] at hleaf
      obtain ⟨level, hlevel⟩ := Level.lookup_of_append (by simp) (by simp) hleaf
      rw [press_of_branch hpending hlevel] at hothers ⊢
      obtain ⟨hshown, hidle⟩ := ih (by simp) hleaf hrest rfl hothers
      rw [shownAlong_cons_cons, hshown]
      exact ⟨rfl, hidle⟩

/-- From idle, a press of a dead key and presses of the values that follow it in a transform of its
layout bring the text of the transform out. -/
theorem shown_reports_of_deadKey {first : Press} {others : List Press} {deadKey : String}
    (hmapped : first.resolution.mapped = some deadKey)
    (hdead : first.layout.isDeadKey first.resolution.layer deadKey = true)
    (hothers : others ≠ [])
    (hleaf : first.layout.transforms.root.lookup
      (deadKey :: others.map (·.resolution.value)) = some (.leaf text))
    {calls : List EngineCall} (hreset : EngineCall.reset ∉ calls)
    (hpending : machine.pending = none)
    (hpressed : (reports layouts (machine.engine layouts) calls).map (·.press) = first :: others) :
    (reports layouts (machine.engine layouts) calls).map Report.shown =
        (.output .suppress, true, [deadKey]) ::
          shownAlong [deadKey] (others.map (·.resolution.value)) text ∧
      (stateAfter (Engine.call layouts) (machine.engine layouts) calls).isComposing = false := by
  have hvalues : others.map (·.resolution.value) ≠ [] := by simpa using hothers
  obtain ⟨hlayout, start, hstart, rest, hrest, hrun, hstate⟩ := reports_eq_cons hreset hpressed
  have hroot : rootOf layouts first.keyboard = first.layout.transforms.root := by
    rw [rootOf, hlayout]
  obtain ⟨level, hlevel⟩ : ∃ level, first.layout.transforms.root.lookup [deadKey] =
      some (.branch level) := Level.lookup_of_append (List.cons_ne_nil _ _) hvalues hleaf
  rw [press_of_deadKey (hstart.trans hpending) hmapped ⟨hdead, by simp [hlevel]⟩] at hrun hstate
  rw [hrun, List.map_cons] at hpressed
  have htyped := congrArg (List.map (·.resolution.value)) (List.cons.inj hpressed).2
  rw [List.map_map] at htyped
  rw [← hroot] at hleaf
  obtain ⟨hshown, hidle⟩ := shown_reports_of_leaf hvalues hleaf hrest rfl htyped
  rw [hstate, hrun, List.map_cons, hshown]
  exact ⟨rfl, hidle⟩

end PathMachine

/-! ## Declared transforms -/

namespace Engine

/-- In any engine that is idle, a press of the dead key of a declared transform, in a layer that
registers it, and presses of the values behind it, in order, are all swallowed but the last, which
is answered with the output. Every press is seen to be remembered until then, and the engine is idle
in the end. Between the presses anything but a reset may be asked of the engine. -/
theorem types_declared_transform {draft : LayoutDraft} {layout : Layout}
    (built : draft.build.value = .ok layout) {deadKey text : String} {values : List String}
    (declared : ⟨deadKey :: values, some text⟩ ∈ draft.transforms) (continued : values ≠ [])
    (layouts : LayoutStore) (engine : Engine) (idle : engine.isComposing = false)
    (calls : List EngineCall) (noReset : EngineCall.reset ∉ calls) {first : Press}
    {others : List Press}
    (pressed : (reports layouts engine calls).map (·.press) = first :: others)
    (onLayout : first.layout = layout) (mapped : first.resolution.mapped = some deadKey)
    (dead : layout.isDeadKey first.resolution.layer deadKey = true)
    (typed : others.map (·.resolution.value) = values) :
    (reports layouts engine calls).map Report.shown =
        (List.range values.length).map
            (fun i => (.output .suppress, true, deadKey :: values.take i)) ++
          [(.output (.emit text), false, [])] ∧
      (stateAfter (Engine.call layouts) engine calls).isComposing = false := by
  cases onLayout
  cases typed
  have others_ne_nil : others ≠ [] := by simpa using continued
  have leaf := LayoutDraft.lookup_of_declared built (List.cons_ne_nil deadKey _) declared
  obtain ⟨composition, held⟩ := engine
  obtain rfl : composition = none := by simpa [isComposing] using idle
  have machinePressed : (reports layouts (PathMachine.engine layouts ⟨none, held⟩) calls).map
      (·.press) = first :: others := pressed
  obtain ⟨shown, ended⟩ := PathMachine.shown_reports_of_deadKey mapped dead others_ne_nil leaf
    noReset rfl machinePressed
  refine ⟨shown.trans ?_, ended⟩
  obtain ⟨second, rest, rfl⟩ := List.exists_cons_of_ne_nil others_ne_nil
  simp [PathMachine.shownAlong, List.range_succ_eq_map]

/-- A dead key, the space bar and a letter, with right Alt, a key-up, an unknown keyboard and a key
without a mapping in between. -/
theorem types_declared_transform_interrupted :
    let draft := LayoutDraft.ofDeclarations [.layer "default" [("C01", "a"), ("Quote", "^")],
      .layer "shift" [("C01", "A")], .deadKeys "default" ["^"], .space "default" "·",
      .transform ["^", "·", "A"] "Ậ", .transform ["^", "a"] "â", .derive .all]
    let calls : List EngineCall := [.handle "left" ⟨"Quote", .down, false, false, false⟩,
      .handle "left" ⟨"Quote", .up, false, false, false⟩,
      .handle "right" ⟨"KeyA", .down, false, false, false⟩,
      .trackAltRight ⟨"AltRight", .down, false, false, false⟩,
      .keyDown "left" "Space" ⟨false, false, false, false⟩,
      .handle "left" ⟨"AltRight", .up, false, false, false⟩,
      .handle "left" ⟨"F1", .down, false, false, false⟩,
      .handle "left" ⟨"KeyA", .down, false, false, true⟩]
    ∃ layout, draft.build.value = .ok layout ∧
      (reports (.ofList [("left", layout)]) .idle calls).map Report.shown =
        [(.output .suppress, true, ["^"]), (.output .suppress, true, ["^", "·"]),
          (.output (.emit "Ậ"), false, [])] := by
  intro draft calls
  obtain ⟨layout, built, first, others, pressed, onLayout, mapped, dead, typed⟩ :
      ∃ layout, draft.build.value = .ok layout ∧ ∃ first others,
        (reports (.ofList [("left", layout)]) .idle calls).map (·.press) = first :: others ∧
        first.layout = layout ∧ first.resolution.mapped = some "^" ∧
        layout.isDeadKey first.resolution.layer "^" = true ∧
        others.map (·.resolution.value) = ["·", "A"] :=
    ⟨_, rfl, _, _, rfl, rfl, by decide +kernel, by decide +kernel, by decide +kernel⟩
  have declared : ⟨["^", "·", "A"], some "Ậ"⟩ ∈ draft.transforms := by decide +kernel
  have noReset : EngineCall.reset ∉ calls := by decide +kernel
  refine ⟨layout, built, ?_⟩
  exact (types_declared_transform built declared (List.cons_ne_nil _ _) _ .idle rfl calls noReset
    pressed onLayout mapped dead typed).1

end Engine

end DeadKeys
