import DeadKeys.Layout.Draft
import DeadKeys.Proofs.Engine.Call
import DeadKeys.Proofs.Engine.Resolution
import DeadKeys.Proofs.Transform.Depth
import Mathlib.Data.List.Induction

/-!
# Compositions end

While an engine composes, a key-down that is not passed through either ends the composition or moves
it on by one value, to a level that is less deep (`Engine.feeds_keyDown`). No second composition
starts on the way. So the depth of the level bounds how many more key-downs the composition can take
(`Engine.exists_idle_of_handled`), and what was typed and what is ahead never exceed the level that
the dead key opened (`exists_opened`).
-/

namespace DeadKeys

open Transform

/-! ## One call -/

/-- What a key-down does to a composition that is under way: the answer, and the engine behind it. -/
inductive Engine.Feeds (engine : Engine) (composition : Composition) : Output × Engine → Prop
  /-- The layout has nothing for the key. -/
  | ignored : Feeds engine composition (.passThrough, engine)
  | ended {output : Output} : output ≠ .passThrough →
      Feeds engine composition (output, engine.clear)
  /-- The value leads on. -/
  | extended {value : String} {level : Level} : level.depth < composition.level.depth →
      Feeds engine composition
        (.suppress, { engine with composition := some ⟨level, composition.sequence ++ [value]⟩ })

/-- How a call moves the composition of an engine, which is none while the engine is idle. -/
inductive Composition.Moves (layouts : LayoutStore) :
    Option Composition → Option Composition → Prop
  | kept {composition : Option Composition} : Moves layouts composition composition
  | ended {composition : Option Composition} : Moves layouts composition none
  | extended {composition : Composition} {value : String} {level : Level} :
      level.depth < composition.level.depth →
      Moves layouts (some composition) (some ⟨level, composition.sequence ++ [value]⟩)
  /-- A dead key is pressed from idle. -/
  | opened {keyboard layer deadKey : String} {layout : Layout} {level : Level} :
      layouts.get? keyboard = some layout → layout.openedLevel? layer deadKey = some level →
      Moves layouts none (some ⟨level, [deadKey]⟩)

namespace Engine

variable {engine : Engine} {composition : Composition}

/-- While an engine composes, a resolved key is not looked at as a dead key. -/
theorem decisionOn_of_composing (h : engine.composition = some composition) (layout : Layout)
    (resolution : Resolution) :
    layout.decisionOn engine resolution = engine.feed resolution.value := by
  simp [Layout.decisionOn, Layout.startedBy?, isComposing, h]

theorem feeds_feed (h : engine.composition = some composition) (value : String) :
    engine.Feeds composition ((engine.feed value).output, (engine.feed value).next engine) := by
  unfold feed
  rw [h]
  dsimp only
  cases hget : composition.level.get? value with
  | none => exact .ended (Decision.output_ne_passThrough _)
  | some node =>
    cases node with
    | leaf text => exact .ended (Decision.output_ne_passThrough _)
    | branch level =>
      have hnext : engine.advance value level =
          { engine with composition := some ⟨level, composition.sequence ++ [value]⟩ } := by
        simp [advance, h]
      show engine.Feeds composition (.suppress, engine.advance value level)
      rw [hnext]
      exact .extended (Level.depth_lt_of_get? hget)

/-- A key-down while an engine composes, on whatever keyboard. -/
theorem feeds_keyDown (h : engine.composition = some composition) (layouts : LayoutStore)
    (keyboard code : String) (modifiers : Modifiers) :
    engine.Feeds composition (engine.keyDown layouts keyboard code modifiers).value := by
  rw [keyDown_value]
  cases layouts.get? keyboard with
  | none => exact .ignored
  | some layout =>
    dsimp only
    cases layout.resolve? (Layer.name modifiers) code with
    | none => exact .ignored
    | some resolution =>
      dsimp only
      rw [decisionOn_of_composing h]
      exact feeds_feed h resolution.value

theorem Feeds.moves {result : Output × Engine} (h : engine.Feeds composition result)
    (hengine : engine.composition = some composition) (layouts : LayoutStore) :
    Composition.Moves layouts engine.composition result.2.composition := by
  cases h with
  | ignored => exact .kept
  | ended _ => exact .ended
  | extended hless =>
    rw [hengine]
    exact .extended hless

/-- From idle only a dead key starts a composition, at the level that it opens. -/
theorem moves_decisionOn {layouts : LayoutStore} {keyboard : String} {layout : Layout}
    (hlayout : layouts.get? keyboard = some layout) (h : engine.composition = none)
    (resolution : Resolution) :
    Composition.Moves layouts none
      ((layout.decisionOn engine resolution).next engine).composition := by
  unfold Layout.decisionOn
  cases hstarted : layout.startedBy? engine resolution.layer resolution.mapped with
  | none =>
    have htyped : engine.feed resolution.value = .typed resolution.value := by
      simp [feed, h]
    simp only [htyped, Decision.next, h]
    exact .kept
  | some started =>
    obtain ⟨deadKey, level⟩ := started
    have hopened : layout.openedLevel? resolution.layer deadKey = some level := by
      simp only [Layout.startedBy?, isComposing, h, Option.isSome_none, Bool.false_eq_true,
        if_false, Option.bind_eq_some_iff, Option.map_eq_some_iff, Prod.mk.injEq] at hstarted
      obtain ⟨value, -, found, hfound, rfl, rfl⟩ := hstarted
      exact hfound
    exact .opened hlayout hopened

theorem moves_keyDown (layouts : LayoutStore) (engine : Engine) (keyboard code : String)
    (modifiers : Modifiers) :
    Composition.Moves layouts engine.composition
      (engine.keyDown layouts keyboard code modifiers).value.2.composition := by
  cases hengine : engine.composition with
  | some composition =>
    rw [← hengine]
    exact (feeds_keyDown hengine layouts keyboard code modifiers).moves hengine layouts
  | none =>
    have hkept : Composition.Moves layouts none engine.composition := by
      rw [hengine]
      exact .kept
    rw [keyDown_value]
    cases hlayout : layouts.get? keyboard with
    | none => exact hkept
    | some layout =>
      dsimp only
      cases layout.resolve? (Layer.name modifiers) code with
      | none => exact hkept
      | some resolution => exact moves_decisionOn hlayout hengine resolution

/-- Any call moves the composition in one of these ways. -/
theorem moves_call (layouts : LayoutStore) (engine : Engine) (request : EngineCall) :
    Composition.Moves layouts engine.composition
      (engine.call layouts request).2.composition := by
  cases request with
  | handle keyboard event =>
    rw [call, handle_value]
    split
    · exact .kept
    · split
      · exact moves_keyDown layouts engine keyboard event.code _
      · exact .kept
  | keyDown keyboard code modifiers => exact moves_keyDown layouts engine keyboard code modifiers
  | trackAltRight event =>
    have hkept : (engine.trackAltRight event).2.composition = engine.composition := by
      unfold trackAltRight
      split <;> rfl
    show Composition.Moves layouts engine.composition (engine.trackAltRight event).2.composition
    rw [hkept]
    exact .kept
  | reset => exact .ended

end Engine

/-! ## The level that the dead key opened -/

/-- Behind calls on a new engine a composition is under way that a dead key started at a level. -/
inductive Opened (layouts : LayoutStore) : List EngineCall → Level → Prop
  /-- The last call pressed the dead key, on a keyboard whose layout opens the level for it. -/
  | now {calls : List EngineCall} {request : EngineCall} {keyboard layer deadKey : String}
      {layout : Layout} {level : Level} :
      (stateAfter (Engine.call layouts) .idle calls).isComposing = false →
      layouts.get? keyboard = some layout → layout.openedLevel? layer deadKey = some level →
      (stateAfter (Engine.call layouts) .idle (calls ++ [request])).composition =
        some ⟨level, [deadKey]⟩ →
      Opened layouts (calls ++ [request]) level
  /-- The composition was under way before the last call and still is. -/
  | since {calls : List EngineCall} {request : EngineCall} {level : Level} :
      Opened layouts calls level →
      (stateAfter (Engine.call layouts) .idle (calls ++ [request])).isComposing = true →
      Opened layouts (calls ++ [request]) level

/-- What was typed and the depth of what is ahead never exceed the level that the dead key opened. -/
theorem exists_opened {layouts : LayoutStore} {calls : List EngineCall} {composition : Composition}
    (h : (stateAfter (Engine.call layouts) .idle calls).composition = some composition) :
    ∃ opened, Opened layouts calls opened ∧
      composition.sequence.length + composition.level.depth ≤ 1 + opened.depth := by
  induction calls using List.reverseRecOn generalizing composition with
  | nil => cases h
  | append_singleton calls request ih =>
    have hcomposing : (stateAfter (Engine.call layouts) .idle (calls ++ [request])).isComposing =
        true := by
      simp [Engine.isComposing, h]
    have hnext := h
    rw [stateAfter_concat] at hnext
    have hmoves := Engine.moves_call layouts (stateAfter (Engine.call layouts) .idle calls) request
    generalize hbefore : (stateAfter (Engine.call layouts) .idle calls).composition = before
      at hmoves
    rw [hnext] at hmoves
    cases hmoves with
    | kept =>
      obtain ⟨opened, hopened, hbound⟩ := ih hbefore
      exact ⟨opened, hopened.since hcomposing, hbound⟩
    | @extended previous value level hless =>
      obtain ⟨opened, hopened, hbound⟩ := ih hbefore
      refine ⟨opened, hopened.since hcomposing, ?_⟩
      rw [List.length_append, List.length_singleton]
      show previous.sequence.length + 1 + level.depth ≤ 1 + opened.depth
      omega
    | @opened keyboard layer deadKey layout level hlayout hlevel =>
      have hidle : (stateAfter (Engine.call layouts) .idle calls).isComposing = false := by
        simp [Engine.isComposing, hbefore]
      exact ⟨level, .now hidle hlayout hlevel h, Nat.le_refl _⟩

/-! ## Runs of key-downs -/

/-- A key-down on a keyboard, under given modifiers. -/
structure KeyDown where
  keyboard : String
  code : String
  modifiers : Modifiers
deriving DecidableEq

/-- The key-down as a call. -/
def KeyDown.call (keyDown : KeyDown) : EngineCall :=
  .keyDown keyDown.keyboard keyDown.code keyDown.modifiers

namespace Engine

/-- The engine behind key-downs. -/
def afterKeyDowns (layouts : LayoutStore) (engine : Engine) (keyDowns : List KeyDown) : Engine :=
  stateAfter (call layouts) engine (keyDowns.map KeyDown.call)

/-- How many of the key-downs are not answered with pass-through. -/
def handledCount (layouts : LayoutStore) (engine : Engine) (keyDowns : List KeyDown) : Nat :=
  (trace (call layouts) observe engine (keyDowns.map KeyDown.call)).countP fun shown =>
    shown.1 ≠ .output .passThrough

variable {engine : Engine} {composition : Composition}

theorem handledCount_cons (layouts : LayoutStore) (engine : Engine) (keyDown : KeyDown)
    (keyDowns : List KeyDown) :
    handledCount layouts engine (keyDown :: keyDowns) =
      handledCount layouts (engine.call layouts keyDown.call).2 keyDowns +
        if (engine.call layouts keyDown.call).1 = .output .passThrough then 0 else 1 := by
  rw [handledCount, List.map_cons, trace, List.countP_cons]
  by_cases hpass : (engine.call layouts keyDown.call).1 = .output .passThrough
  · simp [hpass, handledCount]
  · simp [hpass, handledCount]

theorem afterKeyDowns_cons (layouts : LayoutStore) (engine : Engine) (keyDown : KeyDown)
    (keyDowns : List KeyDown) :
    afterKeyDowns layouts engine (keyDown :: keyDowns) =
      afterKeyDowns layouts (engine.call layouts keyDown.call).2 keyDowns := rfl

theorem exists_feeds_call (h : engine.composition = some composition) (layouts : LayoutStore)
    (keyDown : KeyDown) :
    ∃ output next, engine.call layouts keyDown.call = (.output output, next) ∧
      engine.Feeds composition (output, next) :=
  ⟨_, _, rfl, feeds_keyDown h layouts keyDown.keyboard keyDown.code keyDown.modifiers⟩

/-- A composition is over once more key-downs were handled than its level is deep, and at the latest
with the first of them that is one too many. -/
theorem exists_idle_of_handled (h : engine.composition = some composition) (layouts : LayoutStore)
    {keyDowns : List KeyDown}
    (hmany : composition.level.depth < handledCount layouts engine keyDowns) :
    ∃ before after, keyDowns = before ++ after ∧
      (afterKeyDowns layouts engine before).isComposing = false ∧
      handledCount layouts engine before ≤ composition.level.depth + 1 := by
  induction keyDowns generalizing engine composition with
  | nil => simp [handledCount, trace] at hmany
  | cons keyDown keyDowns ih =>
    obtain ⟨output, next, hcall, hfeeds⟩ := exists_feeds_call h layouts keyDown
    have hbehind (before : List KeyDown) : afterKeyDowns layouts engine (keyDown :: before) =
        afterKeyDowns layouts next before := by
      rw [afterKeyDowns_cons, hcall]
    have hcount (before : List KeyDown) : handledCount layouts engine (keyDown :: before) =
        handledCount layouts next before + if output = .passThrough then 0 else 1 := by
      rw [handledCount_cons, hcall]
      simp only [Answer.output.injEq]
    rw [hcount] at hmany
    cases hfeeds with
    | ignored =>
      obtain ⟨before, after, rfl, hidle, hbound⟩ := ih h hmany
      refine ⟨keyDown :: before, after, rfl, ?_, ?_⟩
      · rw [hbehind]
        exact hidle
      · rw [hcount]
        exact hbound
    | ended houtput =>
      refine ⟨[keyDown], keyDowns, rfl, ?_, ?_⟩
      · rw [hbehind]
        rfl
      · rw [hcount, if_neg houtput]
        simp [handledCount, trace]
    | @extended value level hless =>
      have hnext : ({ engine with
          composition := some ⟨level, composition.sequence ++ [value]⟩ } : Engine).composition =
            some ⟨level, composition.sequence ++ [value]⟩ := rfl
      rw [if_neg (by simp)] at hmany
      obtain ⟨before, after, rfl, hidle, hbound⟩ :=
        ih hnext (Nat.lt_of_lt_of_le hless (Nat.le_of_lt_succ hmany))
      refine ⟨keyDown :: before, after, rfl, ?_, ?_⟩
      · rw [hbehind]
        exact hidle
      · rw [hcount, if_neg (by simp)]
        -- the key-down counts once more, and the level that it leads to is less deep
        exact Nat.succ_le_succ (Nat.le_trans hbound hless)

/-- In any state that a new engine can reach, a composition under way is never longer than the level
that its dead key opened allows for: the values typed and the depth of what is ahead are at most one
more than the depth of that level. From there on key-downs on any keyboards leave it alone, end it,
or move it on by one value to a level that is less deep, and it is over once more of them were
handled than its level is deep. -/
theorem composition_ends (layouts : LayoutStore) (calls : List EngineCall)
    {composition : Composition}
    (composing : (stateAfter (call layouts) .idle calls).composition = some composition) :
    let engine := stateAfter (call layouts) .idle calls
    (∃ opened, Opened layouts calls opened ∧
      composition.sequence.length + composition.level.depth ≤ 1 + opened.depth) ∧
    ∀ keyDowns,
      (∀ current, (afterKeyDowns layouts engine keyDowns).composition = some current →
        ∀ keyboard code modifiers, Feeds (afterKeyDowns layouts engine keyDowns) current
          (keyDown layouts (afterKeyDowns layouts engine keyDowns) keyboard code modifiers).value) ∧
      (composition.level.depth < handledCount layouts engine keyDowns →
        ∃ before after, keyDowns = before ++ after ∧
          (afterKeyDowns layouts engine before).isComposing = false ∧
          handledCount layouts engine before ≤ composition.level.depth + 1) := by
  intro engine
  refine ⟨exists_opened composing, ?_⟩
  intro keyDowns
  refine ⟨?_, exists_idle_of_handled composing layouts⟩
  intro current hcurrent keyboard code modifiers
  exact feeds_keyDown hcurrent layouts keyboard code modifiers

/-- The dead key is pressed again while it composes, and a key without a mapping comes in between. -/
theorem composition_ends_twice_dead :
    let draft := LayoutDraft.ofDeclarations [.layer "default" [("C01", "a"), ("Quote", "^")],
      .deadKeys "default" ["^"], .transform ["^", "^", "a"] "ẫ", .transform ["^", "a"] "â"]
    let calls : List EngineCall := [.handle "left" ⟨"Quote", .down, false, false, false⟩]
    let keyDowns : List KeyDown := [⟨"left", "Quote", {}⟩, ⟨"left", "F1", {}⟩, ⟨"left", "KeyA", {}⟩,
      ⟨"left", "KeyA", {}⟩]
    ∃ layout composition, draft.build.value = .ok layout ∧
      (stateAfter (call (.ofList [("left", layout)])) .idle calls).composition = some composition ∧
      composition.level.depth = 1 ∧
      (∃ opened, Opened (.ofList [("left", layout)]) calls opened ∧
        composition.sequence.length + composition.level.depth ≤ 1 + opened.depth) ∧
      ∃ before after, keyDowns = before ++ after ∧
        (afterKeyDowns (.ofList [("left", layout)])
          (stateAfter (call (.ofList [("left", layout)])) .idle calls) before).isComposing = false := by
  intro draft calls keyDowns
  obtain ⟨layout, composition, built, composing, depth, handled⟩ :
      ∃ layout composition, draft.build.value = .ok layout ∧
        (stateAfter (call (.ofList [("left", layout)])) .idle calls).composition =
          some composition ∧
        composition.level.depth = 1 ∧
        handledCount (.ofList [("left", layout)])
          (stateAfter (call (.ofList [("left", layout)])) .idle calls) keyDowns = 3 :=
    ⟨_, _, rfl, rfl, by decide +kernel, by decide +kernel⟩
  obtain ⟨bounded, ends⟩ := composition_ends (.ofList [("left", layout)]) calls composing
  obtain ⟨before, after, split, idle, _⟩ := (ends keyDowns).2 (by omega)
  exact ⟨layout, composition, built, composing, depth, bounded, before, after, split, idle⟩

end Engine

end DeadKeys
