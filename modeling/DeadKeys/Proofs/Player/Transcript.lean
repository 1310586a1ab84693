import DeadKeys.Player.Command
import DeadKeys.Proofs.Host.Isolation

/-!
# Transcripts

Which key-downs a script has, and which calls the host got before each of them, is told by the
script alone (`moments`). The transcript has one line for each moment (`playScript_value`), and what
is committed in the end is what these lines emit, each to the context that has the focus then
(`commits_script`): key-ups commit nothing. The layer of a line is the one in which the engine starts
to resolve the key, although the player works it out on its own (`Moment.isTold_told`).
-/

namespace DeadKeys.Player

/-- A key-down of a script: its line, the calls that the host got before it, and the event. -/
structure Moment where
  line : Nat
  before : List HostCall
  event : KeyEvent
  down : event.isDown = true
deriving DecidableEq

/-! ## What a script says -/

/-- The calls of one step. -/
def stepCalls (keyboard : String) : Script.Step → List HostCall
  | .key _ stroke => stroke.events.map (.dispatch keyboard)
  | .focus context => [.focus context]
  | .blur context => [.blur context]

/-- The moment of a key event, if it is a key-down. -/
def eventMoment? (line : Nat) (before : List HostCall) (event : KeyEvent) : Option Moment :=
  if down : event.isDown then some ⟨line, before, event, down⟩ else none

/-- The key-downs among key events, given the calls before. -/
def eventMoments (keyboard : String) (line : Nat) : List HostCall → List KeyEvent → List Moment
  | _, [] => []
  | before, event :: rest =>
    (eventMoment? line before event).toList ++
      eventMoments keyboard line (before ++ [.dispatch keyboard event]) rest

/-- The key-downs of one step, given the calls before. -/
def stepMoments (keyboard : String) (before : List HostCall) : Script.Step → List Moment
  | .key line stroke => eventMoments keyboard line before stroke.events
  | .focus _ | .blur _ => []

/-- The key-downs of steps, given the calls before. -/
def momentsBehind (keyboard : String) : List HostCall → List Script.Step → List Moment
  | _, [] => []
  | before, step :: rest =>
    stepMoments keyboard before step ++
      momentsBehind keyboard (before ++ stepCalls keyboard step) rest

/-- The call before a script: the first context gets the focus. -/
def opening : List HostCall := [.focus firstContext]

/-- The calls of a script. -/
def scriptCalls (keyboard : String) (steps : List Script.Step) : List HostCall :=
  opening ++ steps.flatMap (stepCalls keyboard)

/-- The key-downs of a script. -/
def moments (keyboard : String) (steps : List Script.Step) : List Moment :=
  momentsBehind keyboard opening steps

namespace Moment

/-- The host at a moment. -/
def host (layouts : LayoutStore) (moment : Moment) : Host := .after layouts moment.before

/-- What is told about a moment. -/
def told (layouts : LayoutStore) (keyboard : String) (moment : Moment) : KeyLine :=
  ⟨moment.line, moment.event.code,
    Layer.name (moment.event.modifiers (moment.host layouts).altRightHeld),
    ((moment.host layouts).dispatch keyboard moment.event).value.1⟩

/-- A moment with what is told about it. -/
def entry (layouts : LayoutStore) (keyboard : String) (moment : Moment) : Moment × KeyLine :=
  (moment, moment.told layouts keyboard)

end Moment

/-- What a line emits at its moment, as a commit to the context that has the focus. -/
def commitOf? (entry : Moment × KeyLine) : Option Commit :=
  Host.commitOf? (focusAfter entry.1.before, entry.2.output)

/-- The text that a line emits at its moment, if a context has the focus then. -/
def textIn? (context : ContextId) (entry : Moment × KeyLine) : Option String :=
  if focusAfter entry.1.before = some context then entry.2.output.text? else none

/-- The engine of a context starts to resolve the key of a moment in a layer: the answer and the
records are those of the engine's key-down, and the first record is that this layer is tried. -/
def Moment.StartsIn (layouts : LayoutStore) (keyboard : String) (moment : Moment)
    (context : ContextId) (layer : String) : Prop :=
  ∃ engine modifiers, (moment.host layouts).engine? context = some engine ∧
    modifiers = moment.event.modifiers engine.altRightHeld ∧ layer = Layer.name modifiers ∧
    ((moment.host layouts).dispatch keyboard moment.event).value.1 =
      (engine.keyDown layouts keyboard moment.event.code modifiers).value.1 ∧
    ((moment.host layouts).dispatch keyboard moment.event).records =
      (engine.keyDown layouts keyboard moment.event.code modifiers).records ∧
    ((moment.host layouts).dispatch keyboard moment.event).records.head? =
      some (.triedLayer keyboard moment.event.code layer)

/-- A line tells the truth about a moment. Its layer only counts if a context has the focus, and if
the key is not right Alt, which no layer ever sees. -/
structure Moment.IsTold (layouts : LayoutStore) (keyboard : String) (moment : Moment)
    (line : KeyLine) : Prop where
  line_eq : line.line = moment.line
  code_eq : line.code = moment.event.code
  output_eq : line.output = ((moment.host layouts).dispatch keyboard moment.event).value.1
  layer_starts : ∀ context, focusAfter moment.before = some context →
    moment.event.isAltRight = false → moment.StartsIn layouts keyboard context line.layer

/-! ## Playing -/

section Playing

variable {layouts : LayoutStore} {keyboard : String} {line : Nat}

theorem playEvent_value (before : List HostCall) (event : KeyEvent) :
    (playEvent keyboard line (.after layouts before) event).value =
      ((eventMoment? line before event).toList.map (Moment.told layouts keyboard),
        .after layouts (before ++ [.dispatch keyboard event])) := by
  rw [Host.after_concat, eventMoment?]
  by_cases hdown : event.isDown
  · rw [dif_pos hdown, playEvent]
    simp only [hdown, if_true]
    rfl
  · rw [dif_neg hdown, playEvent]
    simp only [hdown]
    rfl

theorem playEvents_value (before : List HostCall) (events : List KeyEvent) :
    (playEvents keyboard line (.after layouts before) events).value =
      ((eventMoments keyboard line before events).map (Moment.told layouts keyboard),
        .after layouts (before ++ events.map (.dispatch keyboard))) := by
  induction events generalizing before with
  | nil => simp [playEvents, eventMoments]
  | cons event rest ih =>
    rw [playEvents, Logged.value_bind, playEvent_value]
    dsimp only
    rw [Logged.value_bind, ih, eventMoments]
    simp

theorem playStep_value (before : List HostCall) (step : Script.Step) :
    (playStep keyboard (.after layouts before) step).value =
      ((stepMoments keyboard before step).map (Moment.told layouts keyboard),
        .after layouts (before ++ stepCalls keyboard step)) := by
  cases step with
  | key line stroke => exact playEvents_value before stroke.events
  | focus context =>
    rw [stepCalls, Host.after_concat]
    rfl
  | blur context =>
    rw [stepCalls, Host.after_concat]
    rfl

theorem playSteps_value (before : List HostCall) (steps : List Script.Step) :
    (playSteps keyboard (.after layouts before) steps).value =
      ((momentsBehind keyboard before steps).map (Moment.told layouts keyboard),
        .after layouts (before ++ steps.flatMap (stepCalls keyboard))) := by
  induction steps generalizing before with
  | nil => simp [playSteps, momentsBehind]
  | cons step rest ih =>
    rw [playSteps, Logged.value_bind, playStep_value]
    dsimp only
    rw [Logged.value_bind, ih, momentsBehind]
    simp

/-- A script is told moment by moment, and its texts are those of the host behind all its calls. -/
theorem playScript_value (layouts : LayoutStore) (keyboard : String) (steps : List Script.Step) :
    let last := Host.after layouts (scriptCalls keyboard steps)
    (playScript layouts keyboard steps).value =
      ⟨(moments keyboard steps).map (Moment.told layouts keyboard),
        last.committedContexts.map fun context => (context, last.textFor context)⟩ := by
  have hopening : ((Host.new layouts).focus firstContext).value = .after layouts opening := rfl
  rw [playScript, Logged.value_bind, hopening, Logged.value_bind, playSteps_value]
  rfl

end Playing

/-! ## What is committed -/

section Commits

variable {layouts : LayoutStore} {keyboard : String}

/-- A key-up emits nothing. -/
theorem text?_dispatch_of_up (host : Host) (keyboard : String) {event : KeyEvent}
    (h : event.isDown = false) :
    (host.dispatch keyboard event).value.1.text? = none := by
  cases hfocused : host.focused with
  | none =>
    rw [Host.dispatch_of_unfocused hfocused]
    rfl
  | some context =>
    cases hengine : host.engine? context with
    | none =>
      rw [Host.dispatch_of_absent hfocused hengine]
      rfl
    | some engine =>
      rw [Host.dispatch_of_focused hfocused hengine, Engine.handle_value]
      by_cases halt : event.isAltRight <;> simp [halt, h, Output.text?]

theorem commitOf?_of_text? {output : Output} (h : output.text? = none)
    (focus : Option ContextId) : Host.commitOf? (focus, output) = none := by
  cases focus with
  | none => rfl
  | some context =>
    cases output with
    | emit text => cases h
    | suppress | passThrough => rfl

/-- A key event commits what is told about it if it is a key-down, and nothing otherwise. -/
theorem commits_event (before : List HostCall) (line : Nat) (event : KeyEvent) :
    (Host.after layouts (before ++ [.dispatch keyboard event])).commits =
      (Host.after layouts before).commits ++
        (eventMoment? line before event).toList.filterMap
          (commitOf? ∘ Moment.entry layouts keyboard) := by
  rw [Host.after_concat, Host.commits_call, Host.output?, Host.focused_after, eventMoment?]
  by_cases hdown : event.isDown
  · rw [dif_pos hdown]
    rfl
  · have htext := text?_dispatch_of_up (Host.after layouts before) keyboard
      (Bool.not_eq_true _ ▸ hdown)
    simp [hdown, commitOf?_of_text? htext]

theorem commits_events (before : List HostCall) (line : Nat) (events : List KeyEvent) :
    (Host.after layouts (before ++ events.map (.dispatch keyboard))).commits =
      (Host.after layouts before).commits ++
        (eventMoments keyboard line before events).filterMap
          (commitOf? ∘ Moment.entry layouts keyboard) := by
  induction events generalizing before with
  | nil => simp [eventMoments]
  | cons event rest ih =>
    rw [List.map_cons, List.append_cons, ih, commits_event before line event, eventMoments,
      List.filterMap_append, List.append_assoc]

theorem commits_step (before : List HostCall) (step : Script.Step) :
    (Host.after layouts (before ++ stepCalls keyboard step)).commits =
      (Host.after layouts before).commits ++
        (stepMoments keyboard before step).filterMap
          (commitOf? ∘ Moment.entry layouts keyboard) := by
  cases step with
  | key line stroke => exact commits_events before line stroke.events
  | focus context | blur context =>
    rw [stepCalls, Host.after_concat, Host.commits_call]
    rfl

theorem commits_steps (before : List HostCall) (steps : List Script.Step) :
    (Host.after layouts (before ++ steps.flatMap (stepCalls keyboard))).commits =
      (Host.after layouts before).commits ++
        (momentsBehind keyboard before steps).filterMap
          (commitOf? ∘ Moment.entry layouts keyboard) := by
  induction steps generalizing before with
  | nil => simp [momentsBehind]
  | cons step rest ih =>
    rw [List.flatMap_cons, ← List.append_assoc, ih, commits_step, momentsBehind,
      List.filterMap_append, List.append_assoc]

/-- Behind a script is committed just what is told to be emitted, to the context that had the focus
each time. -/
theorem commits_script (layouts : LayoutStore) (keyboard : String) (steps : List Script.Step) :
    (Host.after layouts (scriptCalls keyboard steps)).commits =
      ((moments keyboard steps).map (Moment.entry layouts keyboard)).filterMap commitOf? := by
  rw [List.filterMap_map]
  exact commits_steps opening steps

/-- The texts of a context among commits that were told are the texts told while it had the
focus. -/
theorem texts_filterMap_commitOf? (context : ContextId) (told : List (Moment × KeyLine)) :
    ((told.filterMap commitOf?).filter fun commit => commit.context = context).map (·.text) =
      told.filterMap (textIn? context) := by
  rw [List.filter_filterMap, List.map_filterMap]
  congr 1
  funext entry
  rw [commitOf?, textIn?]
  cases focusAfter entry.1.before with
  | none => simp [Host.commitOf?]
  | some focus =>
    cases entry.2.output with
    | emit text => by_cases hfocus : focus = context <;> simp [Host.commitOf?, Output.text?, hfocus]
    | suppress | passThrough => simp [Host.commitOf?, Output.text?]

/-- A context has commits that were told exactly if a text was told while it had the focus. -/
theorem mem_contexts_iff {context : ContextId} {told : List (Moment × KeyLine)} :
    context ∈ (told.filterMap commitOf?).map (·.context) ↔ told.filterMap (textIn? context) ≠ [] := by
  rw [← texts_filterMap_commitOf?, ne_eq, List.map_eq_nil_iff, List.filter_eq_nil_iff, List.mem_map]
  constructor
  · rintro ⟨commit, hcommit, rfl⟩ hnone
    exact hnone commit hcommit (decide_eq_true rfl)
  · intro hsome
    refine Classical.byContradiction fun habsent => hsome ?_
    intro commit hcommit heq
    exact habsent ⟨commit, hcommit, of_decide_eq_true heq⟩

end Commits

/-- The texts of a host whose commits were told: there is one for each context for which a text was
told while it had the focus, and it consists of these. -/
theorem mem_texts_iff {host : Host} {told : List (Moment × KeyLine)}
    (hcommits : host.commits = told.filterMap commitOf?) {context : ContextId} {text : String} :
    (context, text) ∈ host.committedContexts.map (fun context => (context, host.textFor context)) ↔
      told.filterMap (textIn? context) ≠ [] ∧
        text = String.join (told.filterMap (textIn? context)) := by
  have htext : host.textFor context = String.join (told.filterMap (textIn? context)) := by
    rw [Host.textFor, hcommits, texts_filterMap_commitOf?]
  have hcontext : context ∈ host.committedContexts ↔ told.filterMap (textIn? context) ≠ [] := by
    rw [Host.committedContexts, SortedSet.mem_toList_ofList, hcommits, mem_contexts_iff]
  rw [← hcontext, ← htext]
  simp only [List.mem_map, Prod.mk.injEq]
  constructor
  · rintro ⟨_, hmem, rfl, rfl⟩
    exact ⟨hmem, rfl⟩
  · rintro ⟨hmem, rfl⟩
    exact ⟨context, hmem, rfl, rfl⟩

/-! ## The layer of a line -/

section Layers

variable {layouts : LayoutStore} {keyboard : String}

/-- On a known keyboard the first record of a key-down is the layer that it starts in. -/
theorem head?_records_keyDown {layout : Layout} (known : layouts.get? keyboard = some layout)
    (engine : Engine) (code : String) (modifiers : Modifiers) :
    (engine.keyDown layouts keyboard code modifiers).records.head? =
      some (.triedLayer keyboard code (Layer.name modifiers)) := by
  obtain ⟨rest, hchain⟩ :=
    List.head?_eq_some_iff.mp (Layer.head?_fallbackChain (Layer.name modifiers))
  rw [Engine.keyDown, known]
  dsimp only
  rw [hchain]
  rfl

/-- Any other key-down than that of right Alt is answered by the engine alone. -/
theorem dispatch_of_down (keyboard : String) {host : Host} {context : ContextId} {engine : Engine}
    {event : KeyEvent} (hfocused : host.focused = some context)
    (hengine : host.engine? context = some engine) (hdown : event.isDown = true)
    (hother : event.isAltRight = false) :
    (host.dispatch keyboard event).value.1 =
        (engine.keyDown host.layouts keyboard event.code
          (event.modifiers engine.altRightHeld)).value.1 ∧
      (host.dispatch keyboard event).records =
        (engine.keyDown host.layouts keyboard event.code
          (event.modifiers engine.altRightHeld)).records := by
  have hhandle : engine.handle host.layouts keyboard event =
      engine.keyDown host.layouts keyboard event.code (event.modifiers engine.altRightHeld) := by
    simp [Engine.handle, Engine.trackAltRight, hdown, hother]
  rw [Host.dispatch, hfocused]
  dsimp only
  rw [hengine]
  dsimp only
  rw [hhandle]
  exact ⟨rfl, List.append_nil _⟩

/-- Every key-down is told as it is. -/
theorem Moment.isTold_told {layout : Layout} (known : layouts.get? keyboard = some layout)
    (moment : Moment) : moment.IsTold layouts keyboard (moment.told layouts keyboard) := by
  refine ⟨rfl, rfl, rfl, ?_⟩
  intro context hfocus hother
  have hpresent := focusedSinceBlur_of_focusAfter hfocus
  have hfocused : (moment.host layouts).focused = some context :=
    (Host.focused_after layouts moment.before).trans hfocus
  have hlayouts : (moment.host layouts).layouts = layouts := Host.layouts_after layouts moment.before
  obtain ⟨engine, hengine⟩ : ∃ engine, (moment.host layouts).engine? context = some engine :=
    ⟨_, (Host.serves_after layouts context moment.before).engine_of_present hpresent⟩
  have halt : (moment.host layouts).altRightHeld = engine.altRightHeld := by
    rw [Host.altRightHeld, hfocused, Option.bind_some, hengine]
  obtain ⟨hvalue, hrecords⟩ := dispatch_of_down keyboard hfocused hengine moment.down hother
  rw [hlayouts] at hvalue hrecords
  refine ⟨engine, _, hengine, rfl, ?_, hvalue, hrecords, ?_⟩
  · rw [Moment.told, halt]
  · rw [hrecords, head?_records_keyDown known, Moment.told, halt]

end Layers

end DeadKeys.Player
