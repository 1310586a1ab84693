import DeadKeys.Layout.Draft
import DeadKeys.Proofs.Host.Run

/-!
# Isolation of contexts

A host runs one engine for each context that is present, and no key event reaches any engine but
that of the focused context. So what a context shows is what a new engine shows that got the key
events of the context's present life and nothing else, and what was committed to a context is what
its engines emitted, one life after the other (`Host.serves_after`).
-/

namespace DeadKeys.Host

/-! ## Calls -/

/-- Answers a call, and gives the host behind it. -/
def call (host : Host) : HostCall → HostAnswer × Host
  | .focus context => (.done, (host.focus context).value)
  | .blur context => (.done, (host.blur context).value)
  | .dispatch keyboard event =>
    let result := (host.dispatch keyboard event).value
    (.output result.1, result.2)
  | .handle keyboard event =>
    let result := (host.handle keyboard event).value
    (.handled result.1, result.2)

/-- The host behind a list of calls. -/
def run (host : Host) (calls : List HostCall) : Host :=
  calls.foldl (fun host call => (host.call call).2) host

/-- A new host behind a list of calls. -/
def after (layouts : LayoutStore) (calls : List HostCall) : Host := (new layouts).run calls

/-- The output to the key event of a call, with the context that has the focus. -/
def output? (host : Host) : HostCall → Option (Option ContextId × Output)
  | .dispatch keyboard event | .handle keyboard event =>
    some (host.focused, (host.dispatch keyboard event).value.1)
  | .focus _ | .blur _ => none

/-- The outputs to the key events of a run, each with the context that had the focus then. -/
def outputs : Host → List HostCall → List (Option ContextId × Output)
  | _, [] => []
  | host, call :: calls => (host.output? call).toList ++ outputs (host.call call).2 calls

/-- What an output commits to the context that had the focus. -/
def commitOf? : Option ContextId × Output → Option Commit
  | (some context, .emit text) => some ⟨context, text⟩
  | _ => none

/-- The texts committed to a context, oldest first. -/
def texts (host : Host) (context : ContextId) : List String :=
  (host.commits.filter fun commit => commit.context = context).map (·.text)

theorem after_concat (layouts : LayoutStore) (calls : List HostCall) (call : HostCall) :
    after layouts (calls ++ [call]) = ((after layouts calls).call call).2 := by
  simp [after, run]

theorem texts_eq_of_commits_eq {host other : Host} (h : host.commits = other.commits)
    (context : ContextId) : host.texts context = other.texts context := by
  rw [texts, texts, h]

/-! ## One call -/

section Call

variable {host : Host} {context : ContextId} {engine : Engine}

/-- Both kinds of key event do the same to the host. -/
theorem call_of_keyEvent? {call : HostCall} {keyboard : String} {event : KeyEvent}
    (h : call.keyEvent? = some (.handle keyboard event)) :
    (host.call call).2 = (host.dispatch keyboard event).value.2 := by
  rcases HostCall.eq_of_keyEvent? h with rfl | rfl <;> rfl

theorem output?_of_keyEvent? {call : HostCall} {keyboard : String} {event : KeyEvent}
    (h : call.keyEvent? = some (.handle keyboard event)) :
    host.output? call = some (host.focused, (host.dispatch keyboard event).value.1) := by
  rcases HostCall.eq_of_keyEvent? h with rfl | rfl <;> rfl

/-- With nothing focused a key event passes through and leaves no trace. -/
theorem dispatch_of_unfocused (h : host.focused = none) (keyboard : String) (event : KeyEvent) :
    (host.dispatch keyboard event).value = (.passThrough, host) := by
  rw [dispatch, h]
  rfl

/-- A key event is answered by the engine of the focused context. -/
theorem dispatch_of_focused (hfocused : host.focused = some context)
    (hengine : host.engine? context = some engine) (keyboard : String) (event : KeyEvent) :
    (host.dispatch keyboard event).value =
      ((engine.handle host.layouts keyboard event).value.1,
        { host with
          engines := host.engines.insert context (engine.handle host.layouts keyboard event).value.2
          commits := host.commits ++
            commitsOf context (engine.handle host.layouts keyboard event).value.1 }) := by
  rw [dispatch, hfocused]
  dsimp only
  rw [hengine]
  rfl

theorem dispatch_of_absent (hfocused : host.focused = some context)
    (hengine : host.engine? context = none) (keyboard : String) (event : KeyEvent) :
    (host.dispatch keyboard event).value = (.passThrough, host) := by
  rw [dispatch, hfocused]
  dsimp only
  rw [hengine]
  rfl

/-- A key event changes at most the engine of the focused context and the commits to it. -/
theorem dispatch_frame (host : Host) (keyboard : String) (event : KeyEvent) :
    (host.dispatch keyboard event).value.2.layouts = host.layouts ∧
      (host.dispatch keyboard event).value.2.focused = host.focused ∧
      ∀ other, host.focused ≠ some other →
        (host.dispatch keyboard event).value.2.engine? other = host.engine? other ∧
          (host.dispatch keyboard event).value.2.texts other = host.texts other := by
  cases hfocused : host.focused with
  | none =>
    rw [dispatch_of_unfocused hfocused]
    exact ⟨rfl, hfocused, fun _ _ => ⟨rfl, rfl⟩⟩
  | some context =>
    cases hengine : host.engine? context with
    | none =>
      rw [dispatch_of_absent hfocused hengine]
      exact ⟨rfl, hfocused, fun _ _ => ⟨rfl, rfl⟩⟩
    | some engine =>
      rw [dispatch_of_focused hfocused hengine]
      refine ⟨rfl, hfocused, ?_⟩
      intro other hother
      have hne : context ≠ other := fun heq => hother (congrArg some heq)
      constructor
      · rw [engine?, SortedMap.get?_insert, if_neg (Ne.symm hne)]
        rfl
      · cases (engine.handle host.layouts keyboard event).value.1 <;>
          simp [texts, commitsOf, hne]

/-- What the focused context shows behind a key event. -/
theorem dispatch_focused (hfocused : host.focused = some context)
    (hengine : host.engine? context = some engine) (keyboard : String) (event : KeyEvent) :
    (host.dispatch keyboard event).value.2.engine? context =
        some (engine.call host.layouts (.handle keyboard event)).2 ∧
      (host.dispatch keyboard event).value.2.texts context =
        host.texts context ++
          (engine.call host.layouts (.handle keyboard event)).1.text?.toList := by
  rw [dispatch_of_focused hfocused hengine]
  constructor
  · rw [engine?, SortedMap.get?_insert, if_pos rfl]
    rfl
  · rw [Engine.call, Answer.text?]
    cases (engine.handle host.layouts keyboard event).value.1 <;>
      simp [texts, commitsOf, Output.text?]

/-- Focusing a context gives it a new engine only if it has none. -/
theorem engine?_focus (host : Host) (context other : ContextId) :
    (host.focus context).value.engine? other =
      if other = context then some ((host.engine? context).getD Engine.idle)
      else host.engine? other := by
  rw [focus]
  cases hengine : host.engine? context with
  | some engine =>
    by_cases hother : other = context
    · rw [if_pos hother, hother]
      exact hengine
    · rw [if_neg hother]
      rfl
  | none =>
    simp only [Logged.value_bind, Logged.value_pure, Option.getD_none]
    exact SortedMap.get?_insert ..

theorem focus_frame (host : Host) (context : ContextId) :
    (host.focus context).value.layouts = host.layouts ∧
      (host.focus context).value.focused = some context ∧
      (host.focus context).value.commits = host.commits := by
  rw [focus]
  cases host.engine? context <;> exact ⟨rfl, rfl, rfl⟩

/-- A blur drops the engine of the context and no other. -/
theorem engine?_blur (host : Host) (context other : ContextId) :
    (host.blur context).value.engine? other =
      if other = context then none else host.engine? other :=
  SortedMap.get?_erase ..

end Call

/-! ## Runs -/

theorem layouts_after (layouts : LayoutStore) (calls : List HostCall) :
    (after layouts calls).layouts = layouts := by
  induction calls using List.reverseRecOn with
  | nil => rfl
  | append_singleton calls call ih =>
    rw [after_concat]
    rcases call.cases_keyEvent? with ⟨context, rfl⟩ | ⟨context, rfl⟩ | ⟨keyboard, event, hkey, _⟩
    · exact (focus_frame _ context).1.trans ih
    · exact ih
    · rw [call_of_keyEvent? hkey]
      exact (dispatch_frame _ keyboard event).1.trans ih

/-- The focus is where the calls put it. -/
theorem focused_after (layouts : LayoutStore) (calls : List HostCall) :
    (after layouts calls).focused = focusAfter calls := by
  induction calls using List.reverseRecOn with
  | nil => rfl
  | append_singleton calls call ih =>
    rw [after_concat, focusAfter_concat, ← ih]
    rcases call.cases_keyEvent? with ⟨context, rfl⟩ | ⟨context, rfl⟩ | ⟨keyboard, event, hkey, hstay⟩
    · exact (focus_frame _ context).2.1
    · rfl
    · rw [call_of_keyEvent? hkey, hstay]
      exact (dispatch_frame _ keyboard event).2.1

/-! ## One context

What the host shows of one context is told by the lives of the context. The invariant is kept by
every call: by those about the context itself, by the key events that it gets, and by all others,
which do not reach it. -/

/-- A host shows of a context what its calls say: an engine only if the context is present, which
then is a new engine that got the key events of the present life, and the texts that the engines of
all lives emitted. -/
structure Serves (host : Host) (context : ContextId) (calls : List HostCall) : Prop where
  engine_of_present : FocusedSinceBlur context calls → host.engine? context =
    some (stateAfter (Engine.call host.layouts) .idle ((lives context calls).getLastD []))
  engine_of_absent : ¬ FocusedSinceBlur context calls → host.engine? context = none
  texts_eq : host.texts context = (lives context calls).flatMap (Engine.emitted host.layouts)

namespace Serves

variable {host : Host} {context : ContextId} {calls : List HostCall}

theorem new (layouts : LayoutStore) (context : ContextId) : Serves (new layouts) context [] where
  engine_of_present := fun h => absurd h not_focusedSinceBlur_nil
  engine_of_absent := fun _ => rfl
  texts_eq := by simp [lives_nil, texts, Host.new, Engine.emitted, trace]

/-- Focusing a context keeps the engine that it has. A new engine is idle, as one that got no key
events. -/
theorem focus (h : host.Serves context calls) :
    (host.focus context).value.Serves context (calls ++ [.focus context]) := by
  obtain ⟨hlayouts, _, hcommits⟩ := focus_frame host context
  have hcall : HostCall.focus context ≠ .blur context := by simp
  obtain ⟨past, present, hlives, hconcat⟩ := lives_concat hcall calls
  have hsame : lives context (calls ++ [.focus context]) = lives context calls := by
    rw [hconcat, hlives]
    simp [keyEventFor?, HostCall.keyEvent?]
  refine ⟨?_, ?_, ?_⟩
  · intro _
    rw [engine?_focus, if_pos rfl, hlayouts, hsame]
    by_cases hpresent : FocusedSinceBlur context calls
    · rw [h.engine_of_present hpresent, Option.getD_some]
    · rw [h.engine_of_absent hpresent, life_of_absent hpresent]
      rfl
  · intro habsent
    exact absurd (focusedSinceBlur_concat.mpr (.inl rfl)) habsent
  · rw [texts_eq_of_commits_eq hcommits, hlayouts, hsame, h.texts_eq]

/-- A blur ends the life of a context, and nothing of it is lost. -/
theorem blur (h : host.Serves context calls) :
    (host.blur context).value.Serves context (calls ++ [.blur context]) := by
  refine ⟨?_, ?_, ?_⟩
  · intro hpresent
    rcases focusedSinceBlur_concat.mp hpresent with heq | ⟨_, hne⟩
    · cases heq
    · exact absurd rfl hne
  · intro _
    rw [engine?_blur, if_pos rfl]
  · have hemitted : Engine.emitted host.layouts [] = [] := rfl
    rw [lives_concat_blur, List.flatMap_append, List.flatMap_singleton]
    show host.texts context =
      (lives context calls).flatMap (Engine.emitted host.layouts) ++ Engine.emitted host.layouts []
    rw [hemitted, List.append_nil, h.texts_eq]

/-- A key event for the focused context goes to its engine, and what the engine emits is committed.
-/
theorem keyEvent (h : host.Serves context calls) (hfocus : focusAfter calls = some context)
    (hfocused : host.focused = some context) {call : HostCall} {keyboard : String}
    {event : KeyEvent} (hkey : call.keyEvent? = some (.handle keyboard event)) :
    (host.call call).2.Serves context (calls ++ [call]) := by
  have hcall : call ≠ .blur context := by
    rintro rfl
    cases hkey
  have hpresent : FocusedSinceBlur context calls := focusedSinceBlur_of_focusAfter hfocus
  obtain ⟨past, present, hlives, hconcat⟩ := lives_concat hcall calls
  have hlife : keyEventFor? context (focusAfter calls, call) = some (.handle keyboard event) := by
    rw [keyEventFor?, if_pos hfocus, hkey]
  have hengine := h.engine_of_present hpresent
  rw [hlives, List.getLastD_concat] at hengine
  obtain ⟨hlayouts, _⟩ := dispatch_frame host keyboard event
  obtain ⟨hnext, htexts⟩ := dispatch_focused hfocused hengine keyboard event
  rw [call_of_keyEvent? hkey]
  refine ⟨?_, ?_, ?_⟩
  · intro _
    rw [hnext, hlayouts, hconcat, hlife, List.getLastD_concat, Option.toList_some,
      stateAfter_concat]
  · intro habsent
    exact absurd (focusedSinceBlur_concat.mpr (.inr ⟨hpresent, hcall⟩)) habsent
  · -- only the present life grows, by what its engine emits at the key event
    rw [htexts, hlayouts, h.texts_eq, hlives, hconcat, hlife, Option.toList_some]
    simp [Engine.emitted_concat]

/-- Any other call leaves a context alone. -/
theorem frame (h : host.Serves context calls) {call : HostCall} (hfocus : call ≠ .focus context)
    (hblur : call ≠ .blur context) (hkey : keyEventFor? context (focusAfter calls, call) = none)
    (hlayouts : (host.call call).2.layouts = host.layouts)
    (hengine : (host.call call).2.engine? context = host.engine? context)
    (htexts : (host.call call).2.texts context = host.texts context) :
    (host.call call).2.Serves context (calls ++ [call]) := by
  obtain ⟨past, present, hlives, hconcat⟩ := lives_concat hblur calls
  have hsame : lives context (calls ++ [call]) = lives context calls := by
    rw [hconcat, hlives, hkey, Option.toList_none, List.append_nil]
  have hpresent : FocusedSinceBlur context (calls ++ [call]) ↔ FocusedSinceBlur context calls := by
    rw [focusedSinceBlur_concat]
    simp [hfocus, hblur]
  refine ⟨?_, ?_, ?_⟩
  · intro h'
    rw [hengine, hlayouts, hsame]
    exact h.engine_of_present (hpresent.mp h')
  · intro h'
    rw [hengine]
    exact h.engine_of_absent (fun h'' => h' (hpresent.mpr h''))
  · rw [htexts, hlayouts, hsame, h.texts_eq]

end Serves

/-- Every context is served throughout every run. -/
theorem serves_after (layouts : LayoutStore) (context : ContextId) (calls : List HostCall) :
    (after layouts calls).Serves context calls := by
  induction calls using List.reverseRecOn with
  | nil => exact .new layouts context
  | append_singleton calls call ih =>
    have hfocused := focused_after layouts calls
    rw [after_concat]
    rcases call.cases_keyEvent? with ⟨other, rfl⟩ | ⟨other, rfl⟩ | ⟨keyboard, event, hkey, _⟩
    · by_cases hother : other = context
      · rw [hother]
        exact ih.focus
      · obtain ⟨hlayouts, _, hcommits⟩ := focus_frame (after layouts calls) other
        refine ih.frame (by simpa using hother) (by simp) ?_ hlayouts ?_
          (texts_eq_of_commits_eq hcommits context)
        · simp [keyEventFor?, HostCall.keyEvent?]
        · exact (engine?_focus _ other context).trans (if_neg (Ne.symm hother))
    · by_cases hother : other = context
      · rw [hother]
        exact ih.blur
      · refine ih.frame (by simp) (by simpa using hother) ?_ rfl ?_ rfl
        · simp [keyEventFor?, HostCall.keyEvent?]
        · exact (engine?_blur _ other context).trans (if_neg (Ne.symm hother))
    · by_cases hfocus : focusAfter calls = some context
      · exact ih.keyEvent hfocus (hfocused.trans hfocus) hkey
      · obtain ⟨hlayouts, _, hframe⟩ := dispatch_frame (after layouts calls) keyboard event
        obtain ⟨hengine, htexts⟩ := hframe context (by rw [hfocused]; exact hfocus)
        have hcall : ((after layouts calls).call call).2 =
            ((after layouts calls).dispatch keyboard event).value.2 := call_of_keyEvent? hkey
        refine ih.frame ?_ ?_ (by simp [keyEventFor?, hfocus]) ?_ ?_ ?_
        · rintro rfl
          cases hkey
        · rintro rfl
          cases hkey
        · rw [hcall, hlayouts]
        · rw [hcall, hengine]
        · rw [hcall, htexts]

/-! ## The commit log -/

/-- One call commits what its output emits to the context that has the focus. -/
theorem commits_call (host : Host) (call : HostCall) :
    (host.call call).2.commits = host.commits ++ (host.output? call).toList.filterMap commitOf? := by
  rcases call.cases_keyEvent? with ⟨context, rfl⟩ | ⟨context, rfl⟩ | ⟨keyboard, event, hkey, _⟩
  · have hcommits := (focus_frame host context).2.2
    simpa [call, output?] using hcommits
  · simp [call, output?, Host.blur]
  · rw [call_of_keyEvent? hkey, output?_of_keyEvent? hkey]
    cases hfocused : host.focused with
    | none =>
      rw [dispatch_of_unfocused hfocused]
      simp [commitOf?]
    | some context =>
      cases hengine : host.engine? context with
      | none =>
        rw [dispatch_of_absent hfocused hengine]
        simp [commitOf?]
      | some engine =>
        rw [dispatch_of_focused hfocused hengine]
        cases (engine.handle host.layouts keyboard event).value.1 <;> simp [commitsOf, commitOf?]

/-- The commit log of a run is the outputs that emit, in order. -/
theorem commits_run (host : Host) (calls : List HostCall) :
    (host.run calls).commits = host.commits ++ (host.outputs calls).filterMap commitOf? := by
  induction calls generalizing host with
  | nil => simp [run, outputs]
  | cons call calls ih =>
    show ((host.call call).2.run calls).commits = _
    rw [ih, commits_call, outputs, List.filterMap_append, List.append_assoc]

/-! ## All contexts -/

/-- Behind every run of a new host, the focused context has an engine, and a context has one exactly
if it was focused since its last blur. The engine is in the state of a new one that got just the key
events made while the context had the focus since then, and it is what answers the next key event.
With nothing focused a key event passes through. The commit log is the outputs that emit, each with
the context that had the focus, and the text of a context is what its engines emitted one after the
other. -/
theorem contexts_isolated (layouts : LayoutStore) (calls : List HostCall) :
    let host := after layouts calls
    host.focused = focusAfter calls ∧
    (∀ context, host.focused = some context → ∃ engine, host.engine? context = some engine) ∧
    (∀ context, (∃ engine, host.engine? context = some engine) ↔
      FocusedSinceBlur context calls) ∧
    (∀ context engine, host.engine? context = some engine →
      engine = stateAfter (Engine.call layouts) .idle ((lives context calls).getLastD [])) ∧
    (∀ context engine, host.focused = some context → host.engine? context = some engine →
      ∀ keyboard event, (host.dispatch keyboard event).value.1 =
        (engine.handle layouts keyboard event).value.1) ∧
    (host.focused = none → ∀ keyboard event,
      (host.dispatch keyboard event).value.1 = .passThrough) ∧
    (∀ keyboard event, (host.handle keyboard event).value =
      ((host.dispatch keyboard event).value.1.isHandled,
        (host.dispatch keyboard event).value.2)) ∧
    host.commits = ((new layouts).outputs calls).filterMap commitOf? ∧
    ∀ context, host.textFor context =
      String.join ((lives context calls).flatMap (Engine.emitted layouts)) := by
  intro host
  have hlayouts : host.layouts = layouts := layouts_after layouts calls
  have hfocused : host.focused = focusAfter calls := focused_after layouts calls
  have hserves : ∀ context, host.Serves context calls := fun context =>
    serves_after layouts context calls
  have hpresent : ∀ context, (∃ engine, host.engine? context = some engine) ↔
      FocusedSinceBlur context calls := by
    intro context
    constructor
    · rintro ⟨engine, hengine⟩
      by_contra habsent
      rw [(hserves context).engine_of_absent habsent] at hengine
      cases hengine
    · intro hpresent
      exact ⟨_, (hserves context).engine_of_present hpresent⟩
  refine ⟨hfocused, ?_, hpresent, ?_, ?_, ?_, ?_, ?_, ?_⟩
  · intro context h
    exact (hpresent context).mpr (focusedSinceBlur_of_focusAfter (hfocused ▸ h))
  · intro context engine hengine
    have hstate := (hserves context).engine_of_present ((hpresent context).mp ⟨engine, hengine⟩)
    rw [hengine, hlayouts] at hstate
    exact Option.some.inj hstate
  · intro context engine h hengine keyboard event
    rw [dispatch_of_focused h hengine, hlayouts]
  · intro h keyboard event
    rw [dispatch_of_unfocused h]
  · intro keyboard event
    rfl
  · have hcommits := commits_run (new layouts) calls
    rwa [show (new layouts).commits = [] from rfl, List.nil_append] at hcommits
  · intro context
    have htexts := (hserves context).texts_eq
    rw [hlayouts] at htexts
    exact congrArg String.join htexts

/-- A composition goes on when its context has the focus again; another context was typed in, and
left, in between, and a key event was lost with nothing focused. -/
theorem contexts_isolated_interrupted :
    let draft := LayoutDraft.ofDeclarations [.layer "default" [("C01", "a"), ("Quote", "^")],
      .deadKeys "default" ["^"], .transform ["^", "a"] "â"]
    let deadKey : KeyEvent := ⟨"Quote", .down, false, false, false⟩
    let letter : KeyEvent := ⟨"KeyA", .down, false, false, false⟩
    let calls : List HostCall := [.focus ⟨1⟩, .dispatch "us" deadKey, .focus ⟨2⟩,
      .handle "us" letter, .blur ⟨2⟩, .dispatch "us" letter, .focus ⟨1⟩]
    ∃ layout, draft.build.value = .ok layout ∧
      let host := after (.ofList [("us", layout)]) calls
      host.focused = some ⟨1⟩ ∧ (host.dispatch "us" letter).value.1 = .emit "â" ∧
        host.textFor ⟨2⟩ = "a" := by
  intro draft deadKey letter calls
  obtain ⟨layout, built, emits, typed⟩ : ∃ layout, draft.build.value = .ok layout ∧
      ((stateAfter (Engine.call (.ofList [("us", layout)])) .idle [.handle "us" deadKey]).handle
        (.ofList [("us", layout)]) "us" letter).value.1 = .emit "â" ∧
      String.join ((lives ⟨2⟩ calls).flatMap (Engine.emitted (.ofList [("us", layout)]))) = "a" :=
    ⟨_, rfl, by decide +kernel, by decide +kernel⟩
  obtain ⟨focus, present, _, state, answer, _, _, _, text⟩ :=
    contexts_isolated (.ofList [("us", layout)]) calls
  obtain ⟨engine, found⟩ := present ⟨1⟩ focus
  refine ⟨layout, built, focus, ?_, (text ⟨2⟩).trans typed⟩
  rw [answer ⟨1⟩ engine focus found "us" letter, state ⟨1⟩ engine found]
  exact emits

end DeadKeys.Host
