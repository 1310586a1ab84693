import DeadKeys.Host
import DeadKeys.Proofs.Engine.Call
import Mathlib.Data.List.Induction

/-!
# Runs of a host

All that can be asked of a host, as data. What a run means for one context is told from the calls
alone, without any engine: `focusAfter` is the context that has the focus, `FocusedSinceBlur` says
whether a context is present, and `lives` are the key events that its successive engines got.
-/

namespace DeadKeys

/-- A call on a host. -/
inductive HostCall where
  | focus (context : ContextId)
  | blur (context : ContextId)
  /-- A key event, asked for the output. -/
  | dispatch (keyboard : String) (event : KeyEvent)
  /-- A key event, asked only whether the host must leave it alone. -/
  | handle (keyboard : String) (event : KeyEvent)
deriving DecidableEq

/-- What a call on a host answers. -/
inductive HostAnswer where
  | done
  | output (output : Output)
  | handled (handled : Bool)
deriving DecidableEq

namespace HostCall

/-- The key event of a call, as a call on an engine. -/
def keyEvent? : HostCall → Option EngineCall
  | .dispatch keyboard event | .handle keyboard event => some (.handle keyboard event)
  | .focus _ | .blur _ => none

/-- The focus behind a call, given the one before it. -/
def refocus (focus : Option ContextId) : HostCall → Option ContextId
  | .focus context => some context
  | .blur context => if focus = some context then none else focus
  | .dispatch .. | .handle .. => focus

theorem eq_of_keyEvent? {call : HostCall} {keyboard : String} {event : KeyEvent}
    (h : call.keyEvent? = some (.handle keyboard event)) :
    call = .dispatch keyboard event ∨ call = .handle keyboard event := by
  cases call <;> simp_all [keyEvent?]

/-- A call focuses a context, blurs one, or brings a key event and leaves the focus alone. -/
theorem cases_keyEvent? (call : HostCall) :
    (∃ context, call = .focus context) ∨ (∃ context, call = .blur context) ∨
      ∃ keyboard event, call.keyEvent? = some (.handle keyboard event) ∧
        ∀ focus, call.refocus focus = focus := by
  cases call with
  | focus context => exact .inl ⟨context, rfl⟩
  | blur context => exact .inr (.inl ⟨context, rfl⟩)
  | dispatch keyboard event | handle keyboard event =>
    exact .inr (.inr ⟨keyboard, event, rfl, fun _ => rfl⟩)

end HostCall

/-! ## What the calls say -/

/-- The context that has the focus behind a list of calls. -/
def focusAfter (calls : List HostCall) : Option ContextId := calls.foldl HostCall.refocus none

/-- Every call with the focus under which it is made. -/
def underFocus : Option ContextId → List HostCall → List (Option ContextId × HostCall)
  | _, [] => []
  | focus, call :: calls => (focus, call) :: underFocus (call.refocus focus) calls

/-- A context has been focused since its last blur. -/
def FocusedSinceBlur (context : ContextId) (calls : List HostCall) : Prop :=
  ∃ before after, calls = before ++ .focus context :: after ∧ .blur context ∉ after

/-- The key event of a call if it is made while a context has the focus. -/
def keyEventFor? (context : ContextId) (made : Option ContextId × HostCall) : Option EngineCall :=
  if made.1 = some context then made.2.keyEvent? else none

/-- Whether a call is the blur of a context. -/
def blurs (context : ContextId) (made : Option ContextId × HostCall) : Bool :=
  made.2 = .blur context

/-- The key events made while a context had the focus, one list for each engine that the context
had: every blur of the context ends a list, and the last list is that of the present engine. A
stretch without an engine leaves an empty list. -/
def lives (context : ContextId) (calls : List HostCall) : List (List EngineCall) :=
  ((underFocus none calls).splitOnP (blurs context)).map fun life =>
    life.filterMap (keyEventFor? context)

theorem focusAfter_concat (calls : List HostCall) (call : HostCall) :
    focusAfter (calls ++ [call]) = call.refocus (focusAfter calls) := by
  simp [focusAfter]

theorem underFocus_concat (focus : Option ContextId) (calls : List HostCall) (call : HostCall) :
    underFocus focus (calls ++ [call]) =
      underFocus focus calls ++ [(calls.foldl HostCall.refocus focus, call)] := by
  induction calls generalizing focus with
  | nil => rfl
  | cons first calls ih => simp [underFocus, ih]

/-- One more call makes a context present, or leaves it so unless it is a blur. -/
theorem focusedSinceBlur_concat {context : ContextId} {calls : List HostCall} {call : HostCall} :
    FocusedSinceBlur context (calls ++ [call]) ↔
      call = .focus context ∨ FocusedSinceBlur context calls ∧ call ≠ .blur context := by
  constructor
  · rintro ⟨before, after, hsplit, hblur⟩
    -- the focus is the last call itself or stands before it
    rcases List.eq_nil_or_concat after with rfl | ⟨after, last, rfl⟩
    · obtain ⟨_, hcall⟩ := List.append_inj' hsplit rfl
      exact .inl (List.cons.inj hcall).1
    · rw [List.concat_eq_append, ← List.cons_append, ← List.append_assoc] at hsplit
      obtain ⟨rfl, hcall⟩ := List.append_inj' hsplit rfl
      obtain rfl : call = last := (List.cons.inj hcall).1
      simp only [List.concat_eq_append, List.mem_append, List.mem_singleton, not_or] at hblur
      exact .inr ⟨⟨before, after, rfl, hblur.1⟩, Ne.symm hblur.2⟩
  · rintro (rfl | ⟨⟨before, after, rfl, hblur⟩, hcall⟩)
    · exact ⟨calls, [], rfl, by simp⟩
    · refine ⟨before, after ++ [call], by simp, ?_⟩
      simp only [List.mem_append, List.mem_singleton, not_or]
      exact ⟨hblur, Ne.symm hcall⟩

/-- The context that has the focus is present. -/
theorem focusedSinceBlur_of_focusAfter {context : ContextId} {calls : List HostCall}
    (h : focusAfter calls = some context) : FocusedSinceBlur context calls := by
  induction calls using List.reverseRecOn with
  | nil => simp [focusAfter] at h
  | append_singleton calls call ih =>
    rw [focusAfter_concat] at h
    rw [focusedSinceBlur_concat]
    cases call with
    | focus other => exact .inl (congrArg HostCall.focus (Option.some.inj h))
    | blur other =>
      -- a blur that leaves the focus with the context is one of another context
      by_cases hother : focusAfter calls = some other
      · simp [HostCall.refocus, hother] at h
      · have hkept : focusAfter calls = some context := by
          simpa [HostCall.refocus, hother] using h
        refine .inr ⟨ih hkept, ?_⟩
        intro heq
        exact hother (HostCall.blur.inj heq ▸ hkept)
    | dispatch keyboard event | handle keyboard event => exact .inr ⟨ih h, by simp⟩

theorem not_focusedSinceBlur_nil {context : ContextId} : ¬ FocusedSinceBlur context [] := by
  rintro ⟨before, after, hsplit, _⟩
  simp at hsplit

/-- An element that is no separator goes to the last part of a split. -/
theorem splitOnP_concat {α : Type} {p : α → Bool} {element : α} (h : p element = false)
    (list : List α) :
    ∃ parts last, list.splitOnP p = parts ++ [last] ∧
      (list ++ [element]).splitOnP p = parts ++ [last ++ [element]] := by
  induction list with
  | nil => exact ⟨[], [], by simp, by simp [List.splitOnP_cons_eq_if_modifyHead, h]⟩
  | cons head list ih =>
    obtain ⟨parts, last, hlist, hconcat⟩ := ih
    simp only [List.cons_append, List.splitOnP_cons_eq_if_modifyHead, hlist, hconcat]
    by_cases hhead : p head
    · exact ⟨[] :: parts, last, by simp [hhead], by simp [hhead]⟩
    · cases parts with
      | nil => exact ⟨[], head :: last, by simp [hhead], by simp [hhead]⟩
      | cons first parts =>
        exact ⟨(head :: first) :: parts, last, by simp [hhead], by simp [hhead]⟩

theorem lives_nil (context : ContextId) : lives context [] = [[]] := rfl

/-- A blur of the context begins a new life. -/
theorem lives_concat_blur (context : ContextId) (calls : List HostCall) :
    lives context (calls ++ [.blur context]) = lives context calls ++ [[]] := by
  have hblur : blurs context (focusAfter calls, .blur context) = true := by simp [blurs]
  rw [lives, underFocus_concat, ← focusAfter, List.splitOnP_append_cons _ _ hblur]
  simp [lives]

/-- Any other call leaves at most a key event in the present life. -/
theorem lives_concat {context : ContextId} {call : HostCall} (h : call ≠ .blur context)
    (calls : List HostCall) :
    ∃ past present, lives context calls = past ++ [present] ∧
      lives context (calls ++ [call]) =
        past ++ [present ++ (keyEventFor? context (focusAfter calls, call)).toList] := by
  have hblur : blurs context (focusAfter calls, call) = false := by simpa [blurs] using h
  obtain ⟨parts, last, hcalls, hconcat⟩ := splitOnP_concat hblur (underFocus none calls)
  refine ⟨parts.map fun life => life.filterMap (keyEventFor? context),
    last.filterMap (keyEventFor? context), ?_, ?_⟩
  · rw [lives, hcalls]
    simp
  · rw [lives, underFocus_concat, ← focusAfter, hconcat]
    cases hkey : keyEventFor? context (focusAfter calls, call) <;> simp [hkey]

/-- A context that is absent gets no key events. -/
theorem life_of_absent {context : ContextId} {calls : List HostCall}
    (h : ¬ FocusedSinceBlur context calls) : (lives context calls).getLastD [] = [] := by
  induction calls using List.reverseRecOn with
  | nil => rfl
  | append_singleton calls call ih =>
    by_cases hblur : call = .blur context
    · rw [hblur, lives_concat_blur, List.getLastD_concat]
    · obtain ⟨past, present, hlives, hconcat⟩ := lives_concat hblur calls
      have habsent : ¬ FocusedSinceBlur context calls :=
        fun hpresent => h (focusedSinceBlur_concat.mpr (.inr ⟨hpresent, hblur⟩))
      have hfocus : focusAfter calls ≠ some context :=
        fun hfocused => habsent (focusedSinceBlur_of_focusAfter hfocused)
      have hpresent : present = [] := by
        have hlife := ih habsent
        rwa [hlives, List.getLastD_concat] at hlife
      rw [hconcat, List.getLastD_concat, hpresent]
      simp [keyEventFor?, hfocus]

end DeadKeys
