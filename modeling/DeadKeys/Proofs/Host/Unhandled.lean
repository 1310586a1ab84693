import DeadKeys.Proofs.Engine.Resolution
import DeadKeys.Proofs.Host.Isolation

/-!
# Key events that pass through

A key event that passes through leaves the host as it was, unless it is the key-up of right Alt
(`Host.call_of_unhandled`). So any of these events can be left out of a run: the other calls are
answered the same, and the host behind each of them is the same (`Host.unhandled_leave_no_trace`).
-/

namespace DeadKeys

/-- A key event that passes through leaves the engine alone. Only the key-up of right Alt passes
through and is tracked. -/
theorem Engine.handle_of_passThrough {layouts : LayoutStore} {engine : Engine} {keyboard : String}
    {event : KeyEvent} (h : (engine.handle layouts keyboard event).value.1 = .passThrough)
    (hevent : ¬ (event.isAltRight = true ∧ event.direction = .up)) :
    (engine.handle layouts keyboard event).value.2 = engine := by
  rw [handle_value] at h ⊢
  by_cases halt : event.isAltRight
  · cases hdirection : event.direction with
    | down => simp [halt, KeyEvent.isDown, hdirection] at h
    | up => exact absurd ⟨halt, hdirection⟩ hevent
  · rw [if_neg halt] at h ⊢
    by_cases hdown : event.isDown
    · rw [if_pos hdown] at h ⊢
      exact keyDown_of_passThrough h
    · rw [if_neg hdown]

namespace Host

/-! ## One event -/

/-- A call is a key event that passes through, and is not the key-up of right Alt. -/
def Unhandled (host : Host) : HostCall → Prop
  | .dispatch keyboard event | .handle keyboard event =>
    (host.dispatch keyboard event).value.1 = .passThrough ∧
      ¬ (event.isAltRight = true ∧ event.direction = .up)
  | .focus _ | .blur _ => False

instance (host : Host) : (call : HostCall) → Decidable (host.Unhandled call)
  | .dispatch keyboard event | .handle keyboard event =>
    inferInstanceAs (Decidable ((host.dispatch keyboard event).value.1 = .passThrough ∧
      ¬ (event.isAltRight = true ∧ event.direction = .up)))
  | .focus _ | .blur _ => inferInstanceAs (Decidable False)

theorem dispatch_of_passThrough {host : Host} {keyboard : String} {event : KeyEvent}
    (h : (host.dispatch keyboard event).value.1 = .passThrough)
    (hevent : ¬ (event.isAltRight = true ∧ event.direction = .up)) :
    (host.dispatch keyboard event).value.2 = host := by
  cases hfocused : host.focused with
  | none => rw [dispatch_of_unfocused hfocused]
  | some context =>
    cases hengine : host.engine? context with
    | none => rw [dispatch_of_absent hfocused hengine]
    | some engine =>
      rw [dispatch_of_focused hfocused hengine] at h ⊢
      have hkept := Engine.handle_of_passThrough h hevent
      have hsame : host.engines.insert context engine = host.engines :=
        SortedMap.insert_eq_self hengine
      -- the engine is put back as it was, and nothing is committed
      simp only at h
      simp only [h, hkept, hsame, commitsOf, List.append_nil]

/-- An unhandled key event leaves the host as it was. -/
theorem call_of_unhandled {host : Host} {call : HostCall} (h : host.Unhandled call) :
    (host.call call).2 = host := by
  cases call with
  | focus context | blur context => exact absurd h id
  | dispatch keyboard event | handle keyboard event => exact dispatch_of_passThrough h.1 h.2

/-! ## Runs without them -/

/-- The answers to a list of calls, each with the host behind it. -/
def history : Host → List HostCall → List (HostAnswer × Host)
  | _, [] => []
  | host, call :: calls => host.call call :: history (host.call call).2 calls

end Host

/-- A call of a run, marked if it is to be left out. -/
structure MarkedCall where
  call : HostCall
  leftOut : Bool
deriving DecidableEq

/-- Of elements that belong to calls one by one, those of the calls that are not left out. -/
def remaining {α : Type} (marked : List MarkedCall) (elements : List α) : List α :=
  ((marked.zip elements).filter fun pair => !pair.1.leftOut).map (·.2)

theorem remaining_cons {α : Type} (first : MarkedCall) (marked : List MarkedCall) (element : α)
    (elements : List α) :
    remaining (first :: marked) (element :: elements) =
      if first.leftOut then remaining marked elements
      else element :: remaining marked elements := by
  cases hfirst : first.leftOut <;> simp [remaining, hfirst]

namespace Host

/-- Every call that is to be left out of a run is unhandled where it is made. -/
def LeavesOutUnhandled : Host → List MarkedCall → Prop
  | _, [] => True
  | host, first :: marked =>
    (first.leftOut = true → host.Unhandled first.call) ∧
      LeavesOutUnhandled (host.call first.call).2 marked

instance LeavesOutUnhandled.decidable :
    (host : Host) → (marked : List MarkedCall) → Decidable (host.LeavesOutUnhandled marked)
  | _, [] => inferInstanceAs (Decidable True)
  | host, first :: marked =>
    have := LeavesOutUnhandled.decidable (host.call first.call).2 marked
    inferInstanceAs (Decidable ((first.leftOut = true → host.Unhandled first.call) ∧
      LeavesOutUnhandled (host.call first.call).2 marked))

/-- Unhandled key events can be left out of a run, any of them and none of the others. The remaining
calls are answered as in the whole run, and behind each of them and in the end the host is the same,
with its focus, its commits and the state of every engine. -/
theorem unhandled_leave_no_trace (host : Host) (marked : List MarkedCall)
    (unhandled : host.LeavesOutUnhandled marked) :
    host.history (remaining marked (marked.map (·.call))) =
        remaining marked (host.history (marked.map (·.call))) ∧
      host.run (remaining marked (marked.map (·.call))) = host.run (marked.map (·.call)) := by
  induction marked generalizing host with
  | nil => exact ⟨rfl, rfl⟩
  | cons first marked ih =>
    obtain ⟨hfirst, hothers⟩ := unhandled
    obtain ⟨hhistory, hrun⟩ := ih _ hothers
    rw [List.map_cons, history, remaining_cons, remaining_cons]
    cases hleft : first.leftOut with
    | true =>
      have hsame := call_of_unhandled (hfirst hleft)
      rw [hsame] at hhistory hrun ⊢
      simp only [if_true]
      refine ⟨hhistory, hrun.trans ?_⟩
      show host.run _ = (host.call first.call).2.run _
      rw [hsame]
    | false =>
      simp only [Bool.false_eq_true, if_false]
      rw [history, hhistory]
      exact ⟨rfl, hrun⟩

/-- Left out are a key-down before anything is focused, and, while a dead key waits for the key that
follows it, its key-up, a key without a mapping and a key of an unknown keyboard. -/
theorem unhandled_leave_no_trace_composing :
    let draft := LayoutDraft.ofDeclarations [.layer "default" [("C01", "a"), ("Quote", "^")],
      .layer "alt" [("C01", "æ")], .deadKeys "default" ["^"], .transform ["^", "æ"] "ǣ"]
    let marked : List MarkedCall := [
      ⟨.dispatch "left" ⟨"KeyA", .down, false, false, false⟩, true⟩,
      ⟨.focus ⟨1⟩, false⟩,
      ⟨.handle "left" ⟨"Quote", .down, false, false, false⟩, false⟩,
      ⟨.handle "left" ⟨"Quote", .up, false, false, false⟩, true⟩,
      ⟨.dispatch "left" ⟨"AltRight", .down, false, false, false⟩, false⟩,
      ⟨.dispatch "left" ⟨"F1", .down, false, false, false⟩, true⟩,
      ⟨.dispatch "right" ⟨"KeyA", .down, false, false, false⟩, true⟩,
      ⟨.dispatch "left" ⟨"KeyA", .down, false, false, false⟩, false⟩]
    ∃ layout, draft.build.value = .ok layout ∧
      let host := Host.new (.ofList [("left", layout)])
      host.LeavesOutUnhandled marked ∧
        (host.run (remaining marked (marked.map (·.call)))).commits = [⟨⟨1⟩, "ǣ"⟩] := by
  intro draft marked
  obtain ⟨layout, built, unhandled, committed⟩ : ∃ layout, draft.build.value = .ok layout ∧
      (Host.new (.ofList [("left", layout)])).LeavesOutUnhandled marked ∧
      ((Host.new (.ofList [("left", layout)])).run (marked.map (·.call))).commits =
        [⟨⟨1⟩, "ǣ"⟩] :=
    ⟨_, rfl, by decide +kernel, by decide +kernel⟩
  refine ⟨layout, built, unhandled, ?_⟩
  rw [(unhandled_leave_no_trace _ marked unhandled).2]
  exact committed

end Host

end DeadKeys
