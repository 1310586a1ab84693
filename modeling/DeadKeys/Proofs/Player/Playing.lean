import DeadKeys.Player.Outcome
import DeadKeys.Proofs.Player.Transcript

/-!
# Playing a script

What the program prints when it plays a script. Nothing is printed unless the document, the keyboard
and the script are all right; otherwise the printed lines tell just what was committed
(`play_tells_what_is_committed`).
-/

namespace DeadKeys.Player

/-- All that a script is played with is right: the document loads, it has the keyboard, and the
script can be read and has these steps. -/
structure CanPlay (files : Files) (descriptor keyboard : String) (script eval : Option String)
    (layouts : LayoutStore) (steps : List Script.Step) : Prop where
  loaded : (loadFile files descriptor).value = .ok layouts
  known : layouts.contains keyboard
  parsed : ∃ text, scriptText files script eval = .ok text ∧ Script.parse text = .ok steps

variable {files : Files} {descriptor keyboard : String} {script eval : Option String}
  {layouts : LayoutStore} {steps : List Script.Step}

/-- The steps are found exactly if the keyboard is known and the script is right. -/
theorem scriptSteps_eq_ok_iff :
    scriptSteps files layouts descriptor keyboard script eval = .ok steps ↔
      layouts.contains keyboard ∧
        ∃ text, scriptText files script eval = .ok text ∧ Script.parse text = .ok steps := by
  unfold scriptSteps
  by_cases hknown : layouts.contains keyboard
  · rw [if_pos hknown]
    cases htext : scriptText files script eval with
    | error failure => simp [bind, Except.bind]
    | ok text =>
      cases hparse : Script.parse text with
      | error error => simp [bind, Except.bind, hparse, Except.mapError]
      | ok found => simp [bind, Except.bind, hparse, Except.mapError, hknown]
  · rw [if_neg hknown]
    simp [hknown, throw, throwThe, MonadExceptOf.throw]

/-- A script with which all is right is played. -/
theorem CanPlay.run_eq (h : CanPlay files descriptor keyboard script eval layouts steps) :
    ((Command.play descriptor keyboard script eval).run files).value =
      .ok (playScript layouts keyboard steps).value.render := by
  have hsteps : scriptSteps files layouts descriptor keyboard script eval = .ok steps :=
    scriptSteps_eq_ok_iff.mpr ⟨h.known, h.parsed⟩
  rw [Command.run, Logged.value_bind, h.loaded]
  dsimp only
  rw [hsteps]
  rfl

/-- With anything wrong the command fails. -/
theorem exists_failure_of_not_canPlay
    (h : ∀ layouts steps, ¬ CanPlay files descriptor keyboard script eval layouts steps) :
    ∃ failure, ((Command.play descriptor keyboard script eval).run files).value =
      .error failure := by
  rw [Command.run, Logged.value_bind]
  cases hload : (loadFile files descriptor).value with
  | error failure => exact ⟨failure, rfl⟩
  | ok layouts =>
    dsimp only
    cases hsteps : scriptSteps files layouts descriptor keyboard script eval with
    | error failure => exact ⟨failure, rfl⟩
    | ok steps =>
      obtain ⟨hknown, hparsed⟩ := scriptSteps_eq_ok_iff.mp hsteps
      exact absurd ⟨hload, hknown, hparsed⟩ (h layouts steps)

/-- The lines of a report of success are printed, and nothing is printed otherwise. -/
theorem printed_outcome (verbose : Bool) (command : Command) :
    ((Request.run verbose command).outcome files).value.printed =
      match (command.run files).value with
      | .ok lines => lines
      | .error _ => [] := by
  rw [Request.outcome, Logged.value_bind]
  cases (command.run files).value <;> rfl

/-- If the document, the keyboard or the script is wrong, playing prints nothing. Otherwise it
prints one line for each key-down of the script, which tells what the host answers there, and then
one line for each context to which something is committed, in the order of the contexts. The lines of
the key-downs emit just what is committed, each to the context that has the focus then, and the text
of a context is what they emit while it has the focus, one after the other. -/
theorem play_tells_what_is_committed (files : Files) (verbose : Bool)
    (descriptor keyboard : String) (script eval : Option String) :
    let request := Request.run verbose (.play descriptor keyboard script eval)
    let printed := (request.outcome files).value.printed
    ((∀ layouts steps, ¬ CanPlay files descriptor keyboard script eval layouts steps) →
      printed = []) ∧
    ∀ layouts steps, CanPlay files descriptor keyboard script eval layouts steps →
      ∃ (told : List (Moment × KeyLine)) (texts : List (ContextId × String)),
        printed = told.map (·.2.render) ++ texts.map renderText ∧
        told.map (·.1) = moments keyboard steps ∧
        (∀ entry ∈ told, entry.1.IsTold layouts keyboard entry.2) ∧
        (Host.after layouts (scriptCalls keyboard steps)).commits = told.filterMap commitOf? ∧
        (texts.map (·.1)).Pairwise (· < ·) ∧
        ∀ context text, (context, text) ∈ texts ↔
          told.filterMap (textIn? context) ≠ [] ∧
            text = String.join (told.filterMap (textIn? context)) := by
  intro request printed
  constructor
  · intro wrong
    obtain ⟨failure, hfailure⟩ := exists_failure_of_not_canPlay wrong
    show (request.outcome files).value.printed = []
    rw [printed_outcome, hfailure]
  · intro layouts steps right
    have hlines : printed = (playScript layouts keyboard steps).value.render := by
      show (request.outcome files).value.printed = _
      rw [printed_outcome, right.run_eq]
    obtain ⟨layout, known⟩ : ∃ layout, layouts.get? keyboard = some layout :=
      Option.isSome_iff_exists.mp right.known
    have hcommits := commits_script layouts keyboard steps
    refine ⟨(moments keyboard steps).map (Moment.entry layouts keyboard),
      (Host.after layouts (scriptCalls keyboard steps)).committedContexts.map fun context =>
        (context, (Host.after layouts (scriptCalls keyboard steps)).textFor context),
      ?_, ?_, ?_, hcommits, ?_, ?_⟩
    · rw [hlines, playScript_value, Transcript.render]
      simp [Moment.entry]
    · rw [List.map_map]
      exact List.map_id _
    · intro entry hentry
      obtain ⟨moment, _, rfl⟩ := List.mem_map.mp hentry
      exact moment.isTold_told known
    · rw [List.map_map]
      have hcontexts := SortedSet.pairwise_toList (SortedSet.ofList
        ((Host.after layouts (scriptCalls keyboard steps)).commits.map (·.context)))
      rwa [← List.map_id (SortedSet.toList _)] at hcontexts
    · intro context text
      exact mem_texts_iff hcommits

/-- A dead key waits in its context while another has the focus, and right Alt goes down there. -/
theorem play_tells_two_contexts :
    let files : Files := fun _ => .ok ("\x7b\"de\": \x7b\"layers\": \x7b\"default\": " ++
      "\x7b\"C01\": \"a\", \"Quote\": \"^\"\x7d\x7d, \"deadKeys\": \x7b\"default\": " ++
      "[\"^\"]\x7d, \"transforms\": \x7b\"^\": \x7b\"a\": \"â\"\x7d\x7d\x7d\x7d")
    let script := "Quote @focus 2 +AltRight KeyA\n@focus 1 KeyA"
    ∃ layouts steps, CanPlay files "keys.json" "de" none (some script) layouts steps ∧
      ∃ (told : List (Moment × KeyLine)) (texts : List (ContextId × String)),
        ["   1  Quote        [default] suppress", "   1  AltRight     [default] suppress",
            "   1  KeyA         [alt] emit \"a\"", "   2  KeyA         [default] emit \"â\"",
            "#1: \"â\"", "#2: \"a\""] =
          told.map (·.2.render) ++ texts.map renderText ∧
        told.map (·.1) = moments "de" steps ∧
        (∀ entry ∈ told, entry.1.IsTold layouts "de" entry.2) ∧
        ∀ context text, (context, text) ∈ texts ↔
          told.filterMap (textIn? context) ≠ [] ∧
            text = String.join (told.filterMap (textIn? context)) := by
  intro files script
  have lines : ((Request.run false (.play "keys.json" "de" none (some script))).outcome
      files).value.printed = ["   1  Quote        [default] suppress",
        "   1  AltRight     [default] suppress", "   1  KeyA         [alt] emit \"a\"",
        "   2  KeyA         [default] emit \"â\"", "#1: \"â\"", "#2: \"a\""] := by
    decide +kernel
  obtain ⟨fails, plays⟩ :=
    play_tells_what_is_committed files false "keys.json" "de" none (some script)
  obtain ⟨layouts, steps, right⟩ :
      ∃ layouts steps, CanPlay files "keys.json" "de" none (some script) layouts steps := by
    by_contra wrong
    simp only [not_exists] at wrong
    rw [fails wrong] at lines
    cases lines
  obtain ⟨told, texts, printed, downs, true_lines, _, _, joined⟩ := plays layouts steps right
  exact ⟨layouts, steps, right, told, texts, lines.symm.trans printed, downs, true_lines, joined⟩

end DeadKeys.Player
