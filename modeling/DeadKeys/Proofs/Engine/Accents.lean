import DeadKeys.Proofs.Engine.Typing

/-!
# Typing derived transforms

With a derivation every registered dead key has a root in the tree
(`LayoutDraft.lookup_ne_none_of_registers`), so from idle it starts a composition and never types
itself (`Engine.types_derived_transforms`). Where nothing is declared for it, the tree has behind it
just what the derivation makes of the space and of the letters (`LayoutDraft.outputAt?_behind_iff`),
and that answers the value that comes next.
-/

namespace DeadKeys

open Transform

/-- What a derivation promises as the answer to a value behind a dead key for which no transform is
declared. -/
structure Layout.AnswersBehind (layout : Layout) (mode : DeriveMode) (deadKey value : String)
    (answer : Output) : Prop where
  /-- A space gives the dead key itself. -/
  space : value = " " → answer = .emit deadKey
  /-- A letter that the layout types gives the normalised pair of both. When only composable pairs
  are asked for, one that normalisation leaves alone is swallowed. -/
  letter : ∀ letter, layout.TypesLetter letter → value = String.singleton letter →
    answer =
      if mode = .composable ∧ Unicode.nfkc (Derivation.accented deadKey letter) =
          Derivation.accented deadKey letter then .suppress
      else .emit (String.ofList (Unicode.nfkc (Derivation.accented deadKey letter)))
  /-- Any other value is swallowed together with the dead key. -/
  other : value ≠ " " → (∀ letter, layout.TypesLetter letter → value ≠ String.singleton letter) →
    answer = .suppress

/-! ## What the tree has behind a dead key -/

namespace LayoutDraft

variable {draft : LayoutDraft} {layout : Layout} {deadKey value : String}

/-- With a derivation every registered dead key has a root: one that is declared, or a derived
level. -/
theorem lookup_ne_none_of_registers (hbuild : draft.build.value = .ok layout)
    (hmode : draft.mode ≠ .off) (hregistered : layout.Registers deadKey) :
    layout.transforms.root.lookup [deadKey] ≠ none := by
  obtain ⟨plain, rfl, _⟩ := exists_plain_of_build hbuild
  have hroot : ∃ output,
      (plain.completed draft.mode).transforms.root.outputAt? [deadKey] = some output := by
    cases hbefore : plain.transforms.root.outputAt? [deadKey] with
    | some output => exact ⟨output, (Layout.outputAt?_completed_iff hmode).mpr (.inl hbefore)⟩
    | none =>
      have hlevel : plain.Derives draft.mode [deadKey] none :=
        .level hregistered (Level.outputAt?_eq_none_iff.mp hbefore)
      exact ⟨none, (Layout.outputAt?_completed_iff hmode).mpr (.inr ⟨hbefore, hlevel⟩)⟩
  obtain ⟨output, hout⟩ := hroot
  intro hnone
  rw [Level.outputAt?_eq_none_iff.mpr hnone] at hout
  cases hout

/-- Behind a dead key for which nothing is declared there is the dead key itself at the space, and
at letters what is derived for them. -/
theorem outputAt?_behind_iff (hbuild : draft.build.value = .ok layout) (hmode : draft.mode ≠ .off)
    (hregistered : layout.Registers deadKey)
    (hundeclared : ∀ entry ∈ draft.transforms, entry.path.head? ≠ some deadKey)
    {output : Option String} :
    layout.transforms.root.outputAt? [deadKey, value] = some output ↔
      (value = " " ∧ output = some deadKey) ∨
        ∃ letter, layout.TypesLetter letter ∧ value = String.singleton letter ∧
          (draft.mode = .composable → Unicode.nfkc (Derivation.accented deadKey letter) ≠
            Derivation.accented deadKey letter) ∧
          output = some (String.ofList (Unicode.nfkc (Derivation.accented deadKey letter))) := by
  obtain ⟨plain, rfl, htells⟩ := exists_plain_of_build hbuild
  -- no path that starts with the dead key is declared
  have hfree : ∀ rest, plain.transforms.root.outputAt? (deadKey :: rest) = none := by
    intro rest
    refine Option.eq_none_iff_forall_ne_some.mpr ?_
    intro found hfound
    rcases (htells _ (List.cons_ne_nil deadKey rest) found).mp hfound with
      hentry | ⟨_, entry, hentry, ⟨tail, hpath⟩, _⟩
    · exact hundeclared _ hentry rfl
    · exact hundeclared entry hentry (by rw [← hpath]; rfl)
  have habsent : plain.transforms.root.lookup [deadKey] = none :=
    Level.outputAt?_eq_none_iff.mp (hfree [])
  rw [Layout.outputAt?_completed_iff hmode, hfree [value]]
  constructor
  · rintro (h | ⟨_, hderives⟩)
    · cases h
    · cases hderives with
      | withSpace _ _ => exact .inl ⟨rfl, rfl⟩
      | withLetter _ _ htyped hchanges => exact .inr ⟨_, htyped, rfl, hchanges, rfl⟩
  · rintro (⟨rfl, rfl⟩ | ⟨letter, htyped, rfl, hchanges, rfl⟩)
    · exact .inr ⟨rfl, .withSpace hregistered habsent⟩
    · refine .inr ⟨rfl, .withLetter hregistered ?_ htyped hchanges⟩
      intro text hleaf
      rw [habsent] at hleaf
      cases hleaf

/-- The node behind the dead key, or its absence, gives the answer that is promised. -/
theorem exists_answersBehind (hbuild : draft.build.value = .ok layout) (hmode : draft.mode ≠ .off)
    (hregistered : layout.Registers deadKey)
    (hundeclared : ∀ entry ∈ draft.transforms, entry.path.head? ≠ some deadKey) (value : String) :
    ∃ answer, layout.AnswersBehind draft.mode deadKey value answer ∧
      ((∃ text, layout.transforms.root.lookup [deadKey, value] = some (.leaf text) ∧
          answer = .emit text) ∨
        layout.transforms.root.lookup [deadKey, value] = none ∧ answer = .suppress) := by
  have hbehind : ∀ output, layout.transforms.root.outputAt? [deadKey, value] = some output ↔ _ :=
    fun output => outputAt?_behind_iff hbuild hmode hregistered hundeclared
  cases hout : layout.transforms.root.outputAt? [deadKey, value] with
  | none =>
    refine ⟨.suppress, ⟨?_, ?_, fun _ _ => rfl⟩, .inr ⟨Level.outputAt?_eq_none_iff.mp hout, rfl⟩⟩
    · intro hspace
      rw [(hbehind (some deadKey)).mpr (.inl ⟨hspace, rfl⟩)] at hout
      cases hout
    · intro letter htyped hvalue
      by_cases hsame : draft.mode = .composable ∧
          Unicode.nfkc (Derivation.accented deadKey letter) = Derivation.accented deadKey letter
      · rw [if_pos hsame]
      · rw [(hbehind _).mpr (.inr ⟨letter, htyped, hvalue, not_and.mp hsame, rfl⟩)] at hout
        cases hout
  | some output =>
    rcases (hbehind output).mp hout with ⟨rfl, rfl⟩ | ⟨letter, htyped, rfl, hchanges, rfl⟩
    · refine ⟨.emit deadKey, ⟨fun _ => rfl, ?_, fun hspace => absurd rfl hspace⟩,
        .inl ⟨deadKey, Level.outputAt?_eq_leaf_iff.mp hout, rfl⟩⟩
      intro letter htyped hvalue
      exact absurd hvalue.symm htyped.ne_space
    · refine ⟨.emit _, ⟨?_, ?_, fun _ hother => absurd rfl (hother letter htyped)⟩,
        .inl ⟨_, Level.outputAt?_eq_leaf_iff.mp hout, rfl⟩⟩
      · intro hspace
        exact absurd hspace htyped.ne_space
      · intro other _ hvalue
        obtain rfl := String.singleton_inj.mp hvalue
        rw [if_neg (not_and.mpr hchanges)]

end LayoutDraft

/-! ## Runs -/

namespace PathMachine

variable {layouts : LayoutStore} {machine : PathMachine} {first : Press} {others : List Press}
  {calls : List EngineCall}

/-- From idle, the first press of a run is swallowed if it is that of a dead key with a root. The
rest of the run starts behind the dead key. -/
theorem reports_of_deadKey {deadKey : String} (hmapped : first.resolution.mapped = some deadKey)
    (hdead : first.layout.isDeadKey first.resolution.layer deadKey = true ∧
      first.layout.transforms.root.lookup [deadKey] ≠ none)
    (hreset : EngineCall.reset ∉ calls) (hpending : machine.pending = none)
    (hpressed : (reports layouts (machine.engine layouts) calls).map (·.press) = first :: others) :
    layouts.get? first.keyboard = some first.layout ∧
      ∃ behind : PathMachine, behind.pending = some (first.keyboard, [deadKey]) ∧
        ∃ rest, EngineCall.reset ∉ rest ∧
          reports layouts (machine.engine layouts) calls =
            ⟨first, .output .suppress, true, [deadKey]⟩ ::
              reports layouts (behind.engine layouts) rest := by
  obtain ⟨hlayout, start, hstart, rest, hrest, hrun, _⟩ := reports_eq_cons hreset hpressed
  rw [press_of_deadKey (hstart.trans hpending) hmapped hdead] at hrun
  exact ⟨hlayout, _, rfl, rest, hrest, hrun⟩

/-- Within a composition, the first press of a run is answered with the leaf behind its value, or
with nothing if there is no node, and the composition is over. -/
theorem shown_head?_reports {origin : String} {path : List String} {answer : Output}
    (hanswer : (∃ text, (rootOf layouts origin).lookup (path ++ [first.resolution.value]) =
        some (.leaf text) ∧ answer = .emit text) ∨
      (rootOf layouts origin).lookup (path ++ [first.resolution.value]) = none ∧
        answer = .suppress)
    (hreset : EngineCall.reset ∉ calls) (hpending : machine.pending = some (origin, path))
    (hpressed : (reports layouts (machine.engine layouts) calls).map (·.press) = first :: others) :
    ((reports layouts (machine.engine layouts) calls).map Report.shown).head? =
      some (.output answer, false, []) := by
  obtain ⟨_, start, hstart, rest, _, hrun, _⟩ := reports_eq_cons hreset hpressed
  have hpending : start.pending = some (origin, path) := hstart.trans hpending
  rcases hanswer with ⟨text, hleaf, rfl⟩ | ⟨hnone, rfl⟩
  · rw [hrun, press_of_leaf hpending hleaf]
    rfl
  · rw [hrun, press_of_nothing hpending hnone]
    rfl

end PathMachine

namespace Engine

/-- With a derivation, a press of a registered dead key is swallowed in any engine that is idle, and
starts a composition. If no declared transform starts with the dead key, the next press ends the
composition, and the answer to it is the one that the derivation promises. In between anything but a
reset may be asked of the engine. -/
theorem types_derived_transforms {draft : LayoutDraft} {layout : Layout}
    (built : draft.build.value = .ok layout) (derives : draft.mode ≠ .off) (layouts : LayoutStore)
    (engine : Engine) (idle : engine.isComposing = false) (calls : List EngineCall)
    (noReset : EngineCall.reset ∉ calls) {first : Press} {others : List Press}
    (pressed : (reports layouts engine calls).map (·.press) = first :: others)
    (onLayout : first.layout = layout) {deadKey : String}
    (mapped : first.resolution.mapped = some deadKey)
    (dead : layout.isDeadKey first.resolution.layer deadKey = true) :
    ((reports layouts engine calls).map Report.shown).head? =
        some (.output .suppress, true, [deadKey]) ∧
      ((∀ entry ∈ draft.transforms, entry.path.head? ≠ some deadKey) →
        ∀ second later, others = second :: later →
          ∃ answer, layout.AnswersBehind draft.mode deadKey second.resolution.value answer ∧
            ((reports layouts engine calls).map Report.shown)[1]? =
              some (.output answer, false, [])) := by
  cases onLayout
  obtain ⟨composition, held⟩ := engine
  obtain rfl : composition = none := by simpa [isComposing] using idle
  have registered : first.layout.Registers deadKey := ⟨first.resolution.layer, dead⟩
  have root := LayoutDraft.lookup_ne_none_of_registers built derives registered
  have machinePressed : (reports layouts (PathMachine.engine layouts ⟨none, held⟩) calls).map
      (·.press) = first :: others := pressed
  obtain ⟨known, behind, pending, rest, restNoReset, run⟩ :=
    PathMachine.reports_of_deadKey mapped ⟨dead, root⟩ noReset rfl machinePressed
  have machineRun : reports layouts ⟨none, held⟩ calls = _ := run
  rw [machineRun, List.map_cons] at pressed ⊢
  refine ⟨rfl, ?_⟩
  intro undeclared second later hothers
  obtain ⟨answer, promised, node⟩ :=
    LayoutDraft.exists_answersBehind built derives registered undeclared second.resolution.value
  have rootOf : PathMachine.rootOf layouts first.keyboard = first.layout.transforms.root := by
    rw [PathMachine.rootOf, known]
  rw [← rootOf] at node
  have restPressed := (List.cons.inj pressed).2.trans hothers
  refine ⟨answer, promised, ?_⟩
  rw [List.getElem?_cons_succ, ← List.head?_eq_getElem?]
  exact PathMachine.shown_head?_reports node restNoReset pending restPressed

/-- A letter of another layer combines with the dead key, on a layout where another dead key has a
transform of its own. -/
theorem types_derived_transforms_circumflex :
    let draft := LayoutDraft.ofDeclarations [.layer "default" [("C01", "a"), ("Quote", "^")],
      .layer "shift" [("C01", "A"), ("Quote", "´")], .deadKeys "default" ["^"],
      .deadKeys "shift" ["´"], .transform ["´", "a"] "@", .derive .composable]
    let calls : List EngineCall := [.handle "left" ⟨"Quote", .down, false, false, false⟩,
      .handle "left" ⟨"Quote", .up, false, false, false⟩,
      .handle "left" ⟨"KeyA", .down, false, false, true⟩]
    ∃ layout, draft.build.value = .ok layout ∧ draft.mode ≠ .off ∧
      (∀ entry ∈ draft.transforms, entry.path.head? ≠ some "^") ∧
      ((reports (.ofList [("left", layout)]) .idle calls).map Report.shown).head? =
        some (.output .suppress, true, ["^"]) ∧
      ((reports (.ofList [("left", layout)]) .idle calls).map Report.shown)[1]? =
        some (.output (.emit "Â"), false, []) := by
  intro draft calls
  obtain ⟨layout, built, first, others, pressed, onLayout, mapped, dead, values, table, defined,
      typesA⟩ :
      ∃ layout, draft.build.value = .ok layout ∧ ∃ first others,
        (reports (.ofList [("left", layout)]) .idle calls).map (·.press) = first :: others ∧
        first.layout = layout ∧ first.resolution.mapped = some "^" ∧
        layout.isDeadKey first.resolution.layer "^" = true ∧
        others.map (·.resolution.value) = ["A"] ∧
        ∃ table, layout.layer? "shift" = some table ∧ table.get? "KeyA" = some "A" :=
    ⟨_, rfl, _, _, rfl, rfl, by decide +kernel, by decide +kernel, by decide +kernel, _, rfl,
      by decide +kernel⟩
  obtain ⟨second, rfl, value⟩ : ∃ second, others = [second] ∧ second.resolution.value = "A" :=
    List.map_eq_singleton_iff.mp values
  have derives : draft.mode ≠ .off := by decide
  have noReset : EngineCall.reset ∉ calls := by decide +kernel
  have undeclared : ∀ entry ∈ draft.transforms, entry.path.head? ≠ some "^" := by decide +kernel
  obtain ⟨swallowed, behind⟩ :=
    types_derived_transforms built derives _ .idle rfl calls noReset pressed onLayout mapped dead
  obtain ⟨answer, promised, shown⟩ := behind undeclared second [] rfl
  have typed : layout.TypesLetter 'A' := ⟨by decide +kernel, "shift", table, "KeyA", defined, typesA⟩
  have composed : answer = .emit "Â" := by
    rw [promised.letter 'A' typed value]
    decide +kernel
  rw [composed] at shown
  exact ⟨layout, built, derives, undeclared, swallowed, shown⟩

end Engine

end DeadKeys
