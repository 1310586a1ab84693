import DeadKeys.Proofs.Layout.Extension
import DeadKeys.Proofs.Unicode.Composing

/-!
# Derived precomposed characters

When only composable pairs are asked for, a dead key that stands for one mark combines with a letter
behind which the mark goes exactly if both have a precomposed character, and gives this character
(`LayoutDraft.build_gives_precomposed`). A mark that moves in front of the marks of its letter can
change the pair without making one character of it.
-/

namespace DeadKeys

open Transform

/-! ## What is derived for a pair -/

namespace Derivation

variable {deadKey : String} {letter mark : Char}

theorem accented_of_combiningForm (h : combiningForm deadKey = String.singleton mark) :
    accented deadKey letter = [letter, mark] := by
  rw [accented, h, String.toList_singleton]

end Derivation

namespace Layout

variable {layout : Layout} {mode : DeriveMode} {deadKey : String} {letter mark : Char}
  {output : Option String}

/-- What a derivation adds at the path of a dead key and a letter. -/
theorem derives_letter_iff (hregistered : layout.Registers deadKey)
    (hopen : ∀ text, layout.transforms.root.lookup [deadKey] ≠ some (.leaf text))
    (htyped : layout.TypesLetter letter) :
    layout.Derives mode [deadKey, String.singleton letter] output ↔
      (mode = .composable → Unicode.nfkc (Derivation.accented deadKey letter) ≠
        Derivation.accented deadKey letter) ∧
      output = some (String.ofList (Unicode.nfkc (Derivation.accented deadKey letter))) := by
  constructor
  · generalize hpath : [deadKey, String.singleton letter] = path
    intro h
    cases h with
    | level => simp at hpath
    | withSpace =>
      exact absurd (List.cons.inj (List.cons.inj hpath).2).1 htyped.ne_space
    | withLetter _ _ _ changes =>
      obtain ⟨rfl, hletters⟩ := List.cons.inj hpath
      obtain rfl := String.singleton_inj.mp (List.cons.inj hletters).1
      exact ⟨changes, rfl⟩
  · rintro ⟨hchanges, rfl⟩
    exact .withLetter hregistered hopen htyped hchanges

/-- Where the mark of the dead key goes behind the letter, only a precomposed character is added. -/
theorem derives_precomposed_iff (hregistered : layout.Registers deadKey)
    (hopen : ∀ text, layout.transforms.root.lookup [deadKey] ≠ some (.leaf text))
    (htyped : layout.TypesLetter letter)
    (hform : Derivation.combiningForm deadKey = String.singleton mark)
    (hbehind : Unicode.GoesBehind mark letter) :
    layout.Derives .composable [deadKey, String.singleton letter] output ↔
      ∃ composed, Unicode.compose? letter mark = some composed ∧
        output = some (String.singleton composed) := by
  rw [derives_letter_iff hregistered hopen htyped, Derivation.accented_of_combiningForm hform,
    hbehind.nfkc_eq, Unicode.joined_ne_iff, Unicode.joined]
  cases Unicode.compose? letter mark with
  | none => simp
  | some composed => simp

end Layout

/-! ## What a build gives -/

namespace LayoutDraft

/-- A dead key stands for one mark, and the mark goes behind a letter that the layout types. With
nothing declared in the way, a build that derives composable pairs has behind the dead key and the
letter just their precomposed character, and nothing if there is none. -/
theorem build_gives_precomposed {draft : LayoutDraft} {layout : Layout}
    (composable : draft.mode = .composable) (built : draft.build.value = .ok layout)
    {deadKey : String} {letter mark : Char} (registered : layout.Registers deadKey)
    (typed : layout.TypesLetter letter)
    (form : Derivation.combiningForm deadKey = String.singleton mark)
    (behind : Unicode.GoesBehind mark letter)
    (noLeaf : ∀ text, ⟨[deadKey], some text⟩ ∉ draft.transforms)
    (undeclared : ∀ output,
      ¬ Declares draft.transforms [deadKey, String.singleton letter] output) :
    layout.transforms.root.lookup [deadKey, String.singleton letter] =
      (Unicode.compose? letter mark).map fun composed => .leaf (String.singleton composed) := by
  obtain ⟨plain, rfl, htells⟩ := exists_plain_of_build built
  rw [composable]
  have hregistered : plain.Registers deadKey := registered
  have htyped : plain.TypesLetter letter := typed
  have hfree : plain.transforms.root.outputAt? [deadKey, String.singleton letter] = none := by
    refine Option.eq_none_iff_forall_ne_some.mpr ?_
    intro output hout
    exact undeclared output ((htells _ (List.cons_ne_nil _ _) output).mp hout)
  have hopen : ∀ text, plain.transforms.root.lookup [deadKey] ≠ some (.leaf text) := by
    intro text hleaf
    rw [← Level.outputAt?_eq_leaf_iff, htells _ (List.cons_ne_nil _ _)] at hleaf
    rcases hleaf with hmem | ⟨hnone, _⟩
    · exact noLeaf text hmem
    · cases hnone
  have hout : ∀ output, (plain.completed .composable).transforms.root.outputAt?
      [deadKey, String.singleton letter] = some output ↔
        ∃ composed, Unicode.compose? letter mark = some composed ∧
          output = some (String.singleton composed) := by
    intro output
    rw [Layout.outputAt?_completed_iff (by decide), hfree,
      Layout.derives_precomposed_iff hregistered hopen htyped form behind]
    simp
  cases hcompose : Unicode.compose? letter mark with
  | none =>
    refine Level.outputAt?_eq_none_iff.mp (Option.eq_none_iff_forall_ne_some.mpr ?_)
    intro output hsome
    obtain ⟨composed, hcomposed, _⟩ := (hout output).mp hsome
    rw [hcompose] at hcomposed
    cases hcomposed
  | some composed =>
    exact Level.outputAt?_eq_leaf_iff.mp ((hout _).mpr ⟨composed, hcompose, rfl⟩)

/-- A circumflex goes behind the dot below of a letter; with a letter that has no circumflex nothing
is derived. -/
theorem build_gives_precomposed_circumflex :
    let draft := ofDeclarations [.layer "default" [("C01", "ạ"), ("D01", "q")],
      .deadKeys "default" ["^"], .derive .composable]
    ∃ layout, draft.build.value = .ok layout ∧ layout.Registers "^" ∧ layout.TypesLetter 'ạ' ∧
      Derivation.combiningForm "^" = String.singleton '\u0302' ∧
      Unicode.GoesBehind '\u0302' 'ạ' ∧
      layout.transforms.root.lookup ["^", "ạ"] = some (.leaf "ậ") ∧
      layout.transforms.root.lookup ["^", "q"] = none := by
  intro draft
  obtain ⟨layout, built, circumflex, table, layer, typesA, typesQ⟩ :
      ∃ layout, draft.build.value = .ok layout ∧ layout.isDeadKey "default" "^" = true ∧
        ∃ table, layout.layer? "default" = some table ∧ table.get? "KeyA" = some "ạ" ∧
          table.get? "KeyQ" = some "q" :=
    ⟨_, rfl, by decide +kernel, _, rfl, by decide +kernel, by decide +kernel⟩
  have registered : layout.Registers "^" := ⟨"default", circumflex⟩
  have typedA : layout.TypesLetter 'ạ' :=
    ⟨by decide +kernel, "default", table, "KeyA", layer, typesA⟩
  have typedQ : layout.TypesLetter 'q' :=
    ⟨by decide +kernel, "default", table, "KeyQ", layer, typesQ⟩
  have form : Derivation.combiningForm "^" = String.singleton '\u0302' := by decide +kernel
  have behindA : Unicode.GoesBehind '\u0302' 'ạ' := by decide +kernel
  have behindQ : Unicode.GoesBehind '\u0302' 'q' := by decide +kernel
  have noLeaf : ∀ text, ⟨["^"], some text⟩ ∉ draft.transforms := fun _ => List.not_mem_nil
  have undeclared : ∀ letter output, ¬ Declares draft.transforms ["^", letter] output := by
    rintro letter output (hmem | ⟨_, entry, hmem, _⟩) <;> cases hmem
  have composed : Unicode.compose? 'ạ' '\u0302' = some 'ậ' := by decide +kernel
  have alone : Unicode.compose? 'q' '\u0302' = none := by decide +kernel
  refine ⟨layout, built, registered, typedA, form, behindA, ?_, ?_⟩
  · have found := build_gives_precomposed rfl built registered typedA form behindA noLeaf
      (undeclared _)
    rwa [composed] at found
  · have found := build_gives_precomposed rfl built registered typedQ form behindQ noLeaf
      (undeclared _)
    rwa [alone] at found

/-- A cedilla moves in front of an acute accent, so that normalising changes the pair and still
leaves a mark behind. -/
theorem build_leaves_mark_behind :
    let draft := ofDeclarations [.key "default" "KeyE" "é", .deadKeys "default" ["¸"],
      .derive .composable]
    ∃ layout, draft.build.value = .ok layout ∧ draft.mode = .composable ∧
      draft.transforms = [] ∧ layout.Registers "¸" ∧ layout.TypesLetter 'é' ∧
      layout.transforms.root.lookup ["¸", String.singleton 'é'] = some (.leaf "ȩ\u0301") ∧
      ∀ c, "ȩ\u0301" ≠ String.singleton c := by
  intro draft
  obtain ⟨layout, built, cedilla, table, layer, typesE, found⟩ :
      ∃ layout, draft.build.value = .ok layout ∧ layout.isDeadKey "default" "¸" = true ∧
        ∃ table, layout.layer? "default" = some table ∧ table.get? "KeyE" = some "é" ∧
          layout.transforms.root.lookup ["¸", String.singleton 'é'] = some (.leaf "ȩ\u0301") :=
    ⟨_, rfl, by decide +kernel, _, rfl, by decide +kernel, by decide +kernel⟩
  refine ⟨layout, built, rfl, rfl, ⟨"default", cedilla⟩,
    ⟨by decide +kernel, "default", table, "KeyE", layer, typesE⟩, found, ?_⟩
  intro c heq
  have hlength := congrArg String.length heq
  rw [String.length_singleton] at hlength
  exact absurd hlength (by decide)

end LayoutDraft

end DeadKeys
