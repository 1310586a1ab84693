import DeadKeys.Proofs.Layout.Build
import DeadKeys.Proofs.Transform.Clash

/-!
# Validation of declared transforms

Without derivation, a draft builds exactly if its transforms are consistent, and looking up a path
in the layout gives exactly what is declared there. Otherwise the draft reports the first entry that
does not go with those before it, after any key that stands for no code.
-/

namespace DeadKeys.LayoutDraft

open Transform

/-! ## What is built -/

/-- A draft whose keys resolve and that derives nothing builds exactly if its entries are
consistent. The tree of the layout then holds exactly the declared leaves, and as levels exactly the
declared ones and those on the way to an entry; there is nothing else in it. -/
theorem build_validates_exactly (draft : LayoutDraft) (keys : draft.KeysResolve)
    (off : draft.mode = .off) :
    ((∃ layout, draft.build.value = .ok layout) ↔ Consistent draft.transforms) ∧
      ∀ layout, draft.build.value = .ok layout → ∀ path, path ≠ [] →
        (∀ text, layout.transforms.root.lookup path = some (.leaf text) ↔
          ⟨path, some text⟩ ∈ draft.transforms) ∧
        ((∃ level, layout.transforms.root.lookup path = some (.branch level)) ↔
          ⟨path, none⟩ ∈ draft.transforms ∨
            ∃ entry ∈ draft.transforms, path <+: entry.path ∧ path ≠ entry.path) ∧
        (layout.transforms.root.lookup path = none ↔
          ¬ ∃ entry ∈ draft.transforms, path <+: entry.path) := by
  obtain ⟨layers, hlayers⟩ := keys.exists_layers
  constructor
  · rw [← Tree.exists_mergeAll_eq_ok_iff]
    constructor
    · rintro ⟨layout, hbuild⟩
      obtain ⟨_, tree, _, hmerge, _⟩ := build_eq_ok_iff.mp hbuild
      exact ⟨tree, hmerge⟩
    · rintro ⟨tree, hmerge⟩
      exact ⟨_, build_eq_ok_iff.mpr ⟨layers, tree, hlayers, hmerge, rfl⟩⟩
  · intro layout hbuild path hpath
    obtain ⟨_, tree, _, hmerge, rfl⟩ := build_eq_ok_iff.mp hbuild
    rw [complete_value_of_off off]
    have htells : tree.root.Tells draft.transforms := Tree.tells_of_mergeAll hmerge
    refine ⟨?_, ?_, ?_⟩
    · intro text
      exact htells.lookup_eq_leaf_iff hpath
    · rw [htells.exists_lookup_eq_branch_iff hpath, Declares]
      simp
    · rw [← Level.outputAt?_eq_none_iff, Option.eq_none_iff_forall_ne_some]
      constructor
      · rintro hnone ⟨entry, hentry, hpre⟩
        by_cases hplace : path = entry.path
        · exact hnone entry.output ((htells path hpath _).mpr (.inl (hplace ▸ hentry)))
        · exact hnone none ((htells path hpath _).mpr (.inr ⟨rfl, entry, hentry, hpre, hplace⟩))
      · intro habsent output hout
        rcases (htells path hpath output).mp hout with hmem | ⟨_, entry, hentry, hpre, _⟩
        · exact habsent ⟨_, hmem, List.prefix_rfl⟩
        · exact habsent ⟨entry, hentry, hpre⟩

/-- A level that is declared twice, once by an entry further down, with an empty level beside it. -/
theorem build_validates_exactly_circumflex :
    let draft := ofDeclarations [.key "default" "C01" "a", .transform ["^", "a"] "â",
      .branch ["^"], .branch ["^", "^"], .transform ["^", "a"] "â"]
    draft.KeysResolve ∧ draft.mode = .off ∧ (∃ layout, draft.build.value = .ok layout) ∧
      ∀ layout, draft.build.value = .ok layout →
        layout.transforms.root.lookup ["^", "a"] = some (.leaf "â") ∧
          layout.transforms.root.lookup ["^", "b"] = none := by
  intro draft
  have keys : draft.KeysResolve := by decide +kernel
  have consistent : Consistent draft.transforms := by decide +kernel
  obtain ⟨succeeds, finds⟩ := build_validates_exactly draft keys rfl
  refine ⟨keys, rfl, succeeds.mpr consistent, ?_⟩
  intro layout built
  refine ⟨((finds layout built ["^", "a"] (by decide)).1 "â").mpr (by decide +kernel), ?_⟩
  exact (finds layout built ["^", "b"] (by decide)).2.2.mpr (by decide +kernel)

/-! ## The first clash -/

/-- With all keys resolved, a build fails exactly with the clash of the first entry that does not go
with those before it. -/
theorem KeysResolve.build_eq_error_iff {draft : LayoutDraft} (keys : draft.KeysResolve)
    {error : LayoutError} :
    draft.build.value = .error error ↔
      ∃ before entry after clash, draft.transforms = before ++ entry :: after ∧
        Consistent before ∧ entry.ClashesWith before clash ∧ error = .transform clash := by
  obtain ⟨layers, hlayers⟩ := keys.exists_layers
  have hfirst : ∀ {clash}, Tree.empty.mergeAll draft.transforms = .error clash ↔
      ∃ before entry after, draft.transforms = before ++ entry :: after ∧
        Consistent before ∧ entry.ClashesWith before clash :=
    Tree.mergeAll_eq_error_iff Tree.tells_empty consistent_nil
  constructor
  · intro h
    cases hmerge : Tree.empty.mergeAll draft.transforms with
    | ok tree =>
      rw [LayoutDraft.build_eq_error_iff hmerge, hlayers] at h
      cases h
    | error clash =>
      rw [build_of_mergeAll_error hlayers hmerge] at h
      obtain ⟨before, entry, after, hsplit, hconsistent, hclash⟩ := hfirst.mp hmerge
      exact ⟨before, entry, after, clash, hsplit, hconsistent, hclash, (Except.error.inj h).symm⟩
  · rintro ⟨before, entry, after, clash, hsplit, hconsistent, hclash, rfl⟩
    exact build_of_mergeAll_error hlayers
      (hfirst.mpr ⟨before, entry, after, hsplit, hconsistent, hclash⟩)

/-- A draft with a key that stands for no code reports such a key, whatever its transforms are.
Otherwise, if its transforms are not consistent, there is a first entry that does not go with those
before it, and the draft reports what is wrong with it: nothing else is. -/
theorem build_reports_first_clash (draft : LayoutDraft) :
    (¬ draft.KeysResolve →
      ∃ layer ∈ draft.layers.entries, ∃ key ∈ layer.2, Key.resolve? key.1 = none ∧
        draft.build.value = .error (.unknownPosition key.1)) ∧
    (draft.KeysResolve → ¬ Consistent draft.transforms →
      ∃ before entry after error, draft.transforms = before ++ entry :: after ∧
        Consistent before ∧ ¬ Consistent (before ++ [entry]) ∧
        draft.build.value = .error (.transform error) ∧
        ∀ other, entry.ClashesWith before other ↔ other = error) := by
  constructor
  · intro unresolved
    obtain ⟨layer, hlayer, key, hkey, hnone, herror⟩ := exists_key_of_not_keysResolve unresolved
    exact ⟨layer, hlayer, key, hkey, hnone, build_of_layers_error herror⟩
  · intro keys inconsistent
    cases hbuild : draft.build.value with
    | ok layout =>
      obtain ⟨_, tree, _, hmerge, _⟩ := build_eq_ok_iff.mp hbuild
      exact absurd (Tree.exists_mergeAll_eq_ok_iff.mp ⟨tree, hmerge⟩) inconsistent
    | error failure =>
      obtain ⟨before, entry, after, clash, hsplit, hconsistent, hclash, rfl⟩ :=
        keys.build_eq_error_iff.mp hbuild
      have hlast := (Entry.exists_clashesWith_iff hconsistent).mp ⟨clash, hclash⟩
      refine ⟨before, entry, after, clash, hsplit, hconsistent, hlast, rfl, ?_⟩
      intro other
      constructor
      · intro hother
        exact hother.unique hconsistent hclash
      · rintro rfl
        exact hclash

/-- The third transform leads through the leaf of the first, and the fourth, which has no path, is
never looked at; a wrong key is reported before any of them. -/
theorem build_reports_first_clash_circumflex :
    let transforms : List Declaration := [.transform ["^", "a"] "â", .branch ["^"],
      .transform ["^", "a", "b"] "b", .transform [] "c"]
    let draft := ofDeclarations transforms
    let unresolved := ofDeclarations (.key "default" "E99" "a" :: transforms)
    let clash := MergeError.conflict ["^", "a"] .leaf .branch
    draft.KeysResolve ∧ ¬ Consistent draft.transforms ∧
      draft.build.value = .error (.transform clash) ∧
      (∃ before entry after, draft.transforms = before ++ entry :: after ∧ Consistent before ∧
        ∀ other, entry.ClashesWith before other ↔ other = clash) ∧
      ¬ unresolved.KeysResolve ∧ ∃ name, unresolved.build.value = .error (.unknownPosition name) := by
  intro transforms draft unresolved clash
  have keys : draft.KeysResolve := by decide +kernel
  have inconsistent : ¬ Consistent draft.transforms := by decide +kernel
  have wrong : ¬ unresolved.KeysResolve := by decide +kernel
  have built : draft.build.value = .error (.transform clash) := by decide +kernel
  obtain ⟨before, entry, after, error, split, consistent, _, reported, only⟩ :=
    (build_reports_first_clash draft).2 keys inconsistent
  obtain rfl : error = clash := by simpa using reported.symm.trans built
  obtain ⟨_, _, key, _, _, unknown⟩ := (build_reports_first_clash unresolved).1 wrong
  exact ⟨keys, inconsistent, built, ⟨before, entry, after, split, consistent, only⟩, wrong,
    key.1, unknown⟩

end DeadKeys.LayoutDraft
