import DeadKeys.Proofs.Layout.Extension

/-!
# What becomes of derived transforms

A derived transform gets into the tree, gives way to another text that is declared at its path, or
does not fit to what is declared and is skipped. `Derived.noted?` tells from the declared tree alone
what is noted about it. No derived transform stands in the way of another, so the records of a build
are these, one derived transform after the other (`LayoutDraft.foldlM_mergeDerived_records`).
-/

namespace DeadKeys

open Transform

/-! ## One derived transform -/

namespace Derivation

/-- What is noted about a derived transform beside a declared tree: nothing if it gets into the tree,
else that it gives way to another text, or why it does not fit. -/
def Derived.noted? (declared : Level) (derived : Derived) : Option Diagnostic :=
  match declared.lookup [derived.deadKey], declared.lookup derived.entry.path with
  | some (.leaf _), _ => some (.skippedDerived (.conflict [derived.deadKey] .leaf .branch))
  | _, some (.branch _) => some (.skippedDerived (.conflict derived.entry.path .branch .leaf))
  | _, some (.leaf text) =>
    if text = derived.text then none else some (.keptExplicit derived.entry.path)
  | _, none => none

/-- The three ways in which a derived transform may end, given the entries that are declared, the
tree that is built, and what is noted about the derived transform. -/
structure Derived.Ends (declared : List Entry) (built : Level) (derived : Derived)
    (noted : Option Diagnostic) : Prop where
  one_way : noted = none ∨ noted = some (.keptExplicit derived.entry.path) ∨
    ∃ error, noted = some (.skippedDerived error)
  merged_iff : noted = none ↔ built.lookup derived.entry.path = some (.leaf derived.text)
  kept_iff : noted = some (.keptExplicit derived.entry.path) ↔
    ∃ text, ⟨derived.entry.path, some text⟩ ∈ declared ∧ text ≠ derived.text
  skipped_iff : (∃ error, noted = some (.skippedDerived error)) ↔
    (∃ text, ⟨[derived.deadKey], some text⟩ ∈ declared) ∨
      Declares declared derived.entry.path none
  severity : ∀ record, noted = some record →
    record.severity = if record = .keptExplicit derived.entry.path then .debug else .warn

variable {level : Level} {derived : Derived}

theorem Derived.lookup_path (level : Level) (derived : Derived) :
    level.lookup derived.entry.path = (level.below derived.deadKey).get? derived.follower := by
  rw [derived.entry_eq]
  exact Level.lookup_cons _ _ (List.cons_ne_nil _ _)

/-- The record of a merge that fails for a derived transform. -/
def Derived.recordOf (derived : Derived) : MergeError → Diagnostic
  | .duplicate .. => .keptExplicit derived.entry.path
  | error => .skippedDerived error

/-- What is noted is what is wrong when the derived transform is merged. -/
theorem Derived.noted?_eq (level : Level) (derived : Derived) :
    derived.noted? level = (level.merge derived.entry).error.map derived.recordOf := by
  have hmerge : level.merge derived.entry =
      level.mergeAt (some derived.text) derived.deadKey [derived.follower] := by
    rw [derived.entry_eq]
    rfl
  rw [noted?, hmerge, derived.lookup_path, Level.lookup_singleton]
  cases hroot : level.get? derived.deadKey with
  | none =>
    rw [Level.mergeAt_cons _ (by simp [hroot]), Level.below_of_none hroot]
    rfl
  | some node =>
    cases node with
    | leaf text =>
      rw [Level.mergeAt_cons_of_leaf _ hroot]
      rfl
    | branch entries =>
      rw [Level.mergeAt_cons _ (by simp [hroot]), Level.below_of_get? hroot]
      simp only [Node.children, Level.mergeAt, Level.place]
      cases Entries.get? derived.follower entries with
      | none => rfl
      | some found =>
        cases found with
        | branch further => simp [MergeError.under, recordOf, derived.entry_eq]
        | leaf text =>
          by_cases hsame : text = derived.text
          · simp [hsame]
          · simp [hsame, MergeError.under, recordOf, derived.entry_eq]

theorem Derived.noted?_eq_none_iff : derived.noted? level = none ↔ level.Admits derived.entry := by
  rw [noted?_eq, Option.map_eq_none_iff, Level.error_merge_eq_none_iff]

/-- What is at the path of a derived transform is in the level of its dead key. -/
theorem Derived.lookup_deadKey_ne_leaf {node : Node}
    (h : level.lookup derived.entry.path = some node) (text : String) :
    level.lookup [derived.deadKey] ≠ some (.leaf text) := by
  intro hleaf
  rw [Level.lookup_singleton] at hleaf
  rw [derived.lookup_path, Level.below_of_get? hleaf] at h
  cases h

theorem Derived.noted?_of_leaf {text : String}
    (h : level.lookup derived.entry.path = some (.leaf text)) :
    derived.noted? level =
      if text = derived.text then none else some (.keptExplicit derived.entry.path) := by
  have hroot := lookup_deadKey_ne_leaf h
  rw [noted?, h]
  cases hget : level.lookup [derived.deadKey] with
  | none => rfl
  | some node =>
    cases node with
    | leaf other => exact absurd hget (hroot other)
    | branch entries => rfl

theorem Derived.noted?_of_branch {entries : Level}
    (h : level.lookup derived.entry.path = some (.branch entries)) :
    derived.noted? level = some (.skippedDerived (.conflict derived.entry.path .branch .leaf)) := by
  have hroot := lookup_deadKey_ne_leaf h
  rw [noted?, h]
  cases hget : level.lookup [derived.deadKey] with
  | none => rfl
  | some node =>
    cases node with
    | leaf other => exact absurd hget (hroot other)
    | branch further => rfl

theorem Derived.noted?_of_root_leaf {text : String}
    (h : level.lookup [derived.deadKey] = some (.leaf text)) :
    derived.noted? level = some (.skippedDerived (.conflict [derived.deadKey] .leaf .branch)) := by
  rw [noted?, h]

theorem Derived.noted?_of_free (hroot : ∀ text, level.lookup [derived.deadKey] ≠ some (.leaf text))
    (h : level.lookup derived.entry.path = none) : derived.noted? level = none := by
  rw [noted?, h]
  cases hget : level.lookup [derived.deadKey] with
  | none => rfl
  | some node =>
    cases node with
    | leaf text => exact absurd hget (hroot text)
    | branch entries => rfl

theorem Derived.noted?_eq_kept_iff :
    derived.noted? level = some (.keptExplicit derived.entry.path) ↔
      ∃ text, level.lookup derived.entry.path = some (.leaf text) ∧ text ≠ derived.text := by
  cases hpath : level.lookup derived.entry.path with
  | none =>
    by_cases hroot : ∃ text, level.lookup [derived.deadKey] = some (.leaf text)
    · obtain ⟨text, hleaf⟩ := hroot
      simp [noted?_of_root_leaf hleaf]
    · simp [noted?_of_free (not_exists.mp hroot) hpath]
  | some node =>
    cases node with
    | leaf text => simp [noted?_of_leaf hpath]
    | branch entries => simp [noted?_of_branch hpath]

theorem Derived.exists_noted?_eq_skipped_iff :
    (∃ error, derived.noted? level = some (.skippedDerived error)) ↔
      (∃ text, level.lookup [derived.deadKey] = some (.leaf text)) ∨
        ∃ entries, level.lookup derived.entry.path = some (.branch entries) := by
  cases hpath : level.lookup derived.entry.path with
  | none =>
    by_cases hroot : ∃ text, level.lookup [derived.deadKey] = some (.leaf text)
    · obtain ⟨text, hleaf⟩ := hroot
      simp [noted?_of_root_leaf hleaf, hleaf]
    · simpa [noted?_of_free (not_exists.mp hroot) hpath] using hroot
  | some node =>
    cases node with
    | leaf text => simpa [noted?_of_leaf hpath] using lookup_deadKey_ne_leaf hpath
    | branch entries => simp [noted?_of_branch hpath]

/-- A record about a derived transform says that it gives way or that it is skipped. -/
theorem Derived.cases_noted? (level : Level) (derived : Derived) :
    derived.noted? level = none ∨ derived.noted? level = some (.keptExplicit derived.entry.path) ∨
      ∃ error, derived.noted? level = some (.skippedDerived error) := by
  rw [noted?_eq]
  cases (level.merge derived.entry).error with
  | none => exact .inl rfl
  | some error =>
    cases error with
    | duplicate => exact .inr (.inl rfl)
    | conflict | emptyPath => exact .inr (.inr ⟨_, rfl⟩)

end Derivation

/-! ## One derived transform after the other -/

namespace LayoutDraft

open DeadKeys.Derivation

variable {tree : Tree}

theorem mergeDerived_records (tree : Tree) (derived : Derived) :
    (mergeDerived tree derived).records = (derived.noted? tree.root).toList := by
  have hnoted : derived.noted? tree.root = (tree.merge derived.entry).2.map derived.recordOf :=
    derived.noted?_eq tree.root
  rw [mergeDerived, hnoted]
  split
  case h_1 hmerge => rw [hmerge]; rfl
  case h_2 hmerge => rw [hmerge]; rfl
  case h_3 hother hmerge =>
    rw [hmerge]
    rename_i error
    cases error with
    | duplicate => exact absurd rfl (hother _ _ _)
    | conflict | emptyPath => rfl

/-- What is noted about a derived transform at its turn is what is noted at the start. -/
theorem noted?_mergeFitting {before : List Derived} {derived : Derived}
    (hdistinct : ∀ other ∈ before, other.entry.path ≠ derived.entry.path) :
    derived.noted? (tree.mergeFitting (before.map Derived.entry)).root =
      derived.noted? tree.root := by
  have herror : ((tree.mergeFitting (before.map Derived.entry)).merge derived.entry).2 =
      (tree.merge derived.entry).2 := by
    refine Tree.error_merge_mergeFitting length_of_mem_map_entry derived.length_path ?_
    intro entry hentry
    obtain ⟨other, hother, rfl⟩ := List.mem_map.mp hentry
    exact hdistinct other hother
  rw [derived.noted?_eq, derived.noted?_eq]
  exact congrArg (Option.map derived.recordOf) herror

/-- Merging derived transforms notes what there is to note about each of them, in their order. -/
theorem foldlM_mergeDerived_records {before rest : List Derived}
    (hdistinct : ((before ++ rest).map fun derived => derived.entry.path).Nodup) :
    (rest.foldlM mergeDerived (tree.mergeFitting (before.map Derived.entry))).records =
      rest.filterMap (Derived.noted? tree.root) := by
  -- those that are merged already go over to `before`, so that the tree is always known
  induction rest generalizing before with
  | nil => rfl
  | cons derived rest ih =>
    have hbefore : ∀ other ∈ before, other.entry.path ≠ derived.entry.path := by
      intro other hother heq
      rw [List.map_append, List.nodup_append] at hdistinct
      exact hdistinct.2.2 _ (List.mem_map_of_mem hother) _ (by simp) heq
    have hgrown : (mergeDerived (tree.mergeFitting (before.map Derived.entry)) derived).value =
        tree.mergeFitting ((before ++ [derived]).map Derived.entry) := by
      rw [mergeDerived_value, List.map_append, Tree.mergeFitting_append]
      rfl
    rw [List.foldlM_cons, Logged.records_bind, hgrown, mergeDerived_records,
      noted?_mergeFitting hbefore, ih (by simpa using hdistinct), List.filterMap_cons]
    cases derived.noted? tree.root <;> rfl

/-- Completing a tree notes what the derivation notes, and then what becomes of what it derives. -/
theorem complete_records (draft : LayoutDraft) (layers : SortedMap String KeyTable) (tree : Tree) :
    let derivation := derive draft.mode layers draft.deadKeys
      fun deadKey => (tree.root.get? deadKey).isSome
    (draft.complete layers tree).records =
      derivation.records ++ derivation.value.filterMap (Derived.noted? tree.root) := by
  intro derivation
  let layout : Layout := ⟨layers, draft.deadKeys, tree, draft.space⟩
  have hdistinct : ((([] : List Derived) ++ derivation.value).map
      fun derived => derived.entry.path).Nodup :=
    @nodup_derive draft.mode layout _
  rw [complete, Logged.records_bind]
  exact congrArg (derivation.records ++ ·) (foldlM_mergeDerived_records hdistinct)

end LayoutDraft

/-! ## What is built and what is noted -/

/-- The derivation for a layout, with roots where its tree has some. -/
def Layout.derivation (layout : Layout) (mode : DeriveMode) : Logged (List Derivation.Derived) :=
  Derivation.derive mode layout.layers layout.deadKeys
    fun deadKey => (layout.transforms.root.get? deadKey).isSome

namespace Layout

open DeadKeys.Derivation

variable {layout : Layout} {mode : DeriveMode} {derived : Derived}

/-- A derived transform is in the completed tree exactly if it fits into the tree before. -/
theorem lookup_completed_iff (hmem : derived ∈ (layout.derivation mode).value) :
    (layout.completed mode).transforms.root.lookup derived.entry.path = some (.leaf derived.text) ↔
      layout.transforms.root.Admits derived.entry := by
  rw [← Level.outputAt?_eq_leaf_iff, ← derived.output_entry]
  constructor
  · intro hout
    -- what is in the completed tree fits there, and so it did before
    have hfits : (layout.completed mode).transforms.root.Admits derived.entry :=
      Level.admits_of_outputAt? hout
    exact Tree.admits_of_admits_mergeFitting hfits
  · intro hadmits
    exact Tree.outputAt?_mergeFitting_of_admits length_of_mem_map_entry nodup_paths_derived
      (List.mem_map_of_mem hmem) hadmits

/-- Each derived transform ends in one of the three ways. -/
theorem ends_of_mem_derivation {declared : List Entry} (htells : layout.transforms.root.Tells declared)
    (hmem : derived ∈ (layout.derivation mode).value) :
    derived.Ends declared (layout.completed mode).transforms.root
      (derived.noted? layout.transforms.root) where
  one_way := derived.cases_noted? _
  merged_iff := by rw [Derived.noted?_eq_none_iff, lookup_completed_iff hmem]
  kept_iff := by
    simp only [Derived.noted?_eq_kept_iff, htells.lookup_eq_leaf_iff derived.path_ne_nil]
  skipped_iff := by
    rw [Derived.exists_noted?_eq_skipped_iff, htells.exists_lookup_eq_branch_iff derived.path_ne_nil]
    simp only [htells.lookup_eq_leaf_iff (List.cons_ne_nil _ _)]
  severity := by
    intro record hnoted
    rcases derived.cases_noted? layout.transforms.root with h | h | ⟨error, h⟩
    · cases h.symm.trans hnoted
    · obtain rfl := Option.some.inj (h.symm.trans hnoted)
      rw [if_pos rfl]
      rfl
    · obtain rfl := Option.some.inj (h.symm.trans hnoted)
      rfl

end Layout

namespace LayoutDraft

/-- Every derived transform is accounted for. Where the keys of a draft do not resolve, nothing is
built and nothing noted. Otherwise the derived transforms have distinct paths, each of them ends in
just one of three ways, and beside the records of the derivation the build notes just what becomes
of them, in their order. -/
theorem build_accounts_for_derived (draft : LayoutDraft)
    (consistent : Consistent draft.transforms) :
    (¬ draft.KeysResolve →
      (∃ error, draft.build.value = .error error) ∧ draft.build.records = []) ∧
    (draft.KeysResolve → ∃ plain full,
      (draft.setMode .off).build.value = .ok plain ∧ draft.build.value = .ok full ∧
        ((plain.derivation draft.mode).value.map fun derived => derived.entry.path).Nodup ∧
        draft.build.records = (plain.derivation draft.mode).records ++
          (plain.derivation draft.mode).value.filterMap
            (Derivation.Derived.noted? plain.transforms.root) ∧
        ∀ derived ∈ (plain.derivation draft.mode).value,
          derived.Ends draft.transforms full.transforms.root
            (derived.noted? plain.transforms.root)) := by
  constructor
  · intro unresolved
    obtain ⟨_, _, _, _, _, hlayers⟩ := exists_key_of_not_keysResolve unresolved
    exact ⟨⟨_, build_of_layers_error hlayers⟩, build_records_of_layers_error hlayers⟩
  · intro keys
    obtain ⟨layers, hlayers⟩ := keys.exists_layers
    obtain ⟨tree, hmerge⟩ := Tree.exists_mergeAll_eq_ok_iff.mpr consistent
    have htells : tree.root.Tells draft.transforms := Tree.tells_of_mergeAll hmerge
    have hplain : (draft.setMode .off).build.value =
        .ok ⟨layers, draft.deadKeys, tree, draft.space⟩ :=
      build_off_eq_ok_iff.mpr ⟨layers, tree, hlayers, hmerge, rfl⟩
    have hfull : (draft.setMode draft.mode).build.value =
        .ok (Layout.completed ⟨layers, draft.deadKeys, tree, draft.space⟩ draft.mode) :=
      build_setMode_eq_ok_iff.mpr ⟨_, hplain, rfl⟩
    refine ⟨_, _, hplain, hfull, Derivation.nodup_derive, ?_, ?_⟩
    · exact (build_records_of_ok hlayers hmerge).trans (draft.complete_records layers tree)
    · intro derived hmem
      exact Layout.ends_of_mem_derivation htells hmem

/-- One accent gets into the tree. Another gives way to the text that is declared for it, a third
would lie over a level, and those of the acute would lie behind a leaf. -/
theorem build_accounts_for_derived_accents :
    let draft := ofDeclarations [.layer "default" [("C01", "a"), ("C02", "e")],
      .deadKeys "default" ["^", "´", "¨"], .transform ["^", "a"] "@", .branch ["¨", "a"],
      .transform ["´"] "'", .derive .composable]
    draft.KeysResolve ∧ Consistent draft.transforms ∧
      ∃ plain full, draft.build.value = .ok full ∧
        full.transforms.root.lookup ["^", "e"] = some (.leaf "ê") ∧
        draft.build.records = (Layout.derivation plain .composable).records ++
          [.keptExplicit ["^", "a"], .skippedDerived (.conflict ["¨", "a"] .branch .leaf),
            .skippedDerived (.conflict ["´"] .leaf .branch),
            .skippedDerived (.conflict ["´"] .leaf .branch)] := by
  intro draft
  have keys : draft.KeysResolve := by decide +kernel
  have consistent : Consistent draft.transforms := by decide +kernel
  obtain ⟨plain, full, built, completed, _, records, ends⟩ :=
    (build_accounts_for_derived draft consistent).2 keys
  let circumflex := Derivation.Derived.withLetter "^" 'e' "ê"
  obtain ⟨same, found, noted, derived, merged⟩ : ∃ same,
      (draft.setMode .off).build.value = .ok same ∧
        (Layout.derivation same .composable).value.filterMap
            (Derivation.Derived.noted? same.transforms.root) =
          [.keptExplicit ["^", "a"], .skippedDerived (.conflict ["¨", "a"] .branch .leaf),
            .skippedDerived (.conflict ["´"] .leaf .branch),
            .skippedDerived (.conflict ["´"] .leaf .branch)] ∧
        circumflex ∈ (Layout.derivation same .composable).value ∧
        circumflex.noted? same.transforms.root = none :=
    ⟨_, rfl, by decide +kernel, by decide +kernel, by decide +kernel⟩
  obtain rfl : same = plain := Except.ok.inj (found.symm.trans built)
  exact ⟨keys, consistent, same, full, completed, (ends circumflex derived).merged_iff.mp merged,
    records.trans (congrArg _ noted)⟩

end LayoutDraft

end DeadKeys
