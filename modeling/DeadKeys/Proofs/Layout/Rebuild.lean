import DeadKeys.Proofs.Layout.Extension
import DeadKeys.Proofs.Layout.KeyTables
import DeadKeys.Proofs.Transform.Enumeration
import Mathlib.Data.List.Basic

/-!
# Layouts rebuild to themselves

A layout can be declared again, part by part. Nothing is left to do for the second build: codes stand
for themselves and no value is empty (`Layout.Settled`), the entries of the tree merge to the tree,
and a derivation that was made adds nothing when it is made again (`Layout.completed_completed`).
-/

namespace DeadKeys

open Transform

/-! ## Settled keys -/

namespace LayoutDraft

/-- Keys that stand for themselves are not changed. -/
theorem resolveKeys_of_codes {keys : List (String × String)}
    (h : ∀ key ∈ keys, Key.resolve? key.1 = some key.1) :
    resolveKeys keys = .ok (SortedMap.ofList keys) := by
  induction keys using List.reverseRecOn with
  | nil => rfl
  | append_singleton keys last ih =>
    have hkeys := ih fun key hkey => h key (List.mem_append_left _ hkey)
    have hlast := h last (List.mem_append_right keys (List.mem_singleton_self last))
    refine resolveKeys_concat_eq_ok_iff.mpr ⟨_, last.1, hkeys, hlast, ?_⟩
    simp [SortedMap.ofList]

/-- A settled table is the table of its own pairs. -/
theorem resolveKeys_entries {table : KeyTable} (h : KeyTable.Settled table) :
    resolveKeys table.entries = .ok table := by
  rw [resolveKeys_of_codes, SortedMap.ofList_entries]
  intro key hkey
  exact (h key.1 key.2 (SortedMap.get?_eq_some_iff.mpr hkey)).1

end LayoutDraft

/-- All tables of the layout can be declared as they are. -/
def Layout.Settled (layout : Layout) : Prop :=
  ∀ name table, layout.layers.get? name = some table → KeyTable.Settled table

theorem LayoutDraft.settled_of_build {declarations : List Declaration} {layout : Layout}
    (h : (ofDeclarations declarations).build.value = .ok layout) : layout.Settled := by
  intro name table htable
  exact settled_of_layer? h htable

/-! ## Declaring a layout -/

namespace Layout

/-- The declarations that a layout comes to: its layers with their keys, its sets of dead keys, the
leaves and empty levels of its tree, and its space texts. -/
def declarations (layout : Layout) : List Declaration :=
  Declaration.listing (layout.layers.entries.map fun layer => (layer.1, layer.2.entries))
    (layout.deadKeys.entries.map fun layer => (layer.1, SortedSet.toList layer.2))
    layout.transforms.root.toEntries layout.space.entries

variable (layout : Layout)

theorem layers_declarations (h : layout.Settled) (name : String) :
    (LayoutDraft.ofDeclarations layout.declarations).layers.get? name =
      (layout.layers.get? name).map SortedMap.entries := by
  have hkeys : layout.declarations.flatMap (Declaration.keysFor name) =
      ((layout.layers.get? name).map fun table => table.entries.filter (·.2 ≠ "")).getD [] := by
    rw [declarations, Declaration.keysFor_listing, List.flatMap_map]
    exact Entries.flatMap_of_key layout.layers.ascending name
      fun table => table.entries.filter (·.2 ≠ "")
  have hmentions : (∃ declaration ∈ layout.declarations, declaration.keyLayer? = some name) ↔
      ∃ table, layout.layers.get? name = some table := by
    rw [declarations, Declaration.keyLayer?_listing]
    simp [SortedMap.get?_eq_some_iff]
  rw [LayoutDraft.layers_ofDeclarations, hkeys]
  cases hlayer : layout.layers.get? name with
  | none => simp [hmentions, hlayer]
  | some table =>
    have hfilter : table.entries.filter (·.2 ≠ "") = table.entries := by
      refine List.filter_eq_self.mpr ?_
      intro key hkey
      have hvalue := (h name table hlayer key.1 key.2 (SortedMap.get?_eq_some_iff.mpr hkey)).2
      exact decide_eq_true hvalue
    rw [if_pos (hmentions.mpr ⟨table, hlayer⟩), Option.map_some, Option.getD_some, hfilter,
      Option.map_some]

theorem deadKeys_declarations :
    (LayoutDraft.ofDeclarations layout.declarations).deadKeys = layout.deadKeys := by
  refine SortedMap.ext_get? ?_
  intro name
  have hvalues : layout.declarations.flatMap (Declaration.deadKeysFor name) =
      ((layout.deadKeys.get? name).map SortedSet.toList).getD [] := by
    rw [declarations, Declaration.deadKeysFor_listing, List.flatMap_map]
    exact Entries.flatMap_of_key layout.deadKeys.ascending name SortedSet.toList
  have hmentions : (∃ declaration ∈ layout.declarations, declaration.deadKeyLayer? = some name) ↔
      ∃ values, layout.deadKeys.get? name = some values := by
    rw [declarations, Declaration.deadKeyLayer?_listing]
    simp [SortedMap.get?_eq_some_iff]
  rw [LayoutDraft.deadKeys_ofDeclarations, hvalues]
  cases hlayer : layout.deadKeys.get? name with
  | none => simp [hmentions, hlayer]
  | some values => simp [hmentions, hlayer, SortedSet.ofList_toList]

theorem transforms_declarations :
    (LayoutDraft.ofDeclarations layout.declarations).transforms =
      layout.transforms.root.toEntries := by
  rw [LayoutDraft.transforms_ofDeclarations, declarations, Declaration.entryOf?_listing]

theorem space_declarations :
    (LayoutDraft.ofDeclarations layout.declarations).space = layout.space := by
  refine SortedMap.ext_get? ?_
  intro name
  have htexts : layout.declarations.filterMap (Declaration.spaceFor? name) =
      (layout.space.get? name).toList := by
    rw [declarations, Declaration.spaceFor?_listing, List.filterMap_eq_flatMap_toList]
    simp only [apply_ite Option.toList, Option.toList_some, Option.toList_none]
    rw [Entries.flatMap_of_key layout.space.ascending name fun text => [text], SortedMap.get?]
    cases layout.space.entries.get? name <;> rfl
  rw [LayoutDraft.space_ofDeclarations, htexts]
  cases layout.space.get? name <;> rfl

end Layout

/-! ## Deriving again -/

namespace Layout

theorem outputAt?_completed_of_some {layout : Layout} {mode : DeriveMode} {path : List String}
    {output : Option String} (h : layout.transforms.root.outputAt? path = some output) :
    (layout.completed mode).transforms.root.outputAt? path = some output :=
  Tree.outputAt?_mergeFitting_of_some h _

theorem outputAt?_of_completed {layout : Layout} {mode : DeriveMode} {path : List String}
    (h : (layout.completed mode).transforms.root.outputAt? path = none) :
    layout.transforms.root.outputAt? path = none := by
  cases hout : layout.transforms.root.outputAt? path with
  | none => rfl
  | some output =>
    rw [outputAt?_completed_of_some hout] at h
    cases h

/-- What is derived for the completed layout was derived for the layout as well. -/
theorem Derives.of_completed {layout : Layout} {mode : DeriveMode} {path : List String}
    {output : Option String} (h : (layout.completed mode).Derives mode path output) :
    layout.Derives mode path output := by
  have habsent : ∀ value, (layout.completed mode).transforms.root.lookup [value] = none →
      layout.transforms.root.lookup [value] = none := by
    intro value hnone
    rw [← Level.outputAt?_eq_none_iff] at hnone ⊢
    exact outputAt?_of_completed hnone
  -- dead keys and layers are the same, so only the conditions on the tree are to be shown
  cases h with
  | level hregistered hnone => exact .level hregistered (habsent _ hnone)
  | withSpace hregistered hnone => exact .withSpace hregistered (habsent _ hnone)
  | withLetter hregistered hopen htyped hchanges =>
    refine .withLetter hregistered ?_ htyped hchanges
    intro text hleaf
    rw [← Level.outputAt?_eq_leaf_iff] at hleaf
    exact hopen text (Level.outputAt?_eq_leaf_iff.mp (outputAt?_completed_of_some hleaf))

theorem completed_of_off (layout : Layout) : layout.completed .off = layout := rfl

/-- A derivation adds nothing to what it has completed. -/
theorem completed_completed (layout : Layout) (mode : DeriveMode) :
    (layout.completed mode).completed mode = layout.completed mode := by
  by_cases hmode : mode = .off
  · rw [hmode, completed_of_off, completed_of_off]
  · have htree : ((layout.completed mode).completed mode).transforms =
        (layout.completed mode).transforms := by
      refine Tree.ext_outputAt? ?_
      intro path
      refine Option.ext ?_
      intro output
      refine (outputAt?_completed_iff hmode).trans ?_
      constructor
      · rintro (hbefore | ⟨hfree, hderives⟩)
        · exact hbefore
        · -- it would have been derived the first time already
          have hfirst := outputAt?_of_completed hfree
          exact (outputAt?_completed_iff hmode).mpr (.inr ⟨hfirst, hderives.of_completed⟩)
      · intro hbefore
        exact .inl hbefore
    exact congrArg (fun tree => { layout with transforms := tree }) htree

end Layout

/-! ## Building again -/

namespace LayoutDraft

/-- Declared again, a settled layout builds to itself as long as nothing is derived. -/
theorem build_declarations_off {layout : Layout} (h : layout.Settled) :
    ((ofDeclarations layout.declarations).setMode .off).build.value = .ok layout := by
  refine build_off_eq_ok_iff.mpr ⟨layout.layers, layout.transforms, ?_, ?_, ?_⟩
  · refine SortedMap.tryMap_eq_ok_iff_get?.mpr ?_
    intro name
    rw [layout.layers_declarations h name]
    cases hlayer : layout.layers.get? name with
    | none => rfl
    | some table =>
      rw [Option.map_some, Option.map_some, Option.map_some,
        resolveKeys_entries (h name table hlayer)]
  · rw [layout.transforms_declarations]
    exact Tree.mergeAll_toEntries layout.transforms
  · rw [layout.deadKeys_declarations, layout.space_declarations]

/-- A layout that is built from declarations is built again from its own, with or without the same
derivation. -/
theorem build_declarations {declarations : List Declaration} {layout : Layout}
    (built : (ofDeclarations declarations).build.value = .ok layout) :
    (ofDeclarations (layout.declarations ++ [.derive .off])).build.value = .ok layout ∧
      (ofDeclarations (layout.declarations ++
        [.derive (ofDeclarations declarations).mode])).build.value = .ok layout := by
  have hsettled : layout.Settled := settled_of_build built
  have hoff := build_declarations_off hsettled
  refine ⟨?_, ?_⟩
  · rw [ofDeclarations_concat]
    exact hoff
  · rw [ofDeclarations_concat]
    refine build_setMode_eq_ok_iff.mpr ⟨layout, hoff, ?_⟩
    -- the layout is complete already
    obtain ⟨plain, _, hcompleted⟩ := build_setMode_eq_ok_iff.mp built
    have hagain := plain.completed_completed (ofDeclarations declarations).mode
    rw [show plain.completed (ofDeclarations declarations).mode = layout from hcompleted.symm]
      at hagain
    exact hagain.symm

/-- A position, an empty value, a layer without keys, an empty set of dead keys, an empty level, an
empty text for the space bar, and a dead key that derives its accents. -/
theorem build_declarations_circumflex :
    let declarations : List Declaration := [.layer "default" [("C01", "a"), ("C02", "")],
      .layer "shift" [], .deadKeys "default" ["^"], .deadKeys "shift" [], .branch ["´"],
      .transform ["^", " "] "^", .space "shift" "", .derive .composable]
    ∃ layout, (ofDeclarations declarations).build.value = .ok layout ∧
      layout.transforms.root.lookup ["^", "a"] = some (.leaf "â") ∧
      (ofDeclarations (layout.declarations ++ [.derive .off])).build.value = .ok layout ∧
      (ofDeclarations (layout.declarations ++ [.derive .composable])).build.value = .ok layout := by
  intro declarations
  obtain ⟨layout, built, accent⟩ : ∃ layout, (ofDeclarations declarations).build.value = .ok layout ∧
      layout.transforms.root.lookup ["^", "a"] = some (.leaf "â") :=
    ⟨_, rfl, by decide +kernel⟩
  exact ⟨layout, built, accent, build_declarations built⟩

end LayoutDraft

end DeadKeys
