import DeadKeys.Layout.Draft
import Mathlib.Data.List.Induction

/-!
# Steps of a build

A build resolves keys, merges the declared transforms and lets derived transforms fill in. It
succeeds exactly if the first two steps do (`LayoutDraft.build_eq_ok_iff`); the third cannot fail.
-/

namespace DeadKeys.LayoutDraft

/-- Every declared key stands for a physical code. -/
def KeysResolve (draft : LayoutDraft) : Prop :=
  ∀ layer ∈ draft.layers.entries, ∀ key ∈ layer.2, Key.resolve? key.1 ≠ none

instance (draft : LayoutDraft) : Decidable draft.KeysResolve :=
  inferInstanceAs (Decidable (∀ layer ∈ draft.layers.entries, ∀ key ∈ layer.2,
    Key.resolve? key.1 ≠ none))

/-- One key more is resolved after the others. -/
theorem resolveKeys_concat (keys : List (String × String)) (key : String × String) :
    resolveKeys (keys ++ [key]) =
      (resolveKeys keys).bind fun table =>
        match Key.resolve? key.1 with
        | some code => .ok (table.insert code key.2)
        | none => .error (.unknownPosition key.1) := by
  rw [resolveKeys, List.foldlM_append, ← resolveKeys]
  cases hbefore : resolveKeys keys with
  | error error => rfl
  | ok table =>
    cases hcode : Key.resolve? key.1 with
    | none => simp [hcode, Bind.bind, Except.bind]
    | some code => simp [hcode, Bind.bind, Except.bind, pure, Except.pure]

theorem resolveKeys_concat_eq_ok_iff {keys : List (String × String)} {key : String × String}
    {table : KeyTable} :
    resolveKeys (keys ++ [key]) = .ok table ↔
      ∃ before code, resolveKeys keys = .ok before ∧ Key.resolve? key.1 = some code ∧
        before.insert code key.2 = table := by
  rw [resolveKeys_concat]
  cases resolveKeys keys with
  | error error => simp [Except.bind]
  | ok before => cases Key.resolve? key.1 <;> simp [Except.bind]

/-- Keys that all stand for codes make a table. -/
theorem exists_resolveKeys_eq_ok {keys : List (String × String)}
    (h : ∀ key ∈ keys, Key.resolve? key.1 ≠ none) : ∃ table, resolveKeys keys = .ok table := by
  rw [resolveKeys]
  -- the loop over the keys ends well from any table
  generalize (SortedMap.empty : KeyTable) = start
  induction keys generalizing start with
  | nil => exact ⟨start, rfl⟩
  | cons key keys ih =>
    obtain ⟨hkey, hkeys⟩ := List.forall_mem_cons.mp h
    obtain ⟨name, value⟩ := key
    obtain ⟨code, hcode⟩ : ∃ code, Key.resolve? name = some code :=
      Option.ne_none_iff_exists'.mp hkey
    obtain ⟨table, htable⟩ := ih hkeys (start.insert code value)
    refine ⟨table, ?_⟩
    simp only [List.foldlM_cons, hcode]
    exact htable

/-- Every key of a table stands for a code. -/
theorem resolve?_ne_none_of_resolveKeys {keys : List (String × String)} {table : KeyTable}
    (h : resolveKeys keys = .ok table) : ∀ key ∈ keys, Key.resolve? key.1 ≠ none := by
  induction keys using List.reverseRecOn generalizing table with
  | nil => exact List.forall_mem_nil _
  | append_singleton keys last ih =>
    obtain ⟨before, code, hkeys, hlast, _⟩ := resolveKeys_concat_eq_ok_iff.mp h
    intro key hkey
    rcases List.mem_append.mp hkey with hkey | hkey
    · exact ih hkeys key hkey
    · rw [List.mem_singleton.mp hkey, hlast]
      exact Option.some_ne_none code

/-- Resolving keys fails with the first that stands for no code. -/
theorem resolveKeys_eq_error_iff_find? {keys : List (String × String)} {error : LayoutError} :
    resolveKeys keys = .error error ↔
      ∃ key, keys.find? (fun key => Key.resolve? key.1 = none) = some key ∧
        error = .unknownPosition key.1 := by
  rw [resolveKeys]
  -- the loop over the keys fails alike from any table
  generalize (SortedMap.empty : KeyTable) = start
  induction keys generalizing start with
  | nil => simp [pure, Except.pure]
  | cons key keys ih =>
    obtain ⟨name, value⟩ := key
    simp only [List.foldlM_cons]
    cases hcode : Key.resolve? name with
    | none => simp [hcode, bind, Except.bind, eq_comm]
    | some code => simpa [hcode, bind, Except.bind] using ih (start.insert code value)

theorem exists_key_of_resolveKeys {keys : List (String × String)} {error : LayoutError}
    (h : resolveKeys keys = .error error) :
    ∃ key ∈ keys, Key.resolve? key.1 = none ∧ error = .unknownPosition key.1 := by
  obtain ⟨key, hfound, herror⟩ := resolveKeys_eq_error_iff_find?.mp h
  exact ⟨key, List.mem_of_find?_eq_some hfound, by simpa using List.find?_some hfound, herror⟩

/-- Keys in the order of their names fail with the smallest that stands for no code. -/
theorem resolveKeys_eq_error_iff {keys : Entries String String} (h : keys.Ascending)
    {error : LayoutError} :
    resolveKeys keys = .error error ↔
      ∃ key, keys.IsFirst (fun key => Key.resolve? key.1 = none) key ∧
        error = .unknownPosition key.1 := by
  rw [resolveKeys_eq_error_iff_find?]
  simp only [Entries.isFirst_iff_find? h]

/-- The key tables of a draft whose keys all resolve. -/
theorem KeysResolve.exists_layers {draft : LayoutDraft} (h : draft.KeysResolve) :
    ∃ layers, draft.layers.tryMap resolveKeys = .ok layers :=
  SortedMap.exists_tryMap_eq_ok_iff.mpr
    fun layer hlayer => exists_resolveKeys_eq_ok (h layer hlayer)

/-- Where a key stands for no code, the tables of a draft fail with such a key. -/
theorem exists_key_of_not_keysResolve {draft : LayoutDraft} (h : ¬ draft.KeysResolve) :
    ∃ layer ∈ draft.layers.entries, ∃ key ∈ layer.2, Key.resolve? key.1 = none ∧
      draft.layers.tryMap resolveKeys = .error (.unknownPosition key.1) := by
  cases hlayers : draft.layers.tryMap resolveKeys with
  | ok layers =>
    refine absurd ?_ h
    intro layer hlayer
    obtain ⟨table, htable⟩ := SortedMap.exists_tryMap_eq_ok_iff.mp ⟨layers, hlayers⟩ layer hlayer
    exact resolve?_ne_none_of_resolveKeys htable
  | error error =>
    obtain ⟨layer, hlayer, hkeys⟩ :=
      Entries.exists_mem_of_tryMap_eq_error (SortedMap.tryMap_eq_error_iff.mp hlayers)
    obtain ⟨key, hkey, hnone, rfl⟩ := exists_key_of_resolveKeys hkeys
    exact ⟨layer, hlayer, key, hkey, hnone, rfl⟩

/-- A build succeeds exactly if all keys resolve and all declared transforms can be merged, and the
layout consists of what these steps give. -/
theorem build_eq_ok_iff {draft : LayoutDraft} {layout : Layout} :
    draft.build.value = .ok layout ↔
      ∃ layers tree, draft.layers.tryMap resolveKeys = .ok layers ∧
        Transform.Tree.empty.mergeAll draft.transforms = .ok tree ∧
        layout = ⟨layers, draft.deadKeys, (draft.complete layers tree).value, draft.space⟩ := by
  rw [build]
  cases draft.layers.tryMap resolveKeys with
  | error error => simp
  | ok layers =>
    cases Transform.Tree.empty.mergeAll draft.transforms with
    | error error => simp
    | ok tree =>
      simp only [Logged.value_bind, Logged.value_pure, Except.ok.injEq, exists_and_left]
      constructor
      · intro h
        exact ⟨layers, rfl, tree, rfl, h.symm⟩
      · rintro ⟨layers', rfl, tree', rfl, h⟩
        exact h.symm

/-- A build succeeds exactly if all keys resolve and all declared transforms can be merged. -/
theorem exists_build_eq_ok_iff {draft : LayoutDraft} :
    (∃ layout, draft.build.value = .ok layout) ↔
      (∃ layers, draft.layers.tryMap resolveKeys = .ok layers) ∧
        ∃ tree, Transform.Tree.empty.mergeAll draft.transforms = .ok tree := by
  constructor
  · rintro ⟨layout, hbuild⟩
    obtain ⟨layers, tree, hlayers, hmerge, _⟩ := build_eq_ok_iff.mp hbuild
    exact ⟨⟨layers, hlayers⟩, tree, hmerge⟩
  · rintro ⟨⟨layers, hlayers⟩, tree, hmerge⟩
    exact ⟨_, build_eq_ok_iff.mpr ⟨layers, tree, hlayers, hmerge, rfl⟩⟩

/-- Whatever the transforms are, a build fails with the keys if they fail. -/
theorem build_of_layers_error {draft : LayoutDraft} {error : LayoutError}
    (h : draft.layers.tryMap resolveKeys = .error error) : draft.build.value = .error error := by
  rw [build, h]
  rfl

/-- A build that fails with the keys notes nothing. -/
theorem build_records_of_layers_error {draft : LayoutDraft} {error : LayoutError}
    (h : draft.layers.tryMap resolveKeys = .error error) : draft.build.records = [] := by
  rw [build, h]
  rfl

/-- A build that succeeds notes what completing the tree notes. -/
theorem build_records_of_ok {draft : LayoutDraft} {layers : SortedMap String KeyTable}
    {tree : Transform.Tree} (hlayers : draft.layers.tryMap resolveKeys = .ok layers)
    (hmerge : Transform.Tree.empty.mergeAll draft.transforms = .ok tree) :
    draft.build.records = (draft.complete layers tree).records := by
  rw [build, hlayers]
  simp [hmerge]

/-- A build reports a position exactly if the keys fail with it, whatever the transforms are. -/
theorem build_eq_unknownPosition_iff {draft : LayoutDraft} {name : String} :
    draft.build.value = .error (.unknownPosition name) ↔
      draft.layers.tryMap resolveKeys = .error (.unknownPosition name) := by
  rw [build]
  cases draft.layers.tryMap resolveKeys with
  | error error => simp
  | ok layers => cases Transform.Tree.empty.mergeAll draft.transforms <;> simp

/-- With the keys resolved, a build fails with the transforms if they fail. -/
theorem build_of_mergeAll_error {draft : LayoutDraft} {layers : SortedMap String KeyTable}
    {error : Transform.MergeError} (hlayers : draft.layers.tryMap resolveKeys = .ok layers)
    (h : Transform.Tree.empty.mergeAll draft.transforms = .error error) :
    draft.build.value = .error (.transform error) := by
  rw [build, hlayers]
  simp [h]

/-- Where the declared transforms can be merged, a build fails exactly if resolving the keys does. -/
theorem build_eq_error_iff {draft : LayoutDraft} {tree : Transform.Tree} {error : LayoutError}
    (hmerge : Transform.Tree.empty.mergeAll draft.transforms = .ok tree) :
    draft.build.value = .error error ↔ draft.layers.tryMap resolveKeys = .error error := by
  rw [build]
  cases draft.layers.tryMap resolveKeys with
  | error failure => simp
  | ok layers => simp [hmerge]

/-- Where the declared transforms can be merged, only a key can be wrong. -/
theorem exists_unknownPosition_of_build {draft : LayoutDraft} {tree : Transform.Tree}
    {error : LayoutError} (hmerge : Transform.Tree.empty.mergeAll draft.transforms = .ok tree)
    (h : draft.build.value = .error error) : ∃ name, error = .unknownPosition name := by
  have hlayers := SortedMap.tryMap_eq_error_iff.mp ((build_eq_error_iff hmerge).mp h)
  obtain ⟨layer, _, hkeys⟩ := Entries.exists_mem_of_tryMap_eq_error hlayers
  obtain ⟨key, _, _, rfl⟩ := exists_key_of_resolveKeys hkeys
  exact ⟨key.1, rfl⟩

/-- Without derivation the declared tree is the whole tree. -/
theorem complete_value_of_off {draft : LayoutDraft} (h : draft.mode = .off)
    (layers : SortedMap String KeyTable) (tree : Transform.Tree) :
    (draft.complete layers tree).value = tree := by
  rw [complete, Derivation.derive, if_pos h]
  rfl

/-- A build without derivation gives just what is declared. -/
theorem build_off_eq_ok_iff {draft : LayoutDraft} {layout : Layout} :
    (draft.setMode .off).build.value = .ok layout ↔
      ∃ layers tree, draft.layers.tryMap resolveKeys = .ok layers ∧
        Transform.Tree.empty.mergeAll draft.transforms = .ok tree ∧
        layout = ⟨layers, draft.deadKeys, tree, draft.space⟩ := by
  rw [build_eq_ok_iff]
  have hcomplete : ∀ layers tree, ((draft.setMode .off).complete layers tree).value = tree :=
    complete_value_of_off rfl
  simp only [hcomplete]
  rfl

end DeadKeys.LayoutDraft
