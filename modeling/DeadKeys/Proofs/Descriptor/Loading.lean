import DeadKeys.Descriptor.Load
import DeadKeys.Proofs.Descriptor.Transforms
import DeadKeys.Proofs.Layout.Declared
import DeadKeys.Proofs.Layout.Derived

/-!
# Loading documents

A keyboard whose description makes sense comes down to a draft (`Keyboard.build_value`), and a
document that loads gives each of its keyboards the layout of this draft (`get?_of_loadInto`). The
transforms of a document never contradict each other, so the layout has them just as they are
written, next to what is derived.
-/

namespace DeadKeys.Descriptor

open Transform

/-! ## Building one keyboard -/

theorem exists_unknownDeriveMode {setting : Option DeriveSetting} {error : KeyboardError}
    (h : deriveMode setting = .error error) : ∃ name, error = .unknownDeriveMode name := by
  unfold deriveMode at h
  split at h
  · cases h
  · cases h
  · cases h
  · split at h
    · cases h
    · exact ⟨_, (Except.error.inj h).symm⟩

namespace Keyboard

/-- The draft of a keyboard with given entries and mode. -/
def draft (keyboard : Keyboard) (entries : List Entry) (mode : DeriveMode) : LayoutDraft :=
  LayoutDraft.ofDeclarations (Declaration.listing
    (keyboard.layers.entries.map fun layer =>
      (layer.1, layer.2.entries.filterMap fun key => key.2.map fun value => (key.1, value)))
    keyboard.deadKeys.entries entries keyboard.space.entries ++ [.derive mode])

variable {keyboard : Keyboard} {entries : List Entry} {mode : DeriveMode}

theorem transforms_draft : (keyboard.draft entries mode).transforms = entries := by
  rw [draft, LayoutDraft.transforms_ofDeclarations, List.filterMap_append,
    Declaration.entryOf?_listing]
  exact List.append_nil entries

theorem mode_draft : (keyboard.draft entries mode).mode = mode := by
  rw [draft, LayoutDraft.ofDeclarations_concat]
  rfl

/-- A keyboard is built from its draft, unless a transform or the mode makes no sense. -/
theorem build_value (keyboard : Keyboard) :
    keyboard.build.value =
      match keyboard.transforms.entries, deriveMode keyboard.derive with
      | .error error, _ => .error (.invalidTransform error)
      | .ok _, .error error => .error error
      | .ok entries, .ok mode => (keyboard.draft entries mode).build.value.mapError .layout := by
  rw [build, declarations]
  cases hentries : keyboard.transforms.entries with
  | error error => rfl
  | ok entries =>
    cases hmode : deriveMode keyboard.derive with
    | error error => rfl
    | ok mode =>
      -- the declarations are listed kind by kind in both
      show _ = (keyboard.draft entries mode).build.value.mapError KeyboardError.layout
      rw [draft, Declaration.listing, List.map_map]
      rfl

theorem build_eq_ok_iff {layout : Layout} :
    keyboard.build.value = .ok layout ↔
      ∃ entries mode, keyboard.transforms.entries = .ok entries ∧
        deriveMode keyboard.derive = .ok mode ∧
        (keyboard.draft entries mode).build.value = .ok layout := by
  rw [build_value]
  cases keyboard.transforms.entries with
  | error invalid => simp
  | ok entries =>
    cases deriveMode keyboard.derive with
    | error unknown => simp
    | ok mode =>
      cases hdraft : (keyboard.draft entries mode).build.value <;> simp [hdraft, Except.mapError]

/-- What can be wrong with a keyboard. Transforms that can be flattened also fit together. -/
theorem cases_build_error {error : KeyboardError} (h : keyboard.build.value = .error error) :
    (∃ invalid, error = .invalidTransform invalid) ∨ (∃ name, error = .unknownDeriveMode name) ∨
      ∃ name, error = .layout (.unknownPosition name) := by
  rw [build_value] at h
  cases hentries : keyboard.transforms.entries with
  | error invalid =>
    obtain rfl : .invalidTransform invalid = error := by simpa [hentries] using h
    exact .inl ⟨invalid, rfl⟩
  | ok entries =>
    cases hmode : deriveMode keyboard.derive with
    | error unknown =>
      obtain rfl : unknown = error := by simpa [hentries, hmode] using h
      exact .inr (.inl (exists_unknownDeriveMode hmode))
    | ok mode =>
      rw [hentries, hmode] at h
      obtain ⟨tree, hmerge, _⟩ := TransformObject.exists_tree_of_entries hentries
      have hdeclared : Tree.empty.mergeAll (keyboard.draft entries mode).transforms = .ok tree := by
        rw [transforms_draft, hmerge]
      cases hdraft : (keyboard.draft entries mode).build.value with
      | ok layout => simp [hdraft, Except.mapError] at h
      | error cause =>
        obtain rfl : .layout cause = error := by simpa [hdraft, Except.mapError] using h
        obtain ⟨name, rfl⟩ := LayoutDraft.exists_unknownPosition_of_build hdeclared hdraft
        exact .inr (.inr ⟨name, rfl⟩)

/-- The layout of a keyboard has all that its transforms have, and without derivation just that. -/
theorem exists_tree_of_build {layout : Layout} (h : keyboard.build.value = .ok layout) :
    ∃ tree, keyboard.transforms.IsTree tree ∧
      (deriveMode keyboard.derive = .ok .off → layout.transforms = tree) ∧
      ∀ path output, tree.root.outputAt? path = some output →
        layout.transforms.root.outputAt? path = some output := by
  obtain ⟨entries, mode, hentries, hmode, hbuild⟩ := build_eq_ok_iff.mp h
  obtain ⟨tree, hmerge, htree⟩ := TransformObject.exists_tree_of_entries hentries
  obtain ⟨layers, declared, _, hdeclared, rfl⟩ := LayoutDraft.build_eq_ok_iff.mp hbuild
  rw [transforms_draft] at hdeclared
  obtain rfl := Except.ok.inj (hmerge.symm.trans hdeclared)
  refine ⟨tree, htree, ?_, ?_⟩
  · intro hoff
    obtain rfl := Except.ok.inj (hmode.symm.trans hoff)
    exact LayoutDraft.complete_value_of_off mode_draft layers tree
  · intro path output hout
    show ((keyboard.draft entries mode).complete layers tree).value.root.outputAt? path = some output
    rw [LayoutDraft.complete_value]
    exact Tree.outputAt?_mergeFitting_of_some hout _

end Keyboard

/-! ## Building all keyboards -/

theorem loadInto_cons_value (store : LayoutStore) (id : String) (keyboard : Keyboard)
    (rest : Entries String Keyboard) :
    (loadInto store ((id, keyboard) :: rest)).value =
      match keyboard.build.value with
      | .error error => .error (.keyboard id error)
      | .ok layout => (loadInto (store.insert id layout) rest).value := by
  rw [loadInto, Logged.value_bind]
  cases keyboard.build.value <;> rfl

/-- A document does not load only if one of its keyboards cannot be built. -/
theorem exists_of_loadInto_eq_error {store : LayoutStore} {entries : Entries String Keyboard}
    {error : LoadError} (h : (loadInto store entries).value = .error error) :
    ∃ entry ∈ entries, ∃ cause, entry.2.build.value = .error cause ∧
      error = .keyboard entry.1 cause := by
  induction entries generalizing store with
  | nil => cases h
  | cons head rest ih =>
    rw [loadInto_cons_value] at h
    cases hbuild : head.2.build.value with
    | error cause =>
      obtain rfl : .keyboard head.1 cause = error := by simpa [hbuild] using h
      exact ⟨head, List.mem_cons_self, cause, hbuild, rfl⟩
    | ok layout =>
      rw [hbuild] at h
      obtain ⟨entry, hentry, hcause⟩ := ih h
      exact ⟨entry, List.mem_cons_of_mem head hentry, hcause⟩

/-- Loading keyboards leaves the layouts of other ids alone and gives each keyboard its layout. -/
theorem get?_of_loadInto {store result : LayoutStore} {entries : Entries String Keyboard}
    (hasc : entries.Ascending) (h : (loadInto store entries).value = .ok result) :
    (∀ id, entries.get? id = none → result.get? id = store.get? id) ∧
      ∀ id keyboard, entries.get? id = some keyboard →
        ∃ layout, keyboard.build.value = .ok layout ∧ result.get? id = some layout := by
  induction entries generalizing store with
  | nil =>
    obtain rfl : store = result := Except.ok.inj h
    refine ⟨fun _ _ => rfl, ?_⟩
    intro id keyboard hnone
    cases hnone
  | cons head rest ih =>
    have ⟨hhead, hrest⟩ := List.pairwise_cons.mp hasc
    rw [loadInto_cons_value] at h
    cases hbuild : head.2.build.value with
    | error cause => simp [hbuild] at h
    | ok layout =>
      rw [hbuild] at h
      obtain ⟨hothers, hkeyboards⟩ := ih hrest h
      refine ⟨?_, ?_⟩
      · intro id hid
        by_cases heq : id = head.1
        · simp [Entries.get?, heq] at hid
        · rw [Entries.get?, if_neg heq] at hid
          rw [hothers id hid, SortedMap.get?_insert, if_neg heq]
      · intro id keyboard hid
        by_cases heq : id = head.1
        · rw [Entries.get?, if_pos heq] at hid
          obtain rfl := Option.some.inj hid
          -- no later keyboard has the id of this one
          have hlater : Entries.get? id rest = none :=
            Entries.get?_eq_none_of_forall fun e he => heq ▸ hhead e he
          exact ⟨layout, hbuild, by rw [hothers id hlater, SortedMap.get?_insert, if_pos heq]⟩
        · rw [Entries.get?, if_neg heq] at hid
          exact hkeyboards id keyboard hid

/-! ## Loading a text -/

theorem load_value (text : String) :
    (load text).value =
      match readDocument text with
      | .error fault => .error (.json fault)
      | .ok document => (loadInto .empty document.entries).value := by
  rw [load]
  cases readDocument text <;> rfl

/-- The only error of a layout that a document can cause is an unknown position. Where the transforms
of a keyboard are texts and objects at every depth, they can be flattened and merged, and its layout
has a leaf wherever the document has a text and a level wherever it has an object. Without
derivation there is nothing else in it. -/
theorem load_keeps_transforms (text : String) :
    (∀ id error, (load text).value = .error (.keyboard id (.layout error)) →
      ∃ name, error = .unknownPosition name) ∧
    ∀ document, readDocument text = .ok document → ∀ id keyboard,
      document.get? id = some keyboard → keyboard.transforms.OnlyTransforms →
        (∃ entries tree, keyboard.transforms.entries = .ok entries ∧
          Tree.empty.mergeAll entries = .ok tree) ∧
        ∀ store, (load text).value = .ok store → ∃ layout, store.get? id = some layout ∧
          (deriveMode keyboard.derive = .ok .off →
            ∀ path,
              (∀ output, layout.transforms.root.lookup path = some (.leaf output) ↔
                keyboard.transforms.valueAt? path = some (.text output)) ∧
              ((∃ level, layout.transforms.root.lookup path = some (.branch level)) ↔
                ∃ members, keyboard.transforms.valueAt? path = some (.object members)) ∧
              (layout.transforms.root.lookup path = none ↔
                keyboard.transforms.valueAt? path = none)) ∧
          ∀ path,
            (∀ output, keyboard.transforms.valueAt? path = some (.text output) →
              layout.transforms.root.lookup path = some (.leaf output)) ∧
            ((∃ members, keyboard.transforms.valueAt? path = some (.object members)) →
              ∃ level, layout.transforms.root.lookup path = some (.branch level)) := by
  rw [load_value]
  constructor
  · intro id error herror
    cases hread : readDocument text with
    | error fault => simp [hread] at herror
    | ok document =>
      rw [hread] at herror
      obtain ⟨entry, _, cause, hbuild, heq⟩ := exists_of_loadInto_eq_error herror
      obtain ⟨_, rfl⟩ := LoadError.keyboard.inj heq
      rcases Keyboard.cases_build_error hbuild with ⟨_, h⟩ | ⟨_, h⟩ | ⟨name, h⟩
      · cases h
      · cases h
      · exact ⟨name, KeyboardError.layout.inj h⟩
  · intro document hread id keyboard hkeyboard honly
    obtain ⟨entries, tree, hflat, hmerge, _⟩ := honly.exists_tree
    refine ⟨⟨entries, tree, hflat, hmerge⟩, ?_⟩
    intro store hstore
    rw [hread] at hstore
    obtain ⟨layout, hbuild, hlayout⟩ :=
      (get?_of_loadInto document.ascending hstore).2 id keyboard hkeyboard
    obtain ⟨tree, htree, hoff, hgrows⟩ := Keyboard.exists_tree_of_build hbuild
    refine ⟨layout, hlayout, ?_, ?_⟩
    · intro hmode path
      rw [hoff hmode]
      exact ⟨htree.leaf path, htree.level path, htree.nothing path⟩
    · intro path
      refine ⟨?_, ?_⟩
      · intro output htext
        rw [← Level.outputAt?_eq_leaf_iff]
        exact hgrows path _ (Level.outputAt?_eq_leaf_iff.mpr ((htree.leaf path output).mpr htext))
      · intro hobject
        rw [← Level.outputAt?_eq_branch_iff]
        exact hgrows path _ (Level.outputAt?_eq_branch_iff.mpr ((htree.level path).mpr hobject))

/-- A document with a text and an empty object side by side below a dead key, which is registered
but derives nothing. -/
theorem load_keeps_transforms_circumflex :
    let text := "\x7b\"fr\": \x7b\"deadKeys\": \x7b\"default\": [\"^\"]\x7d, " ++
      "\"transforms\": \x7b\"^\": \x7b\"a\": \"â\", \"b\": \x7b\x7d\x7d\x7d\x7d\x7d"
    ∃ document keyboard store layout, readDocument text = .ok document ∧
      document.get? "fr" = some keyboard ∧ keyboard.transforms.OnlyTransforms ∧
      keyboard.transforms.entries = .ok [⟨["^", "a"], some "â"⟩, ⟨["^", "b"], none⟩] ∧
      (load text).value = .ok store ∧ store.get? "fr" = some layout ∧
      layout.transforms.root.lookup ["^", "a"] = some (.leaf "â") ∧
      (∃ level, layout.transforms.root.lookup ["^", "b"] = some (.branch level)) ∧
      layout.transforms.root.lookup ["^", "c"] = none := by
  intro text
  let declared : List Entry := [⟨["^", "a"], some "â"⟩, ⟨["^", "b"], none⟩]
  let root : Level := [("^", .branch [("a", .leaf "â"), ("b", .branch [])])]
  have described : ((readDocument text).toOption.bind (·.get? "fr")).map
      (fun keyboard => (keyboard.transforms.entries, deriveMode keyboard.derive)) =
        some (.ok declared, .ok .off) := by
    decide +kernel
  have flattened : (Tree.empty.mergeAll declared).map (·.root) = .ok root := by decide +kernel
  have loads : (load text).value.isOk = true := by decide +kernel
  cases read : readDocument text with
  | error fault => simp [read, Except.toOption] at described
  | ok document =>
    rw [read] at described
    obtain ⟨keyboard, found, facts⟩ := Option.map_eq_some_iff.mp described
    obtain ⟨flat, off⟩ := Prod.mk.inj facts
    have only : keyboard.transforms.OnlyTransforms :=
      TransformValue.onlyTransformsIn_of_entries flat
    -- what the document has at a path is told by the tree of its entries
    obtain ⟨tree, merged, same⟩ := TransformObject.exists_tree_of_entries flat
    rw [merged] at flattened
    have tells : tree.root = root := Except.ok.inj flattened
    cases loaded : (load text).value with
    | error error => simp [loaded, Except.isOk, Except.toBool] at loads
    | ok store =>
      obtain ⟨layout, kept, exactly, _⟩ :=
        ((load_keeps_transforms text).2 document read "fr" keyboard found only).2 store loaded
      refine ⟨document, keyboard, store, layout, rfl, found, only, flat, rfl, kept, ?_, ?_, ?_⟩
      · exact ((exactly off ["^", "a"]).1 "â").mpr ((same.leaf _ _).mp (by rw [tells]; rfl))
      · exact (exactly off ["^", "b"]).2.1.mpr ((same.level _).mp ⟨[], by rw [tells]; rfl⟩)
      · exact (exactly off ["^", "c"]).2.2.mpr ((same.nothing _).mp (by rw [tells]; rfl))

end DeadKeys.Descriptor
