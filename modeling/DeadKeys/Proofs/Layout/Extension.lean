import DeadKeys.Proofs.Layout.Derived

/-!
# Derivation as an extension

A derivation changes nothing that is declared: it only adds to the tree, and `Layout.Derives` says
what. A draft builds with a derivation exactly if it builds without.
-/

namespace DeadKeys

open Transform

namespace Layout

/-- What a derivation adds to a layout where nothing is declared, told as what is at a path. -/
inductive Derives (layout : Layout) (mode : DeriveMode) : List String → Option String → Prop
  /-- A registered dead key without a root gets a level. -/
  | level {deadKey : String} (registered : layout.Registers deadKey)
      (absent : layout.transforms.root.lookup [deadKey] = none) :
      Derives layout mode [deadKey] none
  /-- In this level a space gives the dead key itself. -/
  | withSpace {deadKey : String} (registered : layout.Registers deadKey)
      (absent : layout.transforms.root.lookup [deadKey] = none) :
      Derives layout mode [deadKey, " "] (some deadKey)
  /-- A letter that the layout types gives the letter with the accent, unless the root of the dead
  key is a leaf or only composable pairs are asked for and normalisation does not change this one.
  -/
  | withLetter {deadKey : String} {letter : Char} (registered : layout.Registers deadKey)
      (notLeaf : ∀ text, layout.transforms.root.lookup [deadKey] ≠ some (.leaf text))
      (typed : layout.TypesLetter letter)
      (changes : mode = .composable → Unicode.nfkc (Derivation.accented deadKey letter) ≠
        Derivation.accented deadKey letter) :
      Derives layout mode [deadKey, String.singleton letter]
        (some (String.ofList (Unicode.nfkc (Derivation.accented deadKey letter))))

end Layout

/-! ## Transforms of two values -/

namespace Transform

variable {first second text : String}

theorem declares_pair {path : List String} {output : Option String} (hpath : path ≠ []) :
    Declares [⟨[first, second], some text⟩] path output ↔
      (path = [first, second] ∧ output = some text) ∨ (path = [first] ∧ output = none) := by
  rw [declares_singleton]
  constructor
  · rintro (hplace | ⟨hnone, hpre, hne⟩)
    · exact .inl hplace
    · refine .inr ⟨?_, hnone⟩
      rcases List.prefix_cons_iff.mp hpre with rfl | ⟨rest, rfl, hrest⟩
      · exact absurd rfl hpath
      · rcases List.prefix_cons_iff.mp hrest with rfl | ⟨tail, rfl, htail⟩
        · rfl
        · rw [List.prefix_nil.mp htail] at hne
          exact absurd rfl hne
  · rintro (hplace | ⟨rfl, hnone⟩)
    · exact .inl hplace
    · exact .inr ⟨hnone, ⟨[second], rfl⟩, by simp⟩

theorem Level.admits_pair {level : Level} :
    level.Admits ⟨[first, second], some text⟩ ↔
      (∀ other, level.lookup [first] ≠ some (.leaf other)) ∧
        (level.outputAt? [first, second] = none ∨
          level.outputAt? [first, second] = some (some text)) := by
  rw [admits_cons, admits_singleton, outputAt?_cons level first (List.cons_ne_nil second [])]
  rfl

end Transform

/-! ## What is added -/

section Added

variable {layout : Layout} {mode : DeriveMode} {path : List String} {output : Option String}

/-- The derived transforms of a layout, with roots where its tree has some. -/
def Layout.derived (layout : Layout) (mode : DeriveMode) : List Derivation.Derived :=
  (Derivation.derive mode layout.layers layout.deadKeys
    fun deadKey => (layout.transforms.root.get? deadKey).isSome).value

/-- The layout with its tree completed by derived transforms. -/
def Layout.completed (layout : Layout) (mode : DeriveMode) : Layout :=
  { layout with
    transforms := layout.transforms.mergeFitting
      ((layout.derived mode).map Derivation.Derived.entry) }

theorem Layout.nodup_paths_derived :
    (((layout.derived mode).map Derivation.Derived.entry).map (·.path)).Nodup := by
  rw [List.map_map]
  exact Derivation.nodup_derive

theorem Layout.withSpace_mem_derived (hmode : mode ≠ .off) {deadKey : String}
    (hregistered : layout.Registers deadKey)
    (habsent : layout.transforms.root.lookup [deadKey] = none) :
    .withSpace deadKey ∈ layout.derived mode := by
  have hroot : (layout.transforms.root.get? deadKey).isSome = false := by
    rw [← Level.lookup_singleton, habsent]
    rfl
  exact (Derivation.mem_derive_iff hmode).mpr ⟨deadKey, hregistered, .inl ⟨hroot, rfl⟩⟩

/-- At a free path, the derived transforms that fit declare just what `Layout.Derives` says. -/
theorem Layout.derives_iff (hmode : mode ≠ .off) (hpath : path ≠ [])
    (hfree : layout.transforms.root.outputAt? path = none) :
    (∃ derived ∈ layout.derived mode, layout.transforms.root.Admits derived.entry ∧
      Declares [derived.entry] path output) ↔ layout.Derives mode path output := by
  constructor
  · rintro ⟨derived, hmem, hadmits, hdeclares⟩
    obtain ⟨deadKey, hregistered, hcase⟩ := (Derivation.mem_derive_iff hmode).mp hmem
    rw [derived.entry_eq] at hadmits hdeclares
    obtain ⟨hopen, _⟩ := Level.admits_pair.mp hadmits
    rcases hcase with ⟨hroot, rfl⟩ | ⟨letter, htyped, hletter⟩
    · have habsent : layout.transforms.root.lookup [deadKey] = none := by simpa using hroot
      rcases (declares_pair hpath).mp hdeclares with ⟨rfl, rfl⟩ | ⟨rfl, rfl⟩
      · exact .withSpace hregistered habsent
      · exact .level hregistered habsent
    · obtain ⟨hchanges, rfl⟩ := Derivation.ofLetter?_eq_some_iff.mp hletter
      rcases (declares_pair hpath).mp hdeclares with ⟨rfl, rfl⟩ | ⟨rfl, rfl⟩
      · exact .withLetter hregistered hopen htyped hchanges
      · exact .level hregistered (Level.outputAt?_eq_none_iff.mp hfree)
  · intro h
    cases h with
    | @level deadKey hregistered habsent =>
      -- the level comes with the space that is derived in it
      refine ⟨.withSpace deadKey, withSpace_mem_derived hmode hregistered habsent, ?_,
        (declares_pair hpath).mpr (.inr ⟨rfl, rfl⟩)⟩
      refine Level.admits_pair.mpr ⟨by simp [habsent], .inl ?_⟩
      rw [Level.outputAt?_cons _ _ (List.cons_ne_nil _ _), Level.below_of_none habsent,
        Level.outputAt?_empty]
    | @withSpace deadKey hregistered habsent =>
      refine ⟨.withSpace deadKey, withSpace_mem_derived hmode hregistered habsent, ?_,
        (declares_pair hpath).mpr (.inl ⟨rfl, rfl⟩)⟩
      exact Level.admits_pair.mpr ⟨by simp [habsent], .inl hfree⟩
    | @withLetter deadKey letter hregistered hopen htyped hchanges =>
      refine ⟨.withLetter deadKey letter _, ?_, ?_, (declares_pair hpath).mpr (.inl ⟨rfl, rfl⟩)⟩
      · refine (Derivation.mem_derive_iff hmode).mpr
          ⟨deadKey, hregistered, .inr ⟨letter, htyped, ?_⟩⟩
        exact Derivation.ofLetter?_eq_some_iff.mpr ⟨hchanges, rfl⟩
      · exact Level.admits_pair.mpr ⟨hopen, .inl hfree⟩

/-- A tree that is completed holds what it held, and at free paths what `Layout.Derives` says. -/
theorem Layout.outputAt?_completed_iff (hmode : mode ≠ .off) :
    (layout.completed mode).transforms.root.outputAt? path = some output ↔
      layout.transforms.root.outputAt? path = some output ∨
        layout.transforms.root.outputAt? path = none ∧ layout.Derives mode path output := by
  rw [completed]
  by_cases hpath : path = []
  · subst hpath
    simp only [Level.outputAt?_nil, reduceCtorEq, true_and, false_or, false_iff]
    intro h
    cases h
  · cases hbefore : layout.transforms.root.outputAt? path with
    | some before =>
      -- a path that is taken keeps what it holds, whatever is derived for it
      rw [Tree.outputAt?_mergeFitting_of_some hbefore]
      simp
    | none =>
      rw [Tree.outputAt?_mergeFitting_iff Derivation.length_of_mem_map_entry
        nodup_paths_derived hpath, hbefore, ← derives_iff hmode hpath hbefore]
      simp only [reduceCtorEq, false_or, true_and]
      constructor
      · rintro ⟨entry, hentry, hfits⟩
        obtain ⟨derived, hderived, rfl⟩ := List.mem_map.mp hentry
        exact ⟨derived, hderived, hfits⟩
      · rintro ⟨derived, hderived, hfits⟩
        exact ⟨derived.entry, List.mem_map_of_mem hderived, hfits⟩

end Added

/-! ## Building with and without -/

namespace LayoutDraft

/-- Building with a derivation is building without one and then completing the tree. -/
theorem build_setMode_eq_ok_iff {draft : LayoutDraft} {mode : DeriveMode} {full : Layout} :
    (draft.setMode mode).build.value = .ok full ↔
      ∃ plain, (draft.setMode .off).build.value = .ok plain ∧
        full = plain.completed mode := by
  constructor
  · intro hbuild
    obtain ⟨layers, tree, hlayers, hmerge, rfl⟩ := build_eq_ok_iff.mp hbuild
    refine ⟨_, build_off_eq_ok_iff.mpr ⟨layers, tree, hlayers, hmerge, rfl⟩, ?_⟩
    rw [complete_value]
    rfl
  · rintro ⟨plain, hbuild, rfl⟩
    obtain ⟨layers, tree, hlayers, hmerge, rfl⟩ := build_off_eq_ok_iff.mp hbuild
    refine build_eq_ok_iff.mpr ⟨layers, tree, hlayers, hmerge, ?_⟩
    rw [complete_value]
    rfl

/-- A layout is a plain one, which has just what is declared, completed by derived transforms. -/
theorem exists_plain_of_build {draft : LayoutDraft} {layout : Layout}
    (hbuild : draft.build.value = .ok layout) :
    ∃ plain : Layout, layout = plain.completed draft.mode ∧
      plain.transforms.root.Tells draft.transforms := by
  have hmode : (draft.setMode draft.mode).build.value = .ok layout := hbuild
  obtain ⟨plain, hplain, hlayout⟩ := build_setMode_eq_ok_iff.mp hmode
  obtain ⟨layers, tree, _, hmerge, rfl⟩ := build_off_eq_ok_iff.mp hplain
  exact ⟨_, hlayout, Tree.tells_of_mergeAll hmerge⟩

/-- Every declared transform is in the layout, whatever is derived beside it. -/
theorem lookup_of_declared {draft : LayoutDraft} {layout : Layout}
    (hbuild : draft.build.value = .ok layout) {path : List String} {text : String}
    (hpath : path ≠ []) (hmem : ⟨path, some text⟩ ∈ draft.transforms) :
    layout.transforms.root.lookup path = some (.leaf text) := by
  obtain ⟨layers, tree, _, hmerge, rfl⟩ := build_eq_ok_iff.mp hbuild
  have hdeclared : tree.root.outputAt? path = some (some text) :=
    (Tree.tells_of_mergeAll hmerge path hpath (some text)).mpr (.inl hmem)
  rw [complete_value, ← Level.outputAt?_eq_leaf_iff]
  exact Tree.outputAt?_mergeFitting_of_some hdeclared _

/-- A draft builds with a derivation exactly if it builds without one. Layers, dead keys and space
bar are the same, every leaf stays the same leaf and every level stays a level. At a path where
nothing was, there now is just what `Layout.Derives` says. -/
theorem build_derives_exactly (draft : LayoutDraft) (mode : DeriveMode) (derives : mode ≠ .off) :
    ((∃ full, (draft.setMode mode).build.value = .ok full) ↔
        ∃ plain, (draft.setMode .off).build.value = .ok plain) ∧
      ∀ plain full, (draft.setMode .off).build.value = .ok plain →
        (draft.setMode mode).build.value = .ok full →
        full.layers = plain.layers ∧ full.deadKeys = plain.deadKeys ∧ full.space = plain.space ∧
        ∀ path,
          (∀ text, full.transforms.root.lookup path = some (.leaf text) ↔
            plain.transforms.root.lookup path = some (.leaf text) ∨
              plain.transforms.root.lookup path = none ∧ plain.Derives mode path (some text)) ∧
          ((∃ level, full.transforms.root.lookup path = some (.branch level)) ↔
            (∃ level, plain.transforms.root.lookup path = some (.branch level)) ∨
              plain.transforms.root.lookup path = none ∧ plain.Derives mode path none) := by
  constructor
  · constructor
    · rintro ⟨full, hfull⟩
      obtain ⟨plain, hplain, _⟩ := build_setMode_eq_ok_iff.mp hfull
      exact ⟨plain, hplain⟩
    · rintro ⟨plain, hplain⟩
      exact ⟨_, build_setMode_eq_ok_iff.mpr ⟨plain, hplain, rfl⟩⟩
  · intro plain full hplain hfull
    obtain ⟨other, hother, rfl⟩ := build_setMode_eq_ok_iff.mp hfull
    obtain rfl : other = plain := Except.ok.inj (hother.symm.trans hplain)
    refine ⟨rfl, rfl, rfl, ?_⟩
    intro path
    constructor
    · intro text
      rw [← Level.outputAt?_eq_leaf_iff, ← Level.outputAt?_eq_leaf_iff,
        ← Level.outputAt?_eq_none_iff]
      exact Layout.outputAt?_completed_iff derives
    · rw [← Level.outputAt?_eq_branch_iff, ← Level.outputAt?_eq_branch_iff,
        ← Level.outputAt?_eq_none_iff]
      exact Layout.outputAt?_completed_iff derives

/-- A dead key with a declared transform combines with the other letters, and one without transforms
gives itself with a space. -/
theorem build_derives_exactly_accents :
    let draft := ofDeclarations [.layer "default" [("C01", "a"), ("C02", "e")],
      .deadKeys "default" ["^", "´"], .transform ["^", "a"] "@"]
    DeriveMode.composable ≠ .off ∧
      ∃ full, (draft.setMode .composable).build.value = .ok full ∧
        full.transforms.root.lookup ["^", "a"] = some (.leaf "@") ∧
        full.transforms.root.lookup ["^", "e"] = some (.leaf "ê") ∧
        full.transforms.root.lookup ["´", " "] = some (.leaf "´") := by
  intro draft
  have composable : DeriveMode.composable ≠ .off := by decide
  obtain ⟨succeeds, finds⟩ := build_derives_exactly draft .composable composable
  obtain ⟨plain, built, root, circumflex, acute, table, layer, typesE⟩ :
      ∃ plain, (draft.setMode .off).build.value = .ok plain ∧
        plain.transforms.root = [("^", .branch [("a", .leaf "@")])] ∧
        plain.isDeadKey "default" "^" = true ∧ plain.isDeadKey "default" "´" = true ∧
        ∃ table, plain.layer? "default" = some table ∧ table.get? "KeyS" = some "e" :=
    ⟨_, rfl, by decide +kernel, by decide +kernel, by decide +kernel, _, rfl, by decide +kernel⟩
  obtain ⟨full, completed⟩ := succeeds.mpr ⟨plain, built⟩
  obtain ⟨_, _, _, found⟩ := finds plain full built completed
  refine ⟨composable, full, completed, ?_, ?_, ?_⟩
  · refine ((found ["^", "a"]).1 "@").mpr (.inl ?_)
    rw [root]
    decide +kernel
  · refine ((found ["^", "e"]).1 "ê").mpr (.inr ⟨?_, ?_⟩)
    · rw [root]
      decide +kernel
    · have composed : String.ofList (Unicode.nfkc (Derivation.accented "^" 'e')) = "ê" := by
        decide +kernel
      rw [← composed, show "e" = String.singleton 'e' by decide]
      refine .withLetter ⟨"default", circumflex⟩ ?_ ?_ ?_
      · intro text
        rw [root]
        simp [Level.lookup, Entries.get?]
      · exact ⟨by decide +kernel, "default", table, "KeyS", layer, typesE⟩
      · intro _
        decide +kernel
  · refine ((found ["´", " "]).1 "´").mpr (.inr ⟨?_, .withSpace ⟨"default", acute⟩ ?_⟩)
    · rw [root]
      decide +kernel
    · rw [root]
      decide +kernel

end LayoutDraft

end DeadKeys
