import DeadKeys.Proofs.Transform.Consistency

/-!
# Clashes

Why an entry does not fit, told the way it is reported. `Clash` asks only what is told at paths, be
it by a level or by a list of entries. A merge that fails reports the one clash that there is
(`Level.error_merge_eq_some_iff`), and merging one entry after the other ends with the clash of the
first that does not go with those before it (`Tree.mergeAll_eq_error_iff`).
-/

namespace DeadKeys.Transform

/-- What is wrong with an entry, given what is told at every path. -/
inductive Clash (told : List String → Option String → Prop) (entry : Entry) : MergeError → Prop
  /-- The entry has no path. -/
  | noPath (empty : entry.path = []) : Clash told entry .emptyPath
  /-- On the way to its place there is a leaf, which would have to be a level. -/
  | throughLeaf {place : List String} {text : String} (leaf : told place (some text))
      (leads : place <+: entry.path) (further : place ≠ entry.path) :
      Clash told entry (.conflict place .leaf .branch)
  /-- At its place there is a leaf with another text. -/
  | otherText {existing incoming : String} (taken : told entry.path (some existing))
      (given : entry.output = some incoming) (differ : existing ≠ incoming) :
      Clash told entry (.duplicate entry.path existing incoming)
  /-- It is a level, and at its place there is a leaf. -/
  | levelOverLeaf {existing : String} (taken : told entry.path (some existing))
      (given : entry.output = none) : Clash told entry (.conflict entry.path .leaf .branch)
  /-- It is a leaf, and at its place, which is not the root, there is a level. -/
  | leafOverLevel {incoming : String} (nonempty : entry.path ≠ []) (taken : told entry.path none)
      (given : entry.output = some incoming) :
      Clash told entry (.conflict entry.path .branch .leaf)

/-- Where more is told on the way to an entry and at its place, there are more clashes. -/
theorem Clash.imp {told other : List String → Option String → Prop} {entry : Entry}
    {error : MergeError}
    (hleaf : ∀ place text, place <+: entry.path → told place (some text) → other place (some text))
    (hlevel : entry.path ≠ [] → told entry.path none → other entry.path none)
    (h : Clash told entry error) : Clash other entry error := by
  cases h with
  | noPath empty => exact .noPath empty
  | throughLeaf leaf leads further => exact .throughLeaf (hleaf _ _ leads leaf) leads further
  | otherText taken given differ =>
    exact .otherText (hleaf _ _ List.prefix_rfl taken) given differ
  | levelOverLeaf taken given => exact .levelOverLeaf (hleaf _ _ List.prefix_rfl taken) given
  | leafOverLevel nonempty taken given => exact .leafOverLevel nonempty (hlevel nonempty taken) given

/-! ## The clash with a level -/

namespace Level

variable {level : Level} {entry : Entry} {error : MergeError}

/-- What is wrong with an entry that is merged into a level. -/
def ClashesWith (level : Level) (entry : Entry) (error : MergeError) : Prop :=
  Clash (fun path output => level.outputAt? path = some output) entry error

/-- What is on the way to something is a level. -/
theorem outputAt?_on_the_way {place path : List String} {output : Option String}
    (hplace : place ≠ []) (hleads : place <+: path) (hfurther : place ≠ path)
    (h : level.outputAt? path = some output) : level.outputAt? place = some none := by
  obtain ⟨rest, rfl⟩ := hleads
  have hrest : rest ≠ [] := by
    rintro rfl
    exact hfurther (List.append_nil place).symm
  exact outputAt?_of_append hplace hrest h

/-- Behind a leaf there is nothing. -/
theorem outputAt?_behind_leaf {place path : List String} {text : String}
    (hleaf : level.outputAt? place = some (some text)) (hleads : place <+: path)
    (hfurther : place ≠ path) : level.outputAt? path = none := by
  refine Option.eq_none_iff_forall_ne_some.mpr ?_
  intro output hout
  rw [outputAt?_on_the_way (ne_nil_of_outputAt? hleaf) hleads hfurther hout] at hleaf
  cases hleaf

/-- A path leads through one leaf at most. -/
theorem leaf_unique {place other path : List String} {text text' : String}
    (hleaf : level.outputAt? place = some (some text)) (hleads : place <+: path)
    (hleaf' : level.outputAt? other = some (some text')) (hleads' : other <+: path) :
    place = other := by
  refine Classical.byContradiction fun hne => ?_
  -- of two places on one path, one is on the way to the other
  rcases List.prefix_or_prefix_of_prefix hleads hleads' with hpre | hpre
  · rw [outputAt?_behind_leaf hleaf hpre hne] at hleaf'
    cases hleaf'
  · rw [outputAt?_behind_leaf hleaf' hpre (Ne.symm hne)] at hleaf
    cases hleaf

/-- A clash that is at the place of an entry leaves no room for one on the way there. -/
theorem not_throughLeaf {place : List String} {text : String} {output : Option String}
    (taken : level.outputAt? entry.path = some output)
    (leaf : level.outputAt? place = some (some text)) (leads : place <+: entry.path)
    (further : place ≠ entry.path) : False := by
  rw [outputAt?_behind_leaf leaf leads further] at taken
  cases taken

/-- What is in a level already fits there. -/
theorem admits_of_outputAt? (h : level.outputAt? entry.path = some entry.output) :
    level.Admits entry := by
  refine ⟨ne_nil_of_outputAt? h, ?_, .inr h⟩
  intro place hleads hfurther text hleaf
  rw [outputAt?_behind_leaf hleaf hleads hfurther] at h
  cases h

/-- At most one thing is wrong with an entry. -/
theorem ClashesWith.unique {other : MergeError} (h : level.ClashesWith entry error)
    (h' : level.ClashesWith entry other) : error = other := by
  have hway : ∀ {place}, place <+: entry.path → place ≠ entry.path → entry.path ≠ [] := by
    intro place hleads hfurther hempty
    rw [hempty] at hleads hfurther
    exact hfurther (List.prefix_nil.mp hleads)
  cases h with
  | noPath empty =>
    cases h' with
    | noPath _ => rfl
    | throughLeaf _ leads further => exact absurd empty (hway leads further)
    | otherText taken | levelOverLeaf taken | leafOverLevel _ taken =>
      exact absurd empty (ne_nil_of_outputAt? taken)
  | throughLeaf leaf leads further =>
    cases h' with
    | noPath empty => exact absurd empty (hway leads further)
    | throughLeaf leaf' leads' _ => rw [leaf_unique leaf leads leaf' leads']
    | otherText taken | levelOverLeaf taken | leafOverLevel _ taken =>
      exact (not_throughLeaf taken leaf leads further).elim
  | otherText taken given _ =>
    cases h' with
    | noPath empty => exact absurd empty (ne_nil_of_outputAt? taken)
    | throughLeaf leaf leads further => exact (not_throughLeaf taken leaf leads further).elim
    | otherText taken' given' _ =>
      obtain rfl := Option.some.inj (Option.some.inj (taken.symm.trans taken'))
      obtain rfl := Option.some.inj (given.symm.trans given')
      rfl
    | levelOverLeaf _ given' => cases given.symm.trans given'
    | leafOverLevel _ taken' _ => cases taken.symm.trans taken'
  | levelOverLeaf taken given =>
    cases h' with
    | noPath empty => exact absurd empty (ne_nil_of_outputAt? taken)
    | throughLeaf leaf leads further => exact (not_throughLeaf taken leaf leads further).elim
    | otherText _ given' _ => cases given.symm.trans given'
    | levelOverLeaf _ _ => rfl
    | leafOverLevel _ taken' _ => cases taken.symm.trans taken'
  | leafOverLevel nonempty taken given =>
    cases h' with
    | noPath empty => exact absurd empty nonempty
    | throughLeaf leaf leads further => exact (not_throughLeaf taken leaf leads further).elim
    | otherText taken' _ _ | levelOverLeaf taken' _ => cases taken.symm.trans taken'
    | leafOverLevel _ _ _ => rfl

/-- An entry with which nothing is wrong fits, and no other does. -/
theorem ClashesWith.not_admits (h : level.ClashesWith entry error) : ¬ level.Admits entry := by
  intro hadmits
  cases h with
  | noPath empty => exact hadmits.path_ne_nil empty
  | throughLeaf leaf leads further => exact hadmits.no_leaf_before _ leads further _ leaf
  | otherText taken given differ =>
    exact differ (Option.some.inj ((hadmits.output_eq taken).trans given))
  | levelOverLeaf taken given => cases (hadmits.output_eq taken).trans given
  | leafOverLevel _ taken given => cases (hadmits.output_eq taken).trans given

/-! ## What a merge reports -/

theorem clashesWith_of_place {value : String} {output : Option String}
    (h : (level.place value output).error = some error) :
    level.ClashesWith ⟨[value], output⟩ error := by
  have hplace : level.outputAt? [value] = (level.get? value).map Node.output := rfl
  unfold place at h
  cases hget : level.get? value with
  | none =>
    rw [hget] at h
    cases h
  | some node =>
    rw [hget] at h hplace
    cases node with
    | branch entries =>
      cases output with
      | none => cases h
      | some incoming =>
        obtain rfl := Option.some.inj h
        exact .leafOverLevel (List.cons_ne_nil value []) hplace rfl
    | leaf existing =>
      cases output with
      | none =>
        obtain rfl := Option.some.inj h
        exact .levelOverLeaf hplace rfl
      | some incoming =>
        by_cases hsame : existing = incoming
        · simp [hsame] at h
        · simp only [if_neg hsame, Option.some.injEq] at h
          obtain rfl := h
          exact .otherText hplace rfl hsame

/-- A clash one level further down is one from here, at the longer path. -/
theorem ClashesWith.under {value next : String} {rest : List String} {output : Option String}
    (h : (level.below value).ClashesWith ⟨next :: rest, output⟩ error) :
    level.ClashesWith ⟨value :: next :: rest, output⟩ (error.under value) := by
  have hbelow : ∀ {path : List String}, path ≠ [] →
      level.outputAt? (value :: path) = (level.below value).outputAt? path :=
    fun hpath => outputAt?_cons level value hpath
  have hrest := hbelow (List.cons_ne_nil next rest)
  cases h with
  | noPath empty => cases empty
  | throughLeaf leaf leads further =>
    have hleaf := (hbelow (ne_nil_of_outputAt? leaf)).trans leaf
    refine .throughLeaf hleaf ((List.prefix_cons_inj value).mpr leads) ?_
    intro heq
    exact further (List.cons.inj heq).2
  | otherText taken given differ => exact .otherText (hrest.trans taken) given differ
  | levelOverLeaf taken given => exact .levelOverLeaf (hrest.trans taken) given
  | leafOverLevel _ taken given =>
    exact .leafOverLevel (List.cons_ne_nil value _) (hrest.trans taken) given

theorem clashesWith_of_mergeAt {value : String} {rest : List String} {output : Option String}
    (h : (level.mergeAt output value rest).error = some error) :
    level.ClashesWith ⟨value :: rest, output⟩ error := by
  induction rest generalizing level value error with
  | nil => exact clashesWith_of_place h
  | cons next rest ih =>
    by_cases hleaf : ∃ text, level.get? value = some (.leaf text)
    · obtain ⟨text, hget⟩ := hleaf
      rw [mergeAt_cons_of_leaf output hget] at h
      obtain rfl := Option.some.inj h
      have hout : level.outputAt? [value] = some (some text) := by
        rw [outputAt?_singleton, hget]
        rfl
      exact .throughLeaf hout ⟨next :: rest, rfl⟩ (by simp)
    · rw [not_exists] at hleaf
      rw [mergeAt_cons output hleaf] at h
      obtain ⟨inner, hinner, rfl⟩ := Option.map_eq_some_iff.mp h
      exact (ih hinner).under

/-- A merge reports what is wrong with the entry. -/
theorem error_merge_eq_some_iff :
    (level.merge entry).error = some error ↔ level.ClashesWith entry error := by
  have hclash : ∀ {found}, (level.merge entry).error = some found →
      level.ClashesWith entry found := by
    intro found h
    obtain ⟨path, output⟩ := entry
    cases path with
    | nil =>
      obtain rfl := Option.some.inj h
      exact .noPath rfl
    | cons value rest => exact clashesWith_of_mergeAt h
  constructor
  · exact hclash
  · intro h
    cases hmerge : (level.merge entry).error with
    | none => exact absurd (error_merge_eq_none_iff.mp hmerge) h.not_admits
    | some found => rw [(hclash hmerge).unique h]

/-- Something is wrong with an entry exactly if it does not fit. -/
theorem exists_clashesWith_iff :
    (∃ error, level.ClashesWith entry error) ↔ ¬ level.Admits entry := by
  simp only [← error_merge_eq_none_iff, ← error_merge_eq_some_iff]
  exact Option.ne_none_iff_exists'.symm

end Level

/-! ## The clash with other entries -/

section Entries

variable {level : Level} {entries : List Entry} {entry : Entry} {error : MergeError}

/-- What is wrong with an entry behind others. -/
def Entry.ClashesWith (entry : Entry) (entries : List Entry) (error : MergeError) : Prop :=
  Clash (Declares entries) entry error

/-- Where a level tells what consistent entries declare, a further entry clashes with both alike. -/
theorem Level.Tells.clashesWith_iff (h : level.Tells entries) (hconsistent : Consistent entries) :
    level.ClashesWith entry error ↔ entry.ClashesWith entries error := by
  constructor
  · refine Clash.imp ?_ ?_
    · intro place text _ hout
      exact (h place (ne_nil_of_outputAt? hout) _).mp hout
    · intro hpath
      exact (h entry.path hpath none).mp
  · refine Clash.imp ?_ ?_
    · rintro place text _ (hmem | ⟨hnone, _⟩)
      · exact (h place (hconsistent.path_ne_nil _ hmem) _).mpr (.inl hmem)
      · cases hnone
    · intro hpath
      exact (h entry.path hpath none).mpr

/-- An entry clashes with consistent entries in one way at most. -/
theorem Entry.ClashesWith.unique {other : MergeError} (hconsistent : Consistent entries)
    (h : entry.ClashesWith entries error) (h' : entry.ClashesWith entries other) :
    error = other := by
  obtain ⟨tree, _, htells⟩ := Tree.exists_mergeAll_of_consistent Tree.tells_empty hconsistent
  exact ((htells.clashesWith_iff hconsistent).mpr h).unique
    ((htells.clashesWith_iff hconsistent).mpr h')

/-- An entry that clashes with consistent entries does not go with them, and only such a one does
not. -/
theorem Entry.exists_clashesWith_iff (hconsistent : Consistent entries) :
    (∃ error, entry.ClashesWith entries error) ↔ ¬ Consistent (entries ++ [entry]) := by
  obtain ⟨tree, _, htells⟩ := Tree.exists_mergeAll_of_consistent Tree.tells_empty hconsistent
  have htells : tree.root.Tells entries := htells
  rw [hconsistent.append_singleton_iff, ← htells.admits_iff hconsistent]
  simp only [← htells.clashesWith_iff hconsistent]
  exact Level.exists_clashesWith_iff

end Entries

/-! ## The first clash -/

namespace Tree

variable {tree : Tree} {done rest : List Entry} {entry : Entry} {error : MergeError}

/-- An entry that clashes ends the merging with the clash. -/
theorem mergeAll_cons_of_clash (h : tree.root.ClashesWith entry error) (rest : List Entry) :
    tree.mergeAll (entry :: rest) = .error error := by
  have herror : (tree.merge entry).2 = some error := Level.error_merge_eq_some_iff.mpr h
  rw [mergeAll]
  split
  · rename_i merged hmerge
    rw [hmerge] at herror
    cases herror
  · rename_i left found hmerge
    rw [hmerge] at herror
    exact congrArg Except.error (Option.some.inj herror)

/-- Merging the rest of the entries fails exactly with the clash of the first that does not go with
those before it. -/
theorem mergeAll_eq_error_iff (htells : tree.root.Tells done) (hdone : Consistent done) :
    tree.mergeAll rest = .error error ↔
      ∃ before entry after, rest = before ++ entry :: after ∧ Consistent (done ++ before) ∧
        entry.ClashesWith (done ++ before) error := by
  -- an entry goes over from `rest` to `done` once it is merged, so the tree always tells `done`
  induction rest generalizing tree done with
  | nil => simp [mergeAll]
  | cons entry rest ih =>
    by_cases hadmits : tree.root.Admits entry
    · have hgoes := (htells.admits_iff hdone).mp hadmits
      rw [mergeAll_cons_of_admits hadmits,
        ih (htells.merge hadmits) (hdone.append_singleton_iff.mpr hgoes)]
      constructor
      · rintro ⟨before, other, after, rfl, hconsistent, hclash⟩
        rw [List.append_assoc] at hconsistent hclash
        exact ⟨entry :: before, other, after, rfl, hconsistent, hclash⟩
      · rintro ⟨before, other, after, hsplit, hconsistent, hclash⟩
        cases before with
        | nil =>
          -- the entry fits, so it cannot be the one that clashes
          obtain ⟨rfl, rfl⟩ := List.cons.inj hsplit
          rw [List.append_nil] at hclash
          exact absurd hadmits ((htells.clashesWith_iff hdone).mpr hclash).not_admits
        | cons first before =>
          obtain ⟨rfl, rfl⟩ := List.cons.inj hsplit
          rw [List.append_cons] at hconsistent hclash
          exact ⟨before, other, after, rfl, hconsistent, hclash⟩
    · obtain ⟨found, hfound⟩ := Level.exists_clashesWith_iff.mpr hadmits
      have hclashes := (htells.clashesWith_iff hdone).mp hfound
      rw [mergeAll_cons_of_clash hfound]
      constructor
      · intro h
        obtain rfl := Except.error.inj h
        exact ⟨[], entry, rest, rfl, by rwa [List.append_nil], by rwa [List.append_nil]⟩
      · rintro ⟨before, other, after, hsplit, hconsistent, hclash⟩
        cases before with
        | nil =>
          obtain ⟨rfl, rfl⟩ := List.cons.inj hsplit
          rw [List.append_nil] at hclash
          rw [hclashes.unique hdone hclash]
        | cons first before =>
          -- the entry does not fit, so it is not one of those that are consistent
          obtain ⟨rfl, rfl⟩ := List.cons.inj hsplit
          rw [List.append_cons] at hconsistent
          have hgoes := hdone.append_singleton_iff.mp hconsistent.of_append
          exact absurd ((htells.admits_iff hdone).mpr hgoes) hadmits

end Tree

end DeadKeys.Transform
