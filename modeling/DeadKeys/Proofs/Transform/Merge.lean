import DeadKeys.Proofs.Transform.Lookup
import DeadKeys.Transform.Merge

/-!
# What merging does

`Level.Admits` says when an entry fits into a level, in terms of what can be looked up there.
Merging succeeds exactly then (`Level.error_merge_eq_none_iff`), and afterwards every path tells
what it told before, except for the path of the entry and those that lead to it
(`Level.outputAt?_merge`). A merge that fails leaves the level as it was
(`Level.level_merge_of_error`).
-/

namespace DeadKeys.Transform

@[simp] theorem Node.output_ofOutput (output : Option String) :
    (Node.ofOutput output).output = output := by
  cases output <;> rfl

@[simp] theorem Node.children_ofOutput (output : Option String) :
    (Node.ofOutput output).children = [] := by
  cases output <;> rfl

/-! ## When an entry fits -/

/-- An entry fits into a level: it has a path, no value on the way to its place is a leaf, and its
place is free or already taken by just the same. -/
structure Level.Admits (level : Level) (entry : Entry) : Prop where
  path_ne_nil : entry.path ≠ []
  no_leaf_before : ∀ before, before <+: entry.path → before ≠ entry.path →
    ∀ text, level.outputAt? before ≠ some (some text)
  free_or_same : level.outputAt? entry.path = none ∨ level.outputAt? entry.path = some entry.output

/-- What is already at the place of an entry that fits is just the same. -/
theorem Level.Admits.output_eq {level : Level} {entry : Entry} {output : Option String}
    (h : level.Admits entry) (hout : level.outputAt? entry.path = some output) :
    output = entry.output := by
  rcases h.free_or_same with hfree | hsame
  · rw [hfree] at hout
    cases hout
  · rw [hsame] at hout
    exact (Option.some.inj hout).symm

theorem Level.free_or_same_of {level : Level} {entry : Entry}
    (h : ∀ output, level.outputAt? entry.path = some output → output = entry.output) :
    level.outputAt? entry.path = none ∨ level.outputAt? entry.path = some entry.output := by
  cases hout : level.outputAt? entry.path with
  | none => exact .inl rfl
  | some output => exact .inr (congrArg some (h output hout))

theorem Level.admits_singleton {level : Level} {value : String} {output : Option String} :
    level.Admits ⟨[value], output⟩ ↔
      level.outputAt? [value] = none ∨ level.outputAt? [value] = some output := by
  constructor
  · intro h
    exact h.free_or_same
  · intro h
    refine ⟨by simp, ?_, h⟩
    intro before hpre hne text
    rcases List.prefix_cons_iff.mp hpre with rfl | ⟨rest, rfl, hrest⟩
    · simp
    · rw [List.prefix_nil.mp hrest] at hne
      exact absurd rfl hne

/-- A longer path fits if its first value is no leaf and the rest fits one level further down. -/
theorem Level.admits_cons {level : Level} {value next : String} {rest : List String}
    {output : Option String} :
    level.Admits ⟨value :: next :: rest, output⟩ ↔
      (∀ text, level.get? value ≠ some (.leaf text)) ∧
        (level.below value).Admits ⟨next :: rest, output⟩ := by
  constructor
  · intro h
    refine ⟨?_, by simp, ?_, ?_⟩
    · intro text hget
      refine h.no_leaf_before [value] ⟨next :: rest, rfl⟩ (by simp) text ?_
      rw [Level.outputAt?_singleton, hget]
      rfl
    · intro before hpre hne text hout
      rcases before with _ | ⟨first, before⟩
      · simp at hout
      · refine h.no_leaf_before (value :: first :: before) ?_ ?_ text ?_
        · exact (List.prefix_cons_inj value).mpr hpre
        · exact fun heq => hne (List.cons.inj heq).2
        · rw [Level.outputAt?_cons level value (List.cons_ne_nil first before)]
          exact hout
    · rw [← Level.outputAt?_cons level value (List.cons_ne_nil next rest)]
      exact h.free_or_same
  · rintro ⟨hleaf, h⟩
    refine ⟨by simp, ?_, ?_⟩
    · intro before hpre hne text hout
      rcases List.prefix_cons_iff.mp hpre with rfl | ⟨tail, rfl, htail⟩
      · simp at hout
      · rcases tail with _ | ⟨first, tail⟩
        · rw [Level.outputAt?_eq_leaf_iff, Level.lookup_singleton] at hout
          exact hleaf text hout
        · rw [Level.outputAt?_cons level value (List.cons_ne_nil first tail)] at hout
          exact h.no_leaf_before _ htail (fun heq => hne (by rw [heq])) text hout
    · show level.outputAt? (value :: next :: rest) = none ∨
        level.outputAt? (value :: next :: rest) = some output
      rw [Level.outputAt?_cons level value (List.cons_ne_nil next rest)]
      exact h.free_or_same

/-- Everything with a path fits into the empty level. -/
theorem Level.admits_empty {entry : Entry} (h : entry.path ≠ []) : Level.Admits [] entry := by
  refine ⟨h, ?_, ?_⟩
  · intro before _ _ text
    simp
  · simp

/-! ## One step of a merge -/

/-- A free place takes the entry. -/
theorem Level.place_of_free {level : Level} {value : String} (output : Option String)
    (h : level.get? value = none) :
    level.place value output = ⟨level.insert value (Node.ofOutput output), none⟩ := by
  unfold Level.place
  rw [h]

/-- A place that is taken stays as it is, whether or not the entry fits. -/
theorem Level.level_place_of_taken {level : Level} {value : String} {node : Node}
    (output : Option String) (h : level.get? value = some node) :
    (level.place value output).level = level := by
  unfold Level.place
  rw [h]
  cases node with
  | leaf text =>
    cases output with
    | none => rfl
    | some incoming => by_cases heq : text = incoming <;> simp [heq]
  | branch entries => cases output <;> rfl

/-- A merge goes on below a value that is no leaf. -/
theorem Level.mergeAt_cons (output : Option String) {level : Level} {value : String}
    (h : ∀ text, level.get? value ≠ some (.leaf text)) (next : String) (rest : List String) :
    level.mergeAt output value (next :: rest) =
      ⟨level.insert value (.branch ((level.below value).mergeAt output next rest).level),
        ((level.below value).mergeAt output next rest).error.map (·.under value)⟩ := by
  rw [Level.mergeAt]
  cases hget : level.get? value with
  | none => rw [Level.below_of_none hget]; rfl
  | some node =>
    cases node with
    | leaf text => exact absurd hget (h text)
    | branch entries => rw [Level.below_of_get? hget]; rfl

/-- A merge stops at a leaf. -/
theorem Level.mergeAt_cons_of_leaf (output : Option String) {level : Level} {value text : String}
    (h : level.get? value = some (.leaf text)) (next : String) (rest : List String) :
    level.mergeAt output value (next :: rest) =
      ⟨level, some (.conflict [value] .leaf .branch)⟩ := by
  rw [Level.mergeAt, h]
  rfl

/-! ## Success -/

theorem Level.error_place_eq_none_iff {level : Level} {value : String} {output : Option String} :
    (level.place value output).error = none ↔ level.Admits ⟨[value], output⟩ := by
  rw [Level.admits_singleton, Level.outputAt?_singleton]
  unfold Level.place
  cases hget : level.get? value with
  | none => simp
  | some node =>
    cases node with
    | leaf text =>
      cases output with
      | none => simp [Node.output]
      | some incoming => by_cases h : text = incoming <;> simp [h, Node.output]
    | branch entries => cases output <;> simp [Node.output]

theorem Level.error_mergeAt_eq_none_iff {output : Option String} {level : Level} {value : String}
    {rest : List String} :
    (level.mergeAt output value rest).error = none ↔ level.Admits ⟨value :: rest, output⟩ := by
  induction rest generalizing level value with
  | nil => exact Level.error_place_eq_none_iff
  | cons next rest ih =>
    rw [Level.admits_cons]
    by_cases hleaf : ∃ text, level.get? value = some (.leaf text)
    · obtain ⟨text, hget⟩ := hleaf
      rw [Level.mergeAt_cons_of_leaf output hget]
      simp [hget]
    · rw [not_exists] at hleaf
      rw [Level.mergeAt_cons output hleaf, Option.map_eq_none_iff, ih]
      simp [hleaf]

/-- A merge succeeds exactly if the entry fits. -/
theorem Level.error_merge_eq_none_iff {level : Level} {entry : Entry} :
    (level.merge entry).error = none ↔ level.Admits entry := by
  obtain ⟨path, output⟩ := entry
  cases path with
  | nil =>
    constructor
    · intro h
      simp [Level.merge] at h
    · intro h
      exact absurd rfl h.path_ne_nil
  | cons value rest => exact Level.error_mergeAt_eq_none_iff

/-! ## What is at each path afterwards -/

/-- What a path tells after a merge that succeeded: the place of the entry tells the entry, the
paths that lead there are levels, and all others are as they were. -/
def Entry.overlay (entry : Entry) (before : List String → Option (Option String))
    (path : List String) : Option (Option String) :=
  if path = entry.path then some entry.output
  else if path ≠ [] ∧ path <+: entry.path then some none
  else before path

theorem Level.outputAt?_place {level : Level} {value : String} {output : Option String}
    (h : level.Admits ⟨[value], output⟩) (path : List String) :
    (level.place value output).level.outputAt? path =
      Entry.overlay ⟨[value], output⟩ level.outputAt? path := by
  -- only the place itself is concerned: no other path leads to it
  have hoverlay : Entry.overlay ⟨[value], output⟩ level.outputAt? path =
      if path = [value] then some output else level.outputAt? path := by
    rw [Entry.overlay]
    by_cases hpath : path = [value]
    · simp [hpath]
    · rw [if_neg hpath, if_neg hpath, if_neg]
      rintro ⟨hne, hpre⟩
      rcases List.prefix_cons_iff.mp hpre with rfl | ⟨rest, rfl, hrest⟩
      · exact hne rfl
      · rw [List.prefix_nil.mp hrest] at hpath
        exact hpath rfl
  rw [hoverlay]
  cases hget : level.get? value with
  | none =>
    rw [Level.place_of_free output hget]
    rcases path with _ | ⟨first, _ | ⟨next, rest⟩⟩
    · simp
    · rw [Level.outputAt?_singleton, Entries.get?_insert]
      by_cases hfirst : first = value
      · simp [hfirst]
      · simp [hfirst, Level.outputAt?_singleton]
    · rw [Level.outputAt?_cons _ _ (List.cons_ne_nil next rest), Level.below_insert]
      by_cases hfirst : first = value
      · simp [hfirst, Level.outputAt?_cons, Level.below_of_none hget]
      · simp [hfirst, Level.outputAt?_cons]
  | some node =>
    rw [Level.level_place_of_taken output hget]
    by_cases hpath : path = [value]
    · have hsame := Level.admits_singleton.mp h
      simp only [Level.outputAt?_singleton, hget, Option.map_some, reduceCtorEq, false_or] at hsame
      rw [if_pos hpath, hpath, Level.outputAt?_singleton, hget, ← hsame]
      rfl
    · rw [if_neg hpath]

theorem Level.outputAt?_mergeAt {output : Option String} {level : Level} {value : String}
    {rest : List String} (h : level.Admits ⟨value :: rest, output⟩) (path : List String) :
    (level.mergeAt output value rest).level.outputAt? path =
      Entry.overlay ⟨value :: rest, output⟩ level.outputAt? path := by
  induction rest generalizing level value path with
  | nil => exact Level.outputAt?_place h path
  | cons next rest ih =>
    obtain ⟨hleaf, hbelow⟩ := Level.admits_cons.mp h
    rw [Level.mergeAt_cons output hleaf]
    rcases path with _ | ⟨first, _ | ⟨second, tail⟩⟩
    · simp [Entry.overlay]
    · rw [Level.outputAt?_singleton, Entries.get?_insert]
      by_cases hfirst : first = value
      · simp [hfirst, Entry.overlay, Node.output]
      · simp [hfirst, Entry.overlay, Level.outputAt?_singleton, List.cons_prefix_cons]
    · rw [Level.outputAt?_cons _ _ (List.cons_ne_nil second tail), Level.below_insert]
      by_cases hfirst : first = value
      · rw [if_pos hfirst, Node.children, ih hbelow]
        simp [hfirst, Entry.overlay, Level.outputAt?_cons, List.cons_prefix_cons]
      · simp [hfirst, Entry.overlay, Level.outputAt?_cons, List.cons_prefix_cons]

/-- What each path tells after an entry that fits was merged. -/
theorem Level.outputAt?_merge {level : Level} {entry : Entry} (h : level.Admits entry)
    (path : List String) :
    (level.merge entry).level.outputAt? path = entry.overlay level.outputAt? path := by
  obtain ⟨route, output⟩ := entry
  cases route with
  | nil => exact absurd rfl h.path_ne_nil
  | cons value rest => exact Level.outputAt?_mergeAt h path

/-! ## Failure -/

theorem Level.Sorted.below {level : Level} (h : level.Sorted) (value : String) :
    (level.below value).Sorted := by
  cases hget : level.get? value with
  | none => rw [Level.below_of_none hget]; exact Level.sorted_nil
  | some node =>
    rw [Level.below_of_get? hget]
    have hnode := Level.ascending_of_get? h hget
    cases node with
    | leaf text => exact Level.sorted_nil
    | branch entries => simpa [Node.Ascending, Node.children, Level.Sorted] using hnode

theorem Level.level_place_of_error {level : Level} {value : String} {output : Option String}
    (h : (level.place value output).error ≠ none) : (level.place value output).level = level := by
  cases hget : level.get? value with
  | none =>
    rw [Level.place_of_free output hget] at h
    exact absurd rfl h
  | some node => exact Level.level_place_of_taken output hget

theorem Level.level_mergeAt_of_error {output : Option String} {level : Level}
    (hsorted : level.Sorted) {value : String} {rest : List String}
    (h : (level.mergeAt output value rest).error ≠ none) :
    (level.mergeAt output value rest).level = level := by
  induction rest generalizing level value with
  | nil => exact Level.level_place_of_error h
  | cons next rest ih =>
    by_cases hleaf : ∃ text, level.get? value = some (.leaf text)
    · obtain ⟨text, hget⟩ := hleaf
      rw [Level.mergeAt_cons_of_leaf output hget]
    · rw [not_exists] at hleaf
      rw [Level.mergeAt_cons output hleaf] at h ⊢
      have hsub : ((level.below value).mergeAt output next rest).error ≠ none := by
        simpa using h
      show level.insert value (.branch ((level.below value).mergeAt output next rest).level) = level
      rw [ih (hsorted.below value) hsub]
      -- a value without a level below it takes every path, so it cannot be where the merge failed
      cases hget : level.get? value with
      | none =>
        rw [Level.below_of_none hget] at hsub
        exact absurd (Level.error_mergeAt_eq_none_iff.mpr (Level.admits_empty (by simp))) hsub
      | some node =>
        cases node with
        | leaf text => exact absurd hget (hleaf text)
        | branch entries =>
          rw [Level.below_of_get? hget]
          exact Entries.insert_eq_self (Level.sorted_iff.mp hsorted).1 hget

/-- A merge that fails leaves the level as it was, at every depth. -/
theorem Level.level_merge_of_error {level : Level} (hsorted : level.Sorted) {entry : Entry}
    (h : (level.merge entry).error ≠ none) : (level.merge entry).level = level := by
  obtain ⟨path, output⟩ := entry
  cases path with
  | nil => rfl
  | cons value rest => exact Level.level_mergeAt_of_error hsorted h

end DeadKeys.Transform
