import DeadKeys.Proofs.Layout.Build
import DeadKeys.Proofs.Layout.Declared
import DeadKeys.Proofs.Transform.Extensionality

/-!
# The order of declarations

Declarations can be shuffled and repeated as long as they say the same (`SameDeclared`): the draft
has the same keys, dead keys, space texts and mode, and the same entries in another order, which
merge to the same tree. Only one thing is left to look at. Registering no dead keys for a layer is
not the same as not registering any, since the layer then has a set of dead keys, if an empty one.
-/

namespace DeadKeys

/-- Two lists of declarations say the same: they mention the same layers with the same keys in order,
register the same dead keys, declare the same entries, and come to the same space texts and mode. -/
structure SameDeclared (first second : List Declaration) : Prop where
  keys : ∀ layer, first.flatMap (Declaration.keysFor layer) =
    second.flatMap (Declaration.keysFor layer)
  layers : ∀ layer, (∃ declaration ∈ first, declaration.keyLayer? = some layer) ↔
    ∃ declaration ∈ second, declaration.keyLayer? = some layer
  deadKeys : ∀ layer value, value ∈ first.flatMap (Declaration.deadKeysFor layer) ↔
    value ∈ second.flatMap (Declaration.deadKeysFor layer)
  entries : ∀ entry, entry ∈ first.filterMap Declaration.entryOf? ↔
    entry ∈ second.filterMap Declaration.entryOf?
  space : ∀ layer, (first.filterMap (Declaration.spaceFor? layer)).getLast? =
    (second.filterMap (Declaration.spaceFor? layer)).getLast?
  mode : (first.filterMap Declaration.mode?).getLast?.getD .off =
    (second.filterMap Declaration.mode?).getLast?.getD .off

/-- The same layers are mentioned when dead keys are registered, even if there are none. -/
def SameDeadKeyLayers (first second : List Declaration) : Prop :=
  ∀ layer, (∃ declaration ∈ first, declaration.deadKeyLayer? = some layer) ↔
    ∃ declaration ∈ second, declaration.deadKeyLayer? = some layer

theorem SameDeadKeyLayers.symm {first second : List Declaration}
    (h : SameDeadKeyLayers first second) : SameDeadKeyLayers second first :=
  fun layer => (h layer).symm

namespace SameDeclared

variable {first second : List Declaration}

theorem symm (h : SameDeclared first second) : SameDeclared second first where
  keys := fun layer => (h.keys layer).symm
  layers := fun layer => (h.layers layer).symm
  deadKeys := fun layer value => (h.deadKeys layer value).symm
  entries := fun entry => (h.entries entry).symm
  space := fun layer => (h.space layer).symm
  mode := h.mode.symm

theorem layers_eq (h : SameDeclared first second) :
    (LayoutDraft.ofDeclarations first).layers = (LayoutDraft.ofDeclarations second).layers := by
  refine SortedMap.ext_get? ?_
  intro layer
  rw [LayoutDraft.layers_ofDeclarations, LayoutDraft.layers_ofDeclarations, h.keys layer]
  simp only [h.layers layer]

theorem deadKeys_eq (h : SameDeclared first second) (hlayers : SameDeadKeyLayers first second) :
    (LayoutDraft.ofDeclarations first).deadKeys = (LayoutDraft.ofDeclarations second).deadKeys := by
  refine SortedMap.ext_get? ?_
  intro layer
  have hset : SortedSet.ofList (first.flatMap (Declaration.deadKeysFor layer)) =
      SortedSet.ofList (second.flatMap (Declaration.deadKeysFor layer)) :=
    SortedSet.ofList_congr (h.deadKeys layer)
  rw [LayoutDraft.deadKeys_ofDeclarations, LayoutDraft.deadKeys_ofDeclarations, hset]
  simp only [hlayers layer]

theorem space_eq (h : SameDeclared first second) :
    (LayoutDraft.ofDeclarations first).space = (LayoutDraft.ofDeclarations second).space := by
  refine SortedMap.ext_get? ?_
  intro layer
  rw [LayoutDraft.space_ofDeclarations, LayoutDraft.space_ofDeclarations, h.space layer]

theorem mode_eq (h : SameDeclared first second) :
    (LayoutDraft.ofDeclarations first).mode = (LayoutDraft.ofDeclarations second).mode := by
  rw [LayoutDraft.mode_ofDeclarations, LayoutDraft.mode_ofDeclarations, h.mode]

/-- A layout that the first declarations build is built by the second as well. -/
theorem build_eq_ok (h : SameDeclared first second) (hlayers : SameDeadKeyLayers first second)
    {layout : Layout} (hbuild : (LayoutDraft.ofDeclarations first).build.value = .ok layout) :
    (LayoutDraft.ofDeclarations second).build.value = .ok layout := by
  obtain ⟨tables, tree, htables, hmerge, rfl⟩ := LayoutDraft.build_eq_ok_iff.mp hbuild
  have hentries : ∀ entry, entry ∈ (LayoutDraft.ofDeclarations first).transforms ↔
      entry ∈ (LayoutDraft.ofDeclarations second).transforms := by
    intro entry
    rw [LayoutDraft.transforms_ofDeclarations, LayoutDraft.transforms_ofDeclarations]
    exact h.entries entry
  refine LayoutDraft.build_eq_ok_iff.mpr
    ⟨tables, tree, h.layers_eq ▸ htables, Transform.Tree.mergeAll_congr hentries hmerge, ?_⟩
  -- what is derived depends on the mode, the dead keys and what the first two steps gave
  have hcomplete : (LayoutDraft.ofDeclarations first).complete tables tree =
      (LayoutDraft.ofDeclarations second).complete tables tree := by
    rw [LayoutDraft.complete, LayoutDraft.complete, h.mode_eq, h.deadKeys_eq hlayers]
  rw [hcomplete, h.deadKeys_eq hlayers, h.space_eq]

end SameDeclared

namespace LayoutDraft

/-- Nothing is registered by either list, and yet one of the layouts has a set of dead keys. -/
theorem build_registers_empty_set :
    let silent : List Declaration := [.layer "x" []]
    let empty : List Declaration := [.layer "x" [], .deadKeys "x" []]
    SameDeclared silent empty ∧
      ∃ without withSet, (ofDeclarations silent).build.value = .ok without ∧
        (ofDeclarations empty).build.value = .ok withSet ∧ without ≠ withSet := by
  intro silent empty
  have same : SameDeclared silent empty := by
    constructor
    case mode => rfl
    case space => exact fun _ => rfl
    all_goals simp [silent, empty, Declaration.keysFor, Declaration.keyLayer?,
      Declaration.deadKeysFor, Declaration.entryOf?]
  exact ⟨same, _, _, rfl, rfl, by decide⟩

/-- Two lists of declarations that say the same and register dead keys for the same layers either
both cannot be built or build the same layout. -/
theorem build_of_sameDeclared {first second : List Declaration} (same : SameDeclared first second)
    (sets : SameDeadKeyLayers first second) :
    ((∃ error, (ofDeclarations first).build.value = .error error) ∧
        ∃ error, (ofDeclarations second).build.value = .error error) ∨
      ∃ layout, (ofDeclarations first).build.value = .ok layout ∧
        (ofDeclarations second).build.value = .ok layout := by
  cases hfirst : (ofDeclarations first).build.value with
  | ok layout => exact .inr ⟨layout, rfl, same.build_eq_ok sets hfirst⟩
  | error error =>
    cases hsecond : (ofDeclarations second).build.value with
    | error other => exact .inl ⟨⟨error, rfl⟩, other, rfl⟩
    | ok layout =>
      have hbuild := same.symm.build_eq_ok sets.symm hsecond
      rw [hfirst] at hbuild
      cases hbuild

/-- A transform may come before the dead key that starts it, a level after what is in it. -/
theorem build_of_sameDeclared_circumflex :
    let first : List Declaration := [.deadKeys "default" ["^"], .key "default" "C01" "a",
      .branch ["^"], .transform ["^", "a"] "â", .space "default" "_"]
    let second : List Declaration := [.transform ["^", "a"] "â", .space "default" "",
      .deadKeys "default" ["^", "^"], .branch ["^"], .space "default" "_", .derive .off,
      .transform ["^", "a"] "â", .layer "default" [("C02", ""), ("C01", "a")]]
    SameDeclared first second ∧ SameDeadKeyLayers first second ∧
      ∃ layout, (ofDeclarations first).build.value = .ok layout ∧
        (ofDeclarations second).build.value = .ok layout := by
  intro first second
  have same : SameDeclared first second := by
    constructor
    case keys =>
      intro layer
      by_cases hlayer : "default" = layer <;>
        simp [first, second, Declaration.keysFor, hlayer]
    case space =>
      intro layer
      by_cases hlayer : "default" = layer <;>
        simp [first, second, Declaration.spaceFor?, hlayer, List.findSome?_cons]
    case mode => rfl
    case entries =>
      intro entry
      have hfirst : first.filterMap Declaration.entryOf? =
          [⟨["^"], none⟩, ⟨["^", "a"], some "â"⟩] := rfl
      have hsecond : second.filterMap Declaration.entryOf? =
          [⟨["^", "a"], some "â"⟩, ⟨["^"], none⟩, ⟨["^", "a"], some "â"⟩] := rfl
      simp only [hfirst, hsecond, List.mem_cons, List.not_mem_nil, or_false]
      tauto
    all_goals simp [first, second, Declaration.keyLayer?, Declaration.deadKeysFor]
  have sets : SameDeadKeyLayers first second := by
    intro layer
    simp [first, second, Declaration.deadKeyLayer?]
  refine ⟨same, sets, ?_⟩
  rcases build_of_sameDeclared same sets with ⟨⟨error, failed⟩, _⟩ | built
  · have succeeds : ∃ layout, (ofDeclarations first).build.value = .ok layout := ⟨_, rfl⟩
    obtain ⟨layout, built⟩ := succeeds
    rw [failed] at built
    cases built
  · exact built

end LayoutDraft

end DeadKeys
