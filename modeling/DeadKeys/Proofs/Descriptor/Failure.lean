import DeadKeys.Proofs.Descriptor.Loading

/-!
# Documents that cannot be loaded

What is reported about a document that cannot be loaded. Keyboards are built one by one, and the
first in the order of the ids that cannot be built is the error. What is wrong with a keyboard is
told by `Keyboard.FirstFault` without the build: first a value among the transforms that is none,
then the derivation mode, then the position of a key. Of several faults of one kind the first in
the order of the document counts, which is the order of the keys on every level.
-/

namespace DeadKeys.Descriptor

open Transform

/-! ## Values that are no transforms -/

/-- One path comes before another depth first: at the first key in which they differ it has the
smaller one. -/
def PathBefore (path other : List String) : Prop := List.Lex (· < ·) path other

theorem PathBefore.asymm {path other : List String} (h : PathBefore path other) :
    ¬ PathBefore other path :=
  List.lex_asymm (fun hlt hgt => KeyOrder.irrefl _ (KeyOrder.trans hlt hgt)) h

/-- The value at a path below a value; the empty path leads to the value itself. -/
def TransformValue.valueAt? (value : TransformValue) : List String → Option TransformValue
  | [] => some value
  | key :: path =>
    match value with
    | .object members => TransformMembers.valueAt? members (key :: path)
    | _ => none

/-- At the path there is a value that is no transform, and none of that kind comes before it. -/
def IsFirstInvalid (valueAt? : List String → Option TransformValue) (path : List String)
    (kind : Json.Kind) : Prop :=
  valueAt? path = some (.other kind) ∧
    ∀ other found, valueAt? other = some (.other found) → other = path ∨ PathBefore path other

/-- Only one path is the first. -/
theorem IsFirstInvalid.unique {valueAt? : List String → Option TransformValue}
    {path other : List String} {kind found : Json.Kind} (h : IsFirstInvalid valueAt? path kind)
    (h' : IsFirstInvalid valueAt? other found) : path = other ∧ kind = found := by
  have hpath : path = other := by
    rcases h.2 other found h'.1 with heq | hbefore
    · exact heq.symm
    · rcases h'.2 path kind h.1 with heq | hafter
      · exact heq
      · exact absurd hafter hbefore.asymm
  subst hpath
  have hvalue := h.1.symm.trans h'.1
  exact ⟨rfl, TransformValue.other.inj (Option.some.inj hvalue)⟩

/-- Below a member the path goes on from its value. -/
theorem TransformMembers.valueAt?_cons (members : TransformMembers) (key : String)
    (path : List String) :
    valueAt? members (key :: path) = (members.get? key).bind (·.valueAt? path) := by
  cases path with
  | nil => rw [valueAt?]; cases members.get? key <;> rfl
  | cons next path =>
    rw [valueAt?]
    rcases members.get? key with _ | (_ | _ | _) <;> rfl

namespace TransformValue

/-- Where there are only texts and objects, every path leads to one of them. -/
theorem OnlyTransforms.valueAt?_ne_other {value : TransformValue} (h : value.OnlyTransforms)
    (path : List String) (kind : Json.Kind) : value.valueAt? path ≠ some (.other kind) := by
  have hnode : ∀ node, ofNode node ≠ .other kind := by
    intro node
    cases node <;> simp [ofNode]
  obtain ⟨node, rfl⟩ := h.exists_ofNode
  cases path with
  | nil =>
    intro heq
    exact hnode node (Option.some.inj heq)
  | cons key path =>
    cases node with
    | leaf output => simp [ofNode, valueAt?]
    | branch level =>
      rw [ofNode, valueAt?, valueAt?_ofLevel]
      intro heq
      obtain ⟨found, _, hfound⟩ := Option.map_eq_some_iff.mp heq
      exact hnode found hfound

/-- The first invalid value of the first member comes before those of the others, since its key is
the smallest. -/
theorem isFirstInvalid_of_head {key : String} {value : TransformValue} {rest : TransformMembers}
    (hlt : ∀ member ∈ rest, key < member.1) {path : List String} {kind : Json.Kind}
    (h : IsFirstInvalid value.valueAt? path kind) :
    IsFirstInvalid (TransformMembers.valueAt? ((key, value) :: rest)) (key :: path) kind := by
  refine ⟨?_, ?_⟩
  · rw [TransformMembers.valueAt?_cons, Entries.get?, if_pos rfl]
    exact h.1
  · intro other found hother
    cases other with
    | nil => cases hother
    | cons next other =>
      rw [TransformMembers.valueAt?_cons, Entries.get?] at hother
      by_cases hkey : next = key
      · rw [if_pos hkey] at hother
        subst hkey
        rcases h.2 other found hother with rfl | hbefore
        · exact .inl rfl
        · exact .inr (.cons hbefore)
      · rw [if_neg hkey] at hother
        obtain ⟨member, hmember, _⟩ := Option.bind_eq_some_iff.mp hother
        exact .inr (.rel (hlt _ (Entries.mem_of_get?_eq_some hmember)))

/-- Behind a first member without invalid values the first of the others is the first of all. -/
theorem isFirstInvalid_of_rest {key : String} {value : TransformValue} {rest : TransformMembers}
    (hlt : ∀ member ∈ rest, key < member.1) (hvalue : value.OnlyTransforms) {path : List String}
    {kind : Json.Kind} (h : IsFirstInvalid (TransformMembers.valueAt? rest) path kind) :
    IsFirstInvalid (TransformMembers.valueAt? ((key, value) :: rest)) path kind := by
  -- an invalid value is in one of the other members, at the same path in both lists
  have hsame : ∀ other found,
      TransformMembers.valueAt? ((key, value) :: rest) other = some (.other found) ↔
        TransformMembers.valueAt? rest other = some (.other found) := by
    intro other found
    cases other with
    | nil => rfl
    | cons next other =>
      rw [TransformMembers.valueAt?_cons, TransformMembers.valueAt?_cons, Entries.get?]
      by_cases hkey : next = key
      · have hnone : Entries.get? next rest = none :=
          Entries.get?_eq_none_of_forall (hkey ▸ hlt)
        rw [if_pos hkey, hnone]
        simpa using hvalue.valueAt?_ne_other other found
      · rw [if_neg hkey]
  refine ⟨(hsame _ _).mpr h.1, ?_⟩
  intro other found hother
  exact h.2 other found ((hsame _ _).mp hother)

mutual

/-- Flattening a value fails with its first invalid value. -/
theorem isFirstInvalid_of_entries : {value : TransformValue} → value.Sorted →
    {before : List String} → {invalid : InvalidTransform} →
    value.entries before = .error invalid →
      ∃ path, invalid.path = before ++ path ∧ IsFirstInvalid value.valueAt? path invalid.found
  | .text _, _, _, _, h => by
    rw [entries] at h
    cases h
  | .object [], _, _, _, h => by
    rw [entries] at h
    cases h
  | .object (head :: rest), hsorted, before, invalid, h => by
    rw [entries, List.isEmpty_cons, if_neg Bool.false_ne_true] at h
    obtain ⟨path, hpath, hinvalid, hfirst⟩ := isFirstInvalid_of_entriesOfMembers hsorted h
    refine ⟨path, hpath, ?_, ?_⟩
    · cases path with
      | nil => cases hinvalid
      | cons key path => exact hinvalid
    · intro other found hother
      cases other with
      | nil => cases hother
      | cons key other => exact hfirst _ found hother
  | .other kind, _, before, invalid, h => by
    rw [entries] at h
    obtain rfl := Except.error.inj h
    refine ⟨[], (List.append_nil before).symm, rfl, ?_⟩
    intro other found hother
    cases other with
    | nil => exact .inl rfl
    | cons key other => cases hother

theorem isFirstInvalid_of_entriesOfMembers : {members : List (String × TransformValue)} →
    SortedMembers members → {before : List String} → {invalid : InvalidTransform} →
    entriesOfMembers before members = .error invalid →
      ∃ path, invalid.path = before ++ path ∧
        IsFirstInvalid (TransformMembers.valueAt? members) path invalid.found
  | [], _, _, _, h => by cases h
  | (key, value) :: rest, hsorted, before, invalid, h => by
    obtain ⟨hvalueSorted, hlt, hrestSorted⟩ := hsorted
    rw [entriesOfMembers] at h
    cases hvalue : value.entries (before ++ [key]) with
    | error first =>
      obtain rfl : first = invalid := by simpa [hvalue, bind, Except.bind] using h
      obtain ⟨path, hpath, hfirst⟩ := isFirstInvalid_of_entries hvalueSorted hvalue
      exact ⟨key :: path, by simpa using hpath, isFirstInvalid_of_head hlt hfirst⟩
    | ok found =>
      cases hrest : entriesOfMembers before rest with
      | ok others => simp [hvalue, hrest, bind, Except.bind, pure, Except.pure] at h
      | error later =>
        obtain rfl : later = invalid := by simpa [hvalue, hrest, bind, Except.bind] using h
        obtain ⟨path, hpath, hfirst⟩ := isFirstInvalid_of_entriesOfMembers hrestSorted hrest
        exact ⟨path, hpath, isFirstInvalid_of_rest hlt (onlyTransforms_of_entries hvalue) hfirst⟩

end

end TransformValue

namespace TransformObject

variable {object : TransformObject}

/-- An object can be flattened exactly if there are only texts and objects in it. -/
theorem exists_entries_iff :
    (∃ found, object.entries = .ok found) ↔
      ∀ path kind, object.valueAt? path ≠ some (.other kind) := by
  constructor
  · rintro ⟨found, h⟩ path kind
    have honly : (TransformValue.object object.members).OnlyTransforms :=
      TransformValue.onlyTransformsIn_of_entries h
    cases path with
    | nil =>
      intro heq
      cases heq
    | cons key path => exact honly.valueAt?_ne_other (key :: path) kind
  · intro h
    cases hentries : object.entries with
    | ok found => exact ⟨found, rfl⟩
    | error invalid =>
      obtain ⟨path, _, hvalue, _⟩ :=
        TransformValue.isFirstInvalid_of_entriesOfMembers object.sorted hentries
      exact absurd hvalue (h path invalid.found)

/-- Flattening an object fails exactly with its first invalid value. -/
theorem entries_eq_error_iff {invalid : InvalidTransform} :
    object.entries = .error invalid ↔ IsFirstInvalid object.valueAt? invalid.path invalid.found := by
  have hforward : ∀ invalid, object.entries = .error invalid →
      IsFirstInvalid object.valueAt? invalid.path invalid.found := by
    intro invalid h
    obtain ⟨path, hpath, hfirst⟩ :=
      TransformValue.isFirstInvalid_of_entriesOfMembers object.sorted h
    rw [hpath]
    exact hfirst
  constructor
  · exact hforward invalid
  · intro h
    cases hentries : object.entries with
    | ok found => exact absurd h.1 (exists_entries_iff.mp ⟨found, hentries⟩ _ _)
    | error other =>
      obtain ⟨hpath, hfound⟩ := h.unique (hforward other hentries)
      cases invalid
      cases other
      cases hpath
      cases hfound
      rfl

end TransformObject

/-! ## Derivation modes -/

theorem deriveMode_eq_error_iff {setting : Option DeriveSetting} {error : KeyboardError} :
    deriveMode setting = .error error ↔
      ∃ name, setting = some (.mode name) ∧ name ≠ "all" ∧ error = .unknownDeriveMode name := by
  rcases setting with _ | ⟨_ | _⟩ | name
  · simp [deriveMode]
  · simp [deriveMode]
  · simp [deriveMode]
  · by_cases hname : name = "all" <;> simp [deriveMode, hname, eq_comm]

/-! ## Positions of keys -/

namespace Keyboard

/-- A key of a layer has a value that is not empty, and its name is shaped like a position that does
not exist. -/
def HasUnknown (keyboard : Keyboard) (layer key : String) : Prop :=
  ∃ keys value, keyboard.layers.get? layer = some keys ∧ keys.get? key = some (some value) ∧
    value ≠ "" ∧ Key.isPositionShaped key = true ∧ Key.codeAt? key = none

/-- The first of these keys, in order of the layers and then of the keys. -/
def IsFirstUnknown (keyboard : Keyboard) (layer key : String) : Prop :=
  keyboard.HasUnknown layer key ∧ ∀ other name, keyboard.HasUnknown other name →
    layer < other ∨ layer = other ∧ (key = name ∨ key < name)

theorem IsFirstUnknown.unique {keyboard : Keyboard} {layer key other name : String}
    (h : keyboard.IsFirstUnknown layer key) (h' : keyboard.IsFirstUnknown other name) :
    key = name := by
  rcases h.2 other name h'.1 with hlt | ⟨rfl, heq | hlt⟩
  · rcases h'.2 layer key h.1 with hgt | ⟨rfl, _⟩
    · exact absurd (KeyOrder.trans hlt hgt) (KeyOrder.irrefl _)
    · exact absurd hlt (KeyOrder.irrefl _)
  · exact heq
  · rcases h'.2 layer key h.1 with hgt | ⟨_, heq | hgt⟩
    · exact absurd hgt (KeyOrder.irrefl _)
    · exact heq.symm
    · exact absurd (KeyOrder.trans hlt hgt) (KeyOrder.irrefl _)

/-- The keys of a layer that are declared: those with a value that is not empty. -/
def declaredKeys (keys : SortedMap String (Option String)) : Entries String String :=
  (keys.entries.filterMap fun key => key.2.map fun value => (key.1, value)).filter (·.2 ≠ "")

theorem ascending_declaredKeys (keys : SortedMap String (Option String)) :
    (declaredKeys keys).Ascending := by
  refine List.Pairwise.filter _ (List.pairwise_filterMap.mpr ?_)
  refine keys.ascending.imp ?_
  intro first second hlt a ha b hb
  obtain ⟨_, _, rfl⟩ := Option.map_eq_some_iff.mp ha
  obtain ⟨_, _, rfl⟩ := Option.map_eq_some_iff.mp hb
  exact hlt

theorem mem_declaredKeys {keys : SortedMap String (Option String)} {key value : String} :
    (key, value) ∈ declaredKeys keys ↔ keys.get? key = some (some value) ∧ value ≠ "" := by
  rw [declaredKeys, List.mem_filter, List.mem_filterMap, SortedMap.get?_eq_some_iff]
  constructor
  · rintro ⟨⟨⟨name, found⟩, hmem, hfound⟩, hvalue⟩
    obtain ⟨_, rfl, heq⟩ := Option.map_eq_some_iff.mp hfound
    cases heq
    exact ⟨hmem, of_decide_eq_true hvalue⟩
  · rintro ⟨hmem, hvalue⟩
    exact ⟨⟨(key, some value), hmem, rfl⟩, decide_eq_true hvalue⟩

section Draft

variable {keyboard : Keyboard} {entries : List Entry} {mode : DeriveMode}

/-- The draft of a keyboard has its layers, each with the keys that are declared. -/
theorem layers_draft (name : String) :
    (keyboard.draft entries mode).layers.get? name =
      (keyboard.layers.get? name).map declaredKeys := by
  let written := keyboard.layers.entries.map fun layer =>
    (layer.1, layer.2.entries.filterMap fun key => key.2.map fun value => (key.1, value))
  let declarations := Declaration.listing written keyboard.deadKeys.entries entries
    keyboard.space.entries ++ [.derive mode]
  have hkeys : declarations.flatMap (Declaration.keysFor name) =
      ((keyboard.layers.get? name).map declaredKeys).getD [] := by
    rw [List.flatMap_append, Declaration.keysFor_listing, List.flatMap_map]
    have hlayer := Entries.flatMap_of_key keyboard.layers.ascending name declaredKeys
    exact (List.append_nil _).trans hlayer
  have hmentions : (∃ declaration ∈ declarations, declaration.keyLayer? = some name) ↔
      ∃ keys, keyboard.layers.get? name = some keys := by
    simp only [declarations, List.mem_append, or_and_right, exists_or,
      Declaration.keyLayer?_listing]
    simp [written, SortedMap.get?_eq_some_iff, Declaration.keyLayer?]
  have hlayers : (keyboard.draft entries mode).layers.get? name =
      if ∃ declaration ∈ declarations, declaration.keyLayer? = some name then
        some (declarations.flatMap (Declaration.keysFor name)) else none :=
    LayoutDraft.layers_ofDeclarations declarations name
  rw [hlayers, hkeys]
  cases hlayer : keyboard.layers.get? name with
  | none => simp [hmentions, hlayer]
  | some keys => simp [hmentions, hlayer]

/-- The declared keys of a layer that are unknown. -/
theorem hasUnknown_iff {layer key : String} {keys : SortedMap String (Option String)}
    (hkeys : keyboard.layers.get? layer = some keys) :
    keyboard.HasUnknown layer key ↔
      ∃ value, (key, value) ∈ declaredKeys keys ∧ Key.resolve? key = none := by
  constructor
  · rintro ⟨found, value, hfound, hkey, hvalue, hunknown⟩
    obtain rfl := Option.some.inj (hkeys.symm.trans hfound)
    exact ⟨value, mem_declaredKeys.mpr ⟨hkey, hvalue⟩, Key.resolve?_eq_none_iff.mpr hunknown⟩
  · rintro ⟨value, hmem, hunknown⟩
    obtain ⟨hkey, hvalue⟩ := mem_declaredKeys.mp hmem
    exact ⟨keys, value, hkeys, hkey, hvalue, Key.resolve?_eq_none_iff.mp hunknown⟩

/-- The keys of a layer cannot be resolved exactly if one of them is unknown. -/
theorem exists_resolveKeys_eq_error_iff {layer : String} {keys : SortedMap String (Option String)}
    (hkeys : keyboard.layers.get? layer = some keys) :
    (∃ error, LayoutDraft.resolveKeys (declaredKeys keys) = .error error) ↔
      ∃ key, keyboard.HasUnknown layer key := by
  constructor
  · rintro ⟨error, h⟩
    obtain ⟨key, hfirst, _⟩ :=
      (LayoutDraft.resolveKeys_eq_error_iff (ascending_declaredKeys keys)).mp h
    exact ⟨key.1, (hasUnknown_iff hkeys).mpr ⟨key.2, hfirst.mem, hfirst.holds⟩⟩
  · rintro ⟨key, hunknown⟩
    obtain ⟨value, hmem, hnone⟩ := (hasUnknown_iff hkeys).mp hunknown
    cases hresolve : LayoutDraft.resolveKeys (declaredKeys keys) with
    | error error => exact ⟨error, rfl⟩
    | ok table =>
      exact absurd hnone (LayoutDraft.resolve?_ne_none_of_resolveKeys hresolve (key, value) hmem)

/-- Resolving the keys of a draft fails with the first unknown key. -/
theorem exists_isFirstUnknown {error : LayoutError}
    (h : (keyboard.draft entries mode).layers.tryMap LayoutDraft.resolveKeys = .error error) :
    ∃ layer key, keyboard.IsFirstUnknown layer key ∧ error = .unknownPosition key := by
  have hlayers : ∀ layer keys, (layer, keys) ∈ (keyboard.draft entries mode).layers.entries ↔
      ∃ found, keyboard.layers.get? layer = some found ∧ declaredKeys found = keys := by
    intro layer keys
    rw [← SortedMap.get?_eq_some_iff, layers_draft, Option.map_eq_some_iff]
  obtain ⟨⟨layer, keys⟩, hfirst, hresolve⟩ :=
    (Entries.tryMap_eq_error_iff (SortedMap.ascending _)).mp (SortedMap.tryMap_eq_error_iff.mp h)
  obtain ⟨found, hfound, rfl⟩ := (hlayers layer keys).mp hfirst.mem
  obtain ⟨⟨key, value⟩, hkey, rfl⟩ :=
    (LayoutDraft.resolveKeys_eq_error_iff (ascending_declaredKeys found)).mp hresolve
  refine ⟨layer, key, ⟨(hasUnknown_iff hfound).mpr ⟨value, hkey.mem, hkey.holds⟩, ?_⟩, rfl⟩
  intro other name hunknown
  rcases KeyOrder.total layer other with hlt | rfl | hgt
  · exact .inl hlt
  · refine .inr ⟨rfl, ?_⟩
    obtain ⟨text, hmem, hnone⟩ := (hasUnknown_iff hfound).mp hunknown
    rcases KeyOrder.total key name with hlt | rfl | hgt
    · exact .inr hlt
    · exact .inl rfl
    · exact absurd hnone (hkey.before (name, text) hmem hgt)
  · -- a layer before this one has no unknown key, or it would have failed first
    obtain ⟨otherKeys, _, hother, _⟩ := id hunknown
    have hfails := (exists_resolveKeys_eq_error_iff hother).mpr ⟨name, hunknown⟩
    exact absurd hfails
      (hfirst.before (other, declaredKeys otherKeys) ((hlayers _ _).mpr ⟨_, hother, rfl⟩) hgt)

end Draft

/-! ## What is wrong with a keyboard -/

/-- The fault that is reported about a keyboard: the first value among the transforms that is none,
else an unknown derivation mode, else the first unknown key. -/
inductive FirstFault (keyboard : Keyboard) : KeyboardError → Prop
  | invalidTransform {path : List String} {kind : Json.Kind}
      (first : IsFirstInvalid keyboard.transforms.valueAt? path kind) :
      FirstFault keyboard (.invalidTransform ⟨path, kind⟩)
  | unknownDeriveMode {name : String}
      (transforms : ∀ path kind, keyboard.transforms.valueAt? path ≠ some (.other kind))
      (asked : keyboard.derive = some (.mode name)) (unknown : name ≠ "all") :
      FirstFault keyboard (.unknownDeriveMode name)
  | unknownPosition {layer key : String}
      (transforms : ∀ path kind, keyboard.transforms.valueAt? path ≠ some (.other kind))
      (mode : ∀ name, keyboard.derive = some (.mode name) → name = "all")
      (first : keyboard.IsFirstUnknown layer key) :
      FirstFault keyboard (.layout (.unknownPosition key))

theorem exists_deriveMode_iff {setting : Option DeriveSetting} :
    (∃ mode, deriveMode setting = .ok mode) ↔ ∀ name, setting = some (.mode name) → name = "all" := by
  cases hmode : deriveMode setting with
  | ok mode =>
    simp only [Except.ok.injEq, exists_eq', true_iff]
    intro name hasked
    by_contra hname
    rw [deriveMode_eq_error_iff.mpr ⟨name, hasked, hname, rfl⟩] at hmode
    cases hmode
  | error error =>
    obtain ⟨name, hasked, hname, _⟩ := deriveMode_eq_error_iff.mp hmode
    simp only [reduceCtorEq, exists_false, false_iff]
    exact fun h => hname (h name hasked)

/-- The draft of a keyboard is not built exactly if there is an unknown key, and the first is the
error. -/
theorem build_draft_eq_error_iff {keyboard : Keyboard} {entries : List Entry} {mode : DeriveMode}
    {error : LayoutError} (hentries : keyboard.transforms.entries = .ok entries) :
    (keyboard.draft entries mode).build.value = .error error ↔
      ∃ layer key, keyboard.IsFirstUnknown layer key ∧ error = .unknownPosition key := by
  obtain ⟨tree, hmerge, _⟩ := TransformObject.exists_tree_of_entries hentries
  have hdeclared : Tree.empty.mergeAll (keyboard.draft entries mode).transforms = .ok tree := by
    rw [transforms_draft, hmerge]
  rw [LayoutDraft.build_eq_error_iff hdeclared]
  constructor
  · exact exists_isFirstUnknown
  · rintro ⟨layer, key, hfirst, rfl⟩
    cases hlayers : (keyboard.draft entries mode).layers.tryMap LayoutDraft.resolveKeys with
    | error other =>
      obtain ⟨_, _, hother, rfl⟩ := exists_isFirstUnknown hlayers
      rw [hfirst.unique hother]
    | ok tables =>
      -- the layer of the unknown key could not have been resolved
      obtain ⟨keys, _, hkeys, _⟩ := id hfirst.1
      obtain ⟨failure, hfails⟩ := (exists_resolveKeys_eq_error_iff hkeys).mpr ⟨key, hfirst.1⟩
      have hmapped := SortedMap.tryMap_eq_ok_iff_get?.mp hlayers layer
      rw [layers_draft, hkeys, Option.map_some, Option.map_some, hfails] at hmapped
      obtain ⟨_, _, hok⟩ := Option.map_eq_some_iff.mp hmapped.symm
      cases hok

/-- A keyboard is not built exactly if there is a fault to report, and this is the error. -/
theorem build_eq_error_iff {keyboard : Keyboard} {error : KeyboardError} :
    keyboard.build.value = .error error ↔ keyboard.FirstFault error := by
  rw [build_value]
  constructor
  · intro h
    cases hentries : keyboard.transforms.entries with
    | error invalid =>
      obtain rfl : .invalidTransform invalid = error := by simpa [hentries] using h
      exact .invalidTransform (TransformObject.entries_eq_error_iff.mp hentries)
    | ok entries =>
      have htransforms := TransformObject.exists_entries_iff.mp ⟨entries, hentries⟩
      cases hmode : deriveMode keyboard.derive with
      | error unknown =>
        obtain rfl : unknown = error := by simpa [hentries, hmode] using h
        obtain ⟨name, hasked, hname, rfl⟩ := deriveMode_eq_error_iff.mp hmode
        exact .unknownDeriveMode htransforms hasked hname
      | ok mode =>
        have hknown := exists_deriveMode_iff.mp ⟨mode, hmode⟩
        cases hdraft : (keyboard.draft entries mode).build.value with
        | ok layout => simp [hentries, hmode, hdraft, Except.mapError] at h
        | error cause =>
          obtain rfl : .layout cause = error := by
            simpa [hentries, hmode, hdraft, Except.mapError] using h
          obtain ⟨layer, key, hfirst, rfl⟩ := (build_draft_eq_error_iff hentries).mp hdraft
          exact .unknownPosition htransforms hknown hfirst
  · intro h
    cases h with
    | @invalidTransform path kind first =>
      have hentries : keyboard.transforms.entries = .error ⟨path, kind⟩ :=
        TransformObject.entries_eq_error_iff.mpr first
      rw [hentries]
    | unknownDeriveMode transforms asked unknown =>
      obtain ⟨entries, hentries⟩ := TransformObject.exists_entries_iff.mpr transforms
      rw [hentries, deriveMode_eq_error_iff.mpr ⟨_, asked, unknown, rfl⟩]
    | @unknownPosition layer key transforms mode first =>
      obtain ⟨entries, hentries⟩ := TransformObject.exists_entries_iff.mpr transforms
      obtain ⟨derived, hmode⟩ := exists_deriveMode_iff.mpr mode
      have hdraft : (keyboard.draft entries derived).build.value = .error (.unknownPosition key) :=
        (build_draft_eq_error_iff hentries).mpr ⟨layer, key, first, rfl⟩
      rw [hentries, hmode]
      simp only [hdraft, Except.mapError]

end Keyboard

/-! ## What is wrong with a document -/

/-- A document with one keyboard. -/
def Document.alone (id : String) (keyboard : Keyboard) : Document := .ofList [(id, keyboard)]

theorem Document.load_alone_value (id : String) (keyboard : Keyboard) :
    (Document.alone id keyboard).load.value =
      match keyboard.build.value with
      | .error error => .error (.keyboard id error)
      | .ok layout => .ok (SortedMap.empty.insert id layout) := by
  have hload : (Document.alone id keyboard).load.value =
      (loadInto .empty [(id, keyboard)]).value := rfl
  rw [hload, loadInto_cons_value]
  cases keyboard.build.value <;> rfl

/-- Keyboards in the order of their ids fail to load with the first that is not built. -/
theorem loadInto_eq_error_iff {store : LayoutStore} {entries : Entries String Keyboard}
    (hasc : entries.Ascending) {error : LoadError} :
    (loadInto store entries).value = .error error ↔
      ∃ entry, entries.IsFirst (fun entry => ∃ cause, entry.2.build.value = .error cause) entry ∧
        ∃ cause, entry.2.build.value = .error cause ∧ error = .keyboard entry.1 cause := by
  induction entries generalizing store with
  | nil => simp [loadInto, Entries.not_isFirst_nil]
  | cons head rest ih =>
    have hrest := (List.pairwise_cons.mp hasc).2
    rw [loadInto_cons_value]
    simp only [Entries.isFirst_cons hasc]
    cases hbuild : head.2.build.value with
    | error cause => simp [hbuild, eq_comm]
    | ok layout => simpa [hbuild] using ih hrest

/-- A keyboard loads alone exactly if it is built. -/
theorem Document.exists_load_alone_iff {id : String} {keyboard : Keyboard} :
    (∃ own, (Document.alone id keyboard).load.value = .ok own) ↔
      ∃ layout, keyboard.build.value = .ok layout := by
  rw [load_alone_value]
  cases keyboard.build.value <;> simp

/-- A document fails to load with the first of its keyboards that is not built. -/
theorem Document.load_eq_error_iff {document : Document} {error : LoadError} :
    document.load.value = .error error ↔
      ∃ id keyboard cause, document.get? id = some keyboard ∧
        keyboard.build.value = .error cause ∧ error = .keyboard id cause ∧
        ∀ other found, document.get? other = some found → other < id →
          ∃ layout, found.build.value = .ok layout := by
  rw [load, loadInto_eq_error_iff document.ascending]
  constructor
  · rintro ⟨⟨id, keyboard⟩, hfirst, cause, hbuild, rfl⟩
    refine ⟨id, keyboard, cause, SortedMap.get?_eq_some_iff.mpr hfirst.mem, hbuild, rfl, ?_⟩
    intro other found hfound hlt
    cases hother : found.build.value with
    | ok layout => exact ⟨layout, rfl⟩
    | error failure =>
      have hmem := SortedMap.get?_eq_some_iff.mp hfound
      exact absurd ⟨failure, hother⟩ (hfirst.before (other, found) hmem hlt)
  · rintro ⟨id, keyboard, cause, hkeyboard, hbuild, rfl, hbefore⟩
    refine ⟨(id, keyboard), ⟨SortedMap.get?_eq_some_iff.mp hkeyboard, ⟨cause, hbuild⟩, ?_⟩, cause,
      hbuild, rfl⟩
    rintro ⟨other, found⟩ hmem hlt ⟨failure, hother⟩
    obtain ⟨layout, hlayout⟩ := hbefore other found (SortedMap.get?_eq_some_iff.mpr hmem) hlt
    rw [hother] at hlayout
    cases hlayout

/-- A document loads exactly if each of its keyboards loads alone. The store then has the ids of the
document, each with the layout that its keyboard has alone. A document that does not load fails with
the error of the first keyboard that does not load alone, which is its first fault. -/
theorem load_keyboards_alone {text : String} {document : Document}
    (wellTyped : readDocument text = .ok document) :
    ((∃ store, (load text).value = .ok store) ↔
        ∀ id keyboard, document.get? id = some keyboard →
          ∃ own, (Document.alone id keyboard).load.value = .ok own) ∧
      (∀ store, (load text).value = .ok store →
        (∀ id, (∃ layout, store.get? id = some layout) ↔
          ∃ keyboard, document.get? id = some keyboard) ∧
        ∀ id keyboard, document.get? id = some keyboard →
          ∃ own, (Document.alone id keyboard).load.value = .ok own ∧ store.get? id = own.get? id) ∧
      ∀ error, (load text).value = .error error ↔
        ∃ id keyboard cause, document.get? id = some keyboard ∧
          (Document.alone id keyboard).load.value = .error error ∧
          error = .keyboard id cause ∧ keyboard.FirstFault cause ∧
          ∀ other found, document.get? other = some found → other < id →
            ∃ own, (Document.alone other found).load.value = .ok own := by
  have hload : (load text).value = document.load.value := by
    rw [load_value, wellTyped]
    rfl
  rw [hload]
  refine ⟨⟨?_, ?_⟩, ?_, ?_⟩
  · rintro ⟨store, hstore⟩ id keyboard hkeyboard
    obtain ⟨layout, hbuild, _⟩ :=
      (get?_of_loadInto document.ascending hstore).2 id keyboard hkeyboard
    exact Document.exists_load_alone_iff.mpr ⟨layout, hbuild⟩
  · intro halone
    cases hresult : document.load.value with
    | ok store => exact ⟨store, rfl⟩
    | error error =>
      obtain ⟨id, keyboard, cause, hkeyboard, hbuild, _⟩ := Document.load_eq_error_iff.mp hresult
      obtain ⟨layout, hlayout⟩ := Document.exists_load_alone_iff.mp (halone id keyboard hkeyboard)
      rw [hbuild] at hlayout
      cases hlayout
  · intro store hstore
    obtain ⟨hothers, hkeyboards⟩ := get?_of_loadInto document.ascending hstore
    refine ⟨?_, ?_⟩
    · intro id
      cases hkeyboard : document.get? id with
      | none =>
        rw [hothers id hkeyboard]
        simp
      | some keyboard =>
        obtain ⟨layout, _, hlayout⟩ := hkeyboards id keyboard hkeyboard
        simp [hlayout]
    · intro id keyboard hkeyboard
      obtain ⟨layout, hbuild, hlayout⟩ := hkeyboards id keyboard hkeyboard
      refine ⟨SortedMap.empty.insert id layout, ?_, ?_⟩
      · rw [Document.load_alone_value, hbuild]
      · rw [hlayout, SortedMap.get?_insert, if_pos rfl]
  · intro error
    rw [Document.load_eq_error_iff]
    constructor
    · rintro ⟨id, keyboard, cause, hkeyboard, hbuild, rfl, hbefore⟩
      refine ⟨id, keyboard, cause, hkeyboard, ?_, rfl, Keyboard.build_eq_error_iff.mp hbuild, ?_⟩
      · rw [Document.load_alone_value, hbuild]
      · intro other found hfound hlt
        exact Document.exists_load_alone_iff.mpr (hbefore other found hfound hlt)
    · rintro ⟨id, keyboard, cause, hkeyboard, _, rfl, hfault, hbefore⟩
      refine ⟨id, keyboard, cause, hkeyboard, Keyboard.build_eq_error_iff.mpr hfault, rfl, ?_⟩
      intro other found hfound hlt
      exact Document.exists_load_alone_iff.mp (hbefore other found hfound hlt)

/-- The keyboard without a fault and the one behind do not matter, and neither do a key without a
value and one with an empty value. -/
theorem load_keyboards_alone_unknown :
    let text := "\x7b\"fr\": \x7b\"transforms\": \x7b\"^\": 1\x7d\x7d, \"de\": \x7b\"layers\": \x7b" ++
      "\"default\": \x7b\"A99\": null, \"B99\": \"\", \"C01\": \"a\"\x7d, \"alt\": \x7b\"E99\": \"x\", " ++
      "\"D77\": \"y\"\x7d\x7d, \"derive\": \x7b\"transforms\": \"all\"\x7d\x7d, \"be\": \x7b\x7d\x7d"
    ∃ document, readDocument text = .ok document ∧
      ∃ keyboard, document.get? "de" = some keyboard ∧
        keyboard.FirstFault (.layout (.unknownPosition "D77")) := by
  intro text
  have failed : (load text).value = .error (.keyboard "de" (.layout (.unknownPosition "D77"))) := by
    decide +kernel
  cases read : readDocument text with
  | error fault => simp [load_value, read] at failed
  | ok document =>
    obtain ⟨id, keyboard, cause, found, _, named, fault, _⟩ :=
      ((load_keyboards_alone read).2.2 _).mp failed
    obtain ⟨rfl, rfl⟩ := LoadError.keyboard.inj named
    exact ⟨document, rfl, keyboard, found, fault⟩

end DeadKeys.Descriptor
