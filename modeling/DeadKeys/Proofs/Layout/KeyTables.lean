import DeadKeys.Proofs.Layout.Build
import DeadKeys.Proofs.Layout.Declared
import DeadKeys.Proofs.Transform.Consistency

/-!
# Key tables

A key may be declared under its code or under its position, any number of times and in any layer.
The table of a built layer holds for each code the value that was declared last, under whichever
name; a pair with an empty value changes nothing. A position that is not known is the first thing a
build reports, by the name of its layer and then in order of declaration
(`LayoutDraft.build_makes_key_tables`).
-/

namespace DeadKeys

open Transform

/-! ## Names of keys -/

namespace Key

/-- The name is the code itself or the position where the code is found. -/
def StandsFor (name code : String) : Prop := name = code ∨ (name, code) ∈ positions

instance (name code : String) : Decidable (StandsFor name code) :=
  inferInstanceAs (Decidable (name = code ∨ (name, code) ∈ positions))

/-- The name is shaped like a position but is not one that is known. -/
def IsMissing (name : String) : Prop :=
  isPositionShaped name = true ∧ name ∉ positions.map Prod.fst

instance (name : String) : Decidable (IsMissing name) :=
  inferInstanceAs (Decidable (isPositionShaped name = true ∧ name ∉ positions.map Prod.fst))

/-- A known position is shaped like one and is listed with one code, which is not so shaped. -/
theorem positions_wellFormed : ∀ place ∈ positions, isPositionShaped place.1 = true ∧
    codeAt? place.1 = some place.2 ∧ isPositionShaped place.2 = false := by
  decide +kernel

theorem codeAt?_eq_some_iff {position code : String} :
    codeAt? position = some code ↔ (position, code) ∈ positions := by
  constructor
  · intro h
    obtain ⟨before, after, hpositions, _⟩ := List.lookup_eq_some_iff.mp h
    rw [hpositions]
    exact List.mem_append_right before List.mem_cons_self
  · intro hplace
    exact (positions_wellFormed _ hplace).2.1

/-- A name is resolved to what it stands for, and never to something shaped like a position. -/
theorem resolve?_eq_some_iff {name code : String} :
    resolve? name = some code ↔ isPositionShaped code = false ∧ StandsFor name code := by
  rw [resolve?]
  constructor
  · intro h
    by_cases hshaped : isPositionShaped name = true
    · rw [if_pos hshaped, codeAt?_eq_some_iff] at h
      exact ⟨(positions_wellFormed _ h).2.2, .inr h⟩
    · rw [if_neg hshaped] at h
      obtain rfl := Option.some.inj h
      exact ⟨by simpa using hshaped, .inl rfl⟩
  · rintro ⟨hcode, rfl | hplace⟩
    · rw [hcode, if_neg Bool.false_ne_true]
    · rw [(positions_wellFormed _ hplace).1, if_pos rfl, codeAt?_eq_some_iff]
      exact hplace

/-- What a key name stands for, stands for itself. -/
theorem resolve?_of_resolve? {name code : String} (h : resolve? name = some code) :
    resolve? code = some code :=
  resolve?_eq_some_iff.mpr ⟨(resolve?_eq_some_iff.mp h).1, .inl rfl⟩

theorem resolve?_eq_none_iff_isMissing {name : String} : resolve? name = none ↔ IsMissing name := by
  have hknown : codeAt? name = none ↔ name ∉ positions.map Prod.fst := by
    rw [Option.eq_none_iff_forall_ne_some]
    simp [codeAt?_eq_some_iff]
  rw [resolve?_eq_none_iff, hknown, IsMissing]

end Key

/-! ## Declared pairs -/

/-- The pairs of a key and its value that are declared for a layer, empty values among them. -/
def Declaration.pairsFor (target : String) : Declaration → List (String × String)
  | .key name code value => if name = target then [(code, value)] else []
  | .layer name pairs => if name = target then pairs else []
  | _ => []

/-- The keys that count are those of the pairs with a value. -/
theorem Declaration.keysFor_eq_filter (target : String) (declaration : Declaration) :
    declaration.keysFor target = (declaration.pairsFor target).filter (·.2 ≠ "") := by
  cases declaration with
  | key name | layer name => by_cases hname : name = target <;> simp [keysFor, pairsFor, hname]
  | deadKeys | transform | branch | space | derive => rfl

/-- All pairs that are declared for a layer, in order. -/
def declaredPairs (declarations : List Declaration) (layer : String) : List (String × String) :=
  declarations.flatMap (Declaration.pairsFor layer)

theorem flatMap_keysFor (declarations : List Declaration) (layer : String) :
    declarations.flatMap (Declaration.keysFor layer) =
      (declaredPairs declarations layer).filter (·.2 ≠ "") := by
  rw [declaredPairs, List.filter_flatMap]
  exact congrArg declarations.flatMap (funext (Declaration.keysFor_eq_filter layer))

/-- A layer without declarations has no pairs. -/
theorem exists_keyLayer?_of_mem_declaredPairs {declarations : List Declaration} {layer : String}
    {pair : String × String} (h : pair ∈ declaredPairs declarations layer) :
    ∃ declaration ∈ declarations, declaration.keyLayer? = some layer := by
  obtain ⟨declaration, hmem, hpair⟩ := List.mem_flatMap.mp h
  refine ⟨declaration, hmem, ?_⟩
  cases declaration with
  | key name | layer name =>
    by_cases hname : name = layer
    · exact congrArg some hname
    · simp [Declaration.pairsFor, hname] at hpair
  | deadKeys | transform | branch | space | derive => cases hpair

namespace KeyTable

/-- A table can be declared as it is: its codes stand for themselves and it has no empty value. -/
def Settled (table : KeyTable) : Prop :=
  ∀ code value, table.get? code = some value → Key.resolve? code = some code ∧ value ≠ ""

/-- The pair gives the code a value. -/
def Gives (code : String) (pair : String × String) : Prop := pair.2 ≠ "" ∧ Key.StandsFor pair.1 code

instance (code : String) (pair : String × String) : Decidable (Gives code pair) :=
  inferInstanceAs (Decidable (pair.2 ≠ "" ∧ Key.StandsFor pair.1 code))

/-- The pair gives a value to a position that is not known. -/
def Misplaced (pair : String × String) : Prop := pair.2 ≠ "" ∧ Key.IsMissing pair.1

instance (pair : String × String) : Decidable (Misplaced pair) :=
  inferInstanceAs (Decidable (pair.2 ≠ "" ∧ Key.IsMissing pair.1))

/-- The first pair with a value at an unknown position names this one: no layer with a smaller name
has such a pair, and in its own layer none is declared before it. -/
def FirstMisplaced (declarations : List Declaration) (name : String) : Prop :=
  ∃ layer value,
    (declaredPairs declarations layer).find? (fun pair => Misplaced pair) = some (name, value) ∧
      ∀ other < layer, ∀ pair ∈ declaredPairs declarations other, ¬ Misplaced pair

end KeyTable

namespace LayoutDraft

open KeyTable (Gives Misplaced FirstMisplaced)

/-! ## One table -/

/-- A table holds for each code the value of the last key that stands for it. -/
theorem get?_of_resolveKeys {keys : List (String × String)} {table : KeyTable}
    (h : resolveKeys keys = .ok table) (code : String) :
    table.get? code = (keys.findRev? fun key => Key.resolve? key.1 = some code).map (·.2) := by
  rw [List.findRev?_eq_find?_reverse]
  induction keys using List.reverseRecOn generalizing table with
  | nil =>
    obtain rfl : SortedMap.empty = table := Except.ok.inj h
    rfl
  | append_singleton keys last ih =>
    obtain ⟨before, found, hkeys, hlast, rfl⟩ := resolveKeys_concat_eq_ok_iff.mp h
    rw [SortedMap.get?_insert, List.reverse_concat, List.find?_cons, hlast]
    by_cases hcode : code = found
    · simp [hcode]
    · simp [hcode, Ne.symm hcode, ih hkeys]

/-- No value is made up, and no code but one that stands for itself gets into a table. -/
theorem settled_of_resolveKeys {keys : List (String × String)} {table : KeyTable}
    (hvalues : ∀ key ∈ keys, key.2 ≠ "") (h : resolveKeys keys = .ok table) :
    KeyTable.Settled table := by
  intro code value hget
  rw [get?_of_resolveKeys h, List.findRev?_eq_find?_reverse] at hget
  obtain ⟨key, hfound, rfl⟩ := Option.map_eq_some_iff.mp hget
  have hmem : key ∈ keys := List.mem_reverse.mp (List.mem_of_find?_eq_some hfound)
  have hcode : Key.resolve? key.1 = some code := by simpa using List.find?_some hfound
  exact ⟨Key.resolve?_of_resolve? hcode, hvalues key hmem⟩

/-- A search among the pairs with a value is a search among all pairs. -/
theorem find?_filter_value {pairs : List (String × String)} {property valued : String × String → Prop}
    [DecidablePred property] [DecidablePred valued]
    (h : ∀ pair, valued pair ↔ pair.2 ≠ "" ∧ property pair) :
    (pairs.filter (·.2 ≠ "")).find? (fun pair => property pair) =
      pairs.find? fun pair => valued pair := by
  have hvalued : (fun pair : String × String => decide (valued pair)) = fun pair =>
      decide ((decide (pair.2 ≠ "") = true) ∧ decide (property pair) = true) := by
    funext pair
    refine decide_eq_decide.mpr ?_
    rw [h, decide_eq_true_iff, decide_eq_true_iff]
  rw [List.find?_filter, hvalued]

/-- Of declared pairs, the last that gives a code a value counts. -/
theorem get?_of_resolveKeys_pairs {pairs : List (String × String)} {table : KeyTable}
    (h : resolveKeys (pairs.filter (·.2 ≠ "")) = .ok table) {code : String}
    (hcode : Key.isPositionShaped code = false) :
    table.get? code = (pairs.findRev? fun pair => Gives code pair).map (·.2) := by
  have hgives : ∀ pair, Gives code pair ↔ pair.2 ≠ "" ∧ Key.resolve? pair.1 = some code := by
    intro pair
    simp [Gives, Key.resolve?_eq_some_iff, hcode]
  rw [get?_of_resolveKeys h, List.findRev?_eq_find?_reverse, List.findRev?_eq_find?_reverse,
    ← List.filter_reverse, find?_filter_value hgives]

/-- Declared pairs fail with the first that is misplaced. -/
theorem resolveKeys_pairs_eq_error_iff {pairs : List (String × String)} {error : LayoutError} :
    resolveKeys (pairs.filter (·.2 ≠ "")) = .error error ↔
      ∃ pair, pairs.find? (fun pair => Misplaced pair) = some pair ∧
        error = .unknownPosition pair.1 := by
  have hmisplaced : ∀ pair, Misplaced pair ↔ pair.2 ≠ "" ∧ Key.resolve? pair.1 = none := by
    intro pair
    rw [Misplaced, Key.resolve?_eq_none_iff_isMissing]
  rw [resolveKeys_eq_error_iff_find?, find?_filter_value hmisplaced]

theorem exists_resolveKeys_pairs_eq_error_iff {pairs : List (String × String)} :
    (∃ error, resolveKeys (pairs.filter (·.2 ≠ "")) = .error error) ↔
      ∃ pair ∈ pairs, Misplaced pair := by
  simp only [resolveKeys_pairs_eq_error_iff]
  constructor
  · rintro ⟨_, pair, hfound, _⟩
    exact ⟨pair, List.mem_of_find?_eq_some hfound, by simpa using List.find?_some hfound⟩
  · rintro ⟨pair, hmem, hpair⟩
    have hsome : (pairs.find? fun pair => Misplaced pair).isSome :=
      List.find?_isSome.mpr ⟨pair, hmem, decide_eq_true hpair⟩
    obtain ⟨first, hfound⟩ := Option.isSome_iff_exists.mp hsome
    exact ⟨_, first, hfound, rfl⟩

/-! ## All tables -/

section Declarations

variable {declarations : List Declaration}

/-- The layers of a draft with their keys. -/
theorem mem_layers_ofDeclarations {layer : String} {keys : List (String × String)} :
    (layer, keys) ∈ (ofDeclarations declarations).layers.entries ↔
      (∃ declaration ∈ declarations, declaration.keyLayer? = some layer) ∧
        keys = (declaredPairs declarations layer).filter (·.2 ≠ "") := by
  rw [← SortedMap.get?_eq_some_iff, layers_ofDeclarations, flatMap_keysFor]
  by_cases hmentioned : ∃ declaration ∈ declarations, declaration.keyLayer? = some layer
  · rw [if_pos hmentioned, Option.some_inj, and_iff_right hmentioned]
    exact eq_comm
  · simp [hmentioned]

/-- Resolving the keys of some layer fails exactly if a pair declared for it is misplaced. -/
theorem exists_error_iff_misplaced {layer : String} :
    (∃ keys, (layer, keys) ∈ (ofDeclarations declarations).layers.entries ∧
        ∃ error, resolveKeys keys = .error error) ↔
      ∃ pair ∈ declaredPairs declarations layer, Misplaced pair := by
  simp only [mem_layers_ofDeclarations]
  constructor
  · rintro ⟨_, ⟨_, rfl⟩, hfails⟩
    exact exists_resolveKeys_pairs_eq_error_iff.mp hfails
  · rintro ⟨pair, hmem, hpair⟩
    exact ⟨_, ⟨exists_keyLayer?_of_mem_declaredPairs hmem, rfl⟩,
      exists_resolveKeys_pairs_eq_error_iff.mpr ⟨pair, hmem, hpair⟩⟩

/-- The tables of a draft fail with the first misplaced pair. -/
theorem layers_eq_error_iff_firstMisplaced {error : LayoutError} :
    (ofDeclarations declarations).layers.tryMap resolveKeys = .error error ↔
      ∃ name, FirstMisplaced declarations name ∧ error = .unknownPosition name := by
  rw [SortedMap.tryMap_eq_error_iff, Entries.tryMap_eq_error_iff (SortedMap.ascending _)]
  constructor
  · rintro ⟨⟨layer, keys⟩, hfirst, hkeys⟩
    obtain ⟨_, rfl⟩ := mem_layers_ofDeclarations.mp hfirst.mem
    obtain ⟨⟨name, value⟩, hfound, herror⟩ := resolveKeys_pairs_eq_error_iff.mp hkeys
    refine ⟨name, ⟨layer, value, hfound, ?_⟩, herror⟩
    intro other hother pair hpair hmisplaced
    obtain ⟨keys, hmem, hfails⟩ := exists_error_iff_misplaced.mpr ⟨pair, hpair, hmisplaced⟩
    exact hfirst.before (other, keys) hmem hother hfails
  · rintro ⟨name, ⟨layer, value, hfound, hbefore⟩, rfl⟩
    have hmentioned := exists_keyLayer?_of_mem_declaredPairs (List.mem_of_find?_eq_some hfound)
    have hkeys : resolveKeys ((declaredPairs declarations layer).filter (·.2 ≠ "")) =
        .error (.unknownPosition name) :=
      resolveKeys_pairs_eq_error_iff.mpr ⟨_, hfound, rfl⟩
    refine ⟨(layer, _), ⟨mem_layers_ofDeclarations.mpr ⟨hmentioned, rfl⟩, ⟨_, hkeys⟩, ?_⟩, hkeys⟩
    rintro ⟨other, keys⟩ hmem hother hfails
    obtain ⟨pair, hpair, hmisplaced⟩ := exists_error_iff_misplaced.mp ⟨keys, hmem, hfails⟩
    exact hbefore other hother pair hpair hmisplaced

/-- The tables of a draft can be made exactly if no pair is misplaced. -/
theorem exists_layers_iff_not_misplaced :
    (∃ layers, (ofDeclarations declarations).layers.tryMap resolveKeys = .ok layers) ↔
      ∀ layer, ∀ pair ∈ declaredPairs declarations layer, ¬ Misplaced pair := by
  rw [SortedMap.exists_tryMap_eq_ok_iff]
  constructor
  · intro h layer pair hpair hmisplaced
    obtain ⟨keys, hmem, error, hfails⟩ := exists_error_iff_misplaced.mpr ⟨pair, hpair, hmisplaced⟩
    obtain ⟨table, htable⟩ := h _ hmem
    rw [hfails] at htable
    cases htable
  · rintro h ⟨layer, keys⟩ hmem
    cases hkeys : resolveKeys keys with
    | ok table => exact ⟨table, rfl⟩
    | error error =>
      obtain ⟨pair, hpair, hmisplaced⟩ :=
        exists_error_iff_misplaced.mp ⟨keys, hmem, error, hkeys⟩
      exact absurd hmisplaced (h layer pair hpair)

/-- Where pairs are misplaced, one of them is the first. -/
theorem exists_firstMisplaced_iff :
    (∃ name, FirstMisplaced declarations name) ↔
      ∃ layer, ∃ pair ∈ declaredPairs declarations layer, Misplaced pair := by
  constructor
  · rintro ⟨name, layer, value, hfound, _⟩
    have hmisplaced : Misplaced (name, value) := by simpa using List.find?_some hfound
    exact ⟨layer, (name, value), List.mem_of_find?_eq_some hfound, hmisplaced⟩
  · rintro ⟨layer, pair, hpair, hmisplaced⟩
    cases htables : (ofDeclarations declarations).layers.tryMap resolveKeys with
    | ok tables =>
      have hnone := exists_layers_iff_not_misplaced.mp ⟨tables, htables⟩
      exact absurd hmisplaced (hnone layer pair hpair)
    | error error =>
      obtain ⟨name, hfirst, _⟩ := layers_eq_error_iff_firstMisplaced.mp htables
      exact ⟨name, hfirst⟩

end Declarations

/-! ## Built layers -/

section Built

variable {declarations : List Declaration} {layout : Layout}

/-- A built layout has the layers that are mentioned, each with the table of its pairs. -/
theorem layer?_of_build (h : (ofDeclarations declarations).build.value = .ok layout)
    (layer : String) :
    (layout.layer? layer).map .ok =
      if ∃ declaration ∈ declarations, declaration.keyLayer? = some layer then
        some (resolveKeys ((declaredPairs declarations layer).filter (·.2 ≠ "")))
      else none := by
  obtain ⟨tables, tree, htables, _, rfl⟩ := build_eq_ok_iff.mp h
  rw [Layout.layer?, ← SortedMap.tryMap_eq_ok_iff_get?.mp htables layer, layers_ofDeclarations,
    flatMap_keysFor, apply_ite (Option.map resolveKeys), Option.map_some, Option.map_none]

theorem exists_layer?_iff (h : (ofDeclarations declarations).build.value = .ok layout)
    {layer : String} :
    (∃ table, layout.layer? layer = some table) ↔
      ∃ declaration ∈ declarations, declaration.keyLayer? = some layer := by
  have hlayer := layer?_of_build h layer
  by_cases hmentioned : ∃ declaration ∈ declarations, declaration.keyLayer? = some layer
  · rw [if_pos hmentioned] at hlayer
    obtain ⟨table, htable, _⟩ := Option.map_eq_some_iff.mp hlayer
    exact iff_of_true ⟨table, htable⟩ hmentioned
  · rw [if_neg hmentioned] at hlayer
    have hnone : layout.layer? layer = none := Option.map_eq_none_iff.mp hlayer
    simp [hnone, hmentioned]

theorem resolveKeys_of_layer? (h : (ofDeclarations declarations).build.value = .ok layout)
    {layer : String} {table : KeyTable} (htable : layout.layer? layer = some table) :
    resolveKeys ((declaredPairs declarations layer).filter (·.2 ≠ "")) = .ok table := by
  have hlayer := layer?_of_build h layer
  rw [htable, if_pos ((exists_layer?_iff h).mp ⟨table, htable⟩), Option.map_some] at hlayer
  exact (Option.some.inj hlayer).symm

/-- The layers of a built layout can be declared as they are. -/
theorem settled_of_layer? (h : (ofDeclarations declarations).build.value = .ok layout)
    {layer : String} {table : KeyTable} (htable : layout.layer? layer = some table) :
    KeyTable.Settled table := by
  refine settled_of_resolveKeys ?_ (resolveKeys_of_layer? h htable)
  intro key hkey
  exact of_decide_eq_true (List.mem_filter.mp hkey).2

end Built

/-- Whatever is declared, a build reports an unknown position exactly if one is given a value, and
then the first by the name of the layer and the order of declaration; transforms are not looked at
before. Otherwise it succeeds if the transforms are consistent. A built layout has exactly the
layers that are mentioned, and in each a code has the value of the last pair that gives it one, under
the code or its position. No table has an empty value or a code shaped like a position. -/
theorem build_makes_key_tables (declarations : List Declaration) :
    let built := (ofDeclarations declarations).build.value
    (∀ name, built = .error (.unknownPosition name) ↔ FirstMisplaced declarations name) ∧
    ((∃ name, built = .error (.unknownPosition name)) ↔
      ∃ layer, ∃ pair ∈ declaredPairs declarations layer, Misplaced pair) ∧
    ((∃ layout, built = .ok layout) ↔
      (∀ layer, ∀ pair ∈ declaredPairs declarations layer, ¬ Misplaced pair) ∧
        Consistent (declarations.filterMap Declaration.entryOf?)) ∧
    ∀ layout, built = .ok layout → ∀ layer,
      ((∃ table, layout.layer? layer = some table) ↔
        ∃ declaration ∈ declarations, declaration.keyLayer? = some layer) ∧
      ∀ table, layout.layer? layer = some table → ∀ code,
        (Key.isPositionShaped code = false → table.get? code =
          ((declaredPairs declarations layer).findRev? fun pair => Gives code pair).map (·.2)) ∧
        (Key.isPositionShaped code = true → table.get? code = none) ∧
        table.get? code ≠ some "" := by
  intro built
  have hreports : ∀ name, built = .error (.unknownPosition name) ↔
      FirstMisplaced declarations name := by
    intro name
    rw [build_eq_unknownPosition_iff, layers_eq_error_iff_firstMisplaced]
    simp
  refine ⟨hreports, ?_, ?_, ?_⟩
  · simp only [hreports]
    exact exists_firstMisplaced_iff
  · rw [exists_build_eq_ok_iff, exists_layers_iff_not_misplaced, Tree.exists_mergeAll_eq_ok_iff,
      transforms_ofDeclarations]
  · intro layout hbuilt layer
    refine ⟨exists_layer?_iff hbuilt, ?_⟩
    intro table htable code
    have hsettled : KeyTable.Settled table := settled_of_layer? hbuilt htable
    refine ⟨get?_of_resolveKeys_pairs (resolveKeys_of_layer? hbuilt htable), ?_, ?_⟩
    · intro hshaped
      refine Option.eq_none_iff_forall_ne_some.mpr ?_
      intro value hget
      have hcode := (Key.resolve?_eq_some_iff.mp (hsettled code value hget).1).1
      rw [hshaped] at hcode
      cases hcode
    · intro hget
      exact (hsettled code "" hget).2 rfl

/-- Code and position name one key, an empty value changes nothing, and a layer is mentioned by a
pair that does not count. An unknown position of the first layer is reported, though it is declared
last and a transform is wrong as well. -/
theorem build_makes_key_tables_aliases :
    let declarations : List Declaration := [.layer "default" [("C01", "a"), ("KeyA", "b"),
      ("C01", "")], .key "shift" "E99" ""]
    let wrong : List Declaration := declarations ++ [.transform [] "c", .key "shift" "E99" "d",
      .key "default" "A01" "e"]
    (∃ layout, (ofDeclarations declarations).build.value = .ok layout ∧
      (∃ table, layout.layer? "default" = some table ∧ table.get? "KeyA" = some "b" ∧
        table.get? "C01" = none) ∧
      ∃ table, layout.layer? "shift" = some table ∧ table.get? "E99" = none) ∧
    (ofDeclarations wrong).build.value = .error (.unknownPosition "A01") ∧
    FirstMisplaced wrong "A01" := by
  intro declarations wrong
  have reported : (ofDeclarations wrong).build.value = .error (.unknownPosition "A01") := by
    decide +kernel
  obtain ⟨layout, built⟩ : ∃ layout, (ofDeclarations declarations).build.value = .ok layout :=
    ⟨_, rfl⟩
  have tables := (build_makes_key_tables declarations).2.2.2 layout built
  obtain ⟨table, found⟩ := (tables "default").1.mpr (by decide +kernel)
  obtain ⟨shifted, foundShifted⟩ := (tables "shift").1.mpr (by decide +kernel)
  have last : ((declaredPairs declarations "default").findRev? fun pair => Gives "KeyA" pair) =
      some ("KeyA", "b") := by decide +kernel
  refine ⟨⟨layout, built, ⟨table, found, ?_, ?_⟩, shifted, foundShifted, ?_⟩, reported,
    ((build_makes_key_tables wrong).1 "A01").mp reported⟩
  · rw [((tables "default").2 table found "KeyA").1 (by decide +kernel), last, Option.map_some]
  · exact ((tables "default").2 table found "C01").2.1 (by decide +kernel)
  · exact ((tables "shift").2 shifted foundShifted "E99").2.1 (by decide +kernel)

end LayoutDraft

end DeadKeys
