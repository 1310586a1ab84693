import DeadKeys.Layer
import Mathlib.Data.List.Basic
import Mathlib.Data.List.Infix

/-!
# What cursors hand out

A cursor is told by the layers that are still to come (`FallbackCursor.remaining`). One answer takes
the first of them, wherever the cursor stands, so that after any number of answers the rest of the
chain is left (`FallbackCursor.takeNext_eq`), and what has ended stays ended.
-/

namespace DeadKeys.Layer

/-! ## The chain -/

/-- A chain visits the layer of a modifier that occurs in the name of another layer. -/
theorem mentions_iff {start modifier : String} :
    mentions start modifier = true ↔ modifier.toList <:+: start.toList ∧ start ≠ modifier := by
  rw [mentions, Bool.and_eq_true, Text.occursIn_iff, decide_eq_true_iff]

theorem filter_mentions (start modifier : String) :
    [modifier].filter (mentions start) =
      if modifier.toList <:+: start.toList ∧ start ≠ modifier then [modifier] else [] := by
  by_cases hmentions : mentions start modifier = true
  · rw [if_pos (mentions_iff.mp hmentions), List.filter_cons_of_pos hmentions, List.filter_nil]
  · rw [if_neg (mt mentions_iff.mpr hmentions), List.filter_cons_of_neg hmentions, List.filter_nil]

theorem fallbackChain_eq (start : String) :
    fallbackChain start =
      if start = default then [default]
      else start ::
        ((if caps.toList <:+: start.toList ∧ start ≠ caps then [caps] else []) ++
          (if shift.toList <:+: start.toList ∧ start ≠ shift then [shift] else []) ++
          [default]) := by
  have hmodifiers : [caps, shift].filter (mentions start) =
      [caps].filter (mentions start) ++ [shift].filter (mentions start) :=
    List.filter_append [caps] [shift]
  rw [fallbackChain, hmodifiers, filter_mentions, filter_mentions]

theorem getLast?_fallbackChain (start : String) : (fallbackChain start).getLast? = some default := by
  unfold fallbackChain
  by_cases hdefault : start = default
  · rw [if_pos hdefault]
    rfl
  · rw [if_neg hdefault, ← List.cons_append, List.getLast?_concat]

/-- No layer is searched twice. -/
theorem nodup_fallbackChain (start : String) : (fallbackChain start).Nodup := by
  unfold fallbackChain
  by_cases hdefault : start = default
  · rw [if_pos hdefault]
    exact List.pairwise_singleton _ default
  · have hmodifiers : ([caps, shift] ++ [default]).Nodup := by decide
    have hrest : (([caps, shift].filter (mentions start)) ++ [default]).Nodup :=
      hmodifiers.sublist (List.filter_sublist.append_right _)
    rw [if_neg hdefault, List.nodup_cons]
    refine ⟨?_, hrest⟩
    intro hmem
    rcases List.mem_append.mp hmem with hmodifier | hlast
    · exact (mentions_iff.mp (List.mem_filter.mp hmodifier).2).2 rfl
    · exact hdefault (List.mem_singleton.mp hlast)

theorem length_fallbackChain_le (start : String) : (fallbackChain start).length ≤ 4 := by
  have htwo : ([caps, shift].filter (mentions start)).length ≤ 2 := List.length_filter_le _ _
  unfold fallbackChain
  split
  · decide
  · simp only [List.length_cons, List.length_append, List.length_nil]
    omega

namespace FallbackCursor

/-- The layers that are still to come: what the chain has from the cursor's stage on. -/
def remaining (cursor : FallbackCursor) : List String :=
  match cursor.stage with
  | .start => fallbackChain cursor.start
  | .caps => [caps, shift].filter (mentions cursor.start) ++ [default]
  | .shift => [shift].filter (mentions cursor.start) ++ [default]
  | .default => [default]
  | .done => []

/-! ## One answer -/

/-- A stage that is passed hands out what it has of the chain. -/
theorem remaining_of_pass? {cursor : FallbackCursor} {stage : FallbackStage}
    {layer? : Option String} (h : cursor.stage.pass? cursor.start = some (stage, layer?)) :
    cursor.remaining = layer?.toList ++ remaining ⟨cursor.start, stage⟩ := by
  obtain ⟨start, here⟩ := cursor
  cases here with
  | start =>
    obtain ⟨rfl, rfl⟩ := Prod.mk.inj (Option.some.inj h)
    by_cases hdefault : start = default <;> simp [remaining, fallbackChain, hdefault]
  | caps =>
    obtain ⟨rfl, rfl⟩ := Prod.mk.inj (Option.some.inj h)
    by_cases hcaps : mentions start caps <;> simp [remaining, hcaps]
  | shift =>
    obtain ⟨rfl, rfl⟩ := Prod.mk.inj (Option.some.inj h)
    by_cases hshift : mentions start shift <;> simp [remaining, hshift]
  | default =>
    obtain ⟨rfl, rfl⟩ := Prod.mk.inj (Option.some.inj h)
    rfl
  | done => cases h

theorem remaining_of_pass?_eq_none {cursor : FallbackCursor}
    (h : cursor.stage.pass? cursor.start = none) : cursor.remaining = [] := by
  obtain ⟨start, here⟩ := cursor
  cases here with
  | start | caps | shift | default => cases h
  | done => rfl

/-- An answer is the first of the layers to come, and the others are left. Without an answer none
was to come. -/
theorem next?_cases (cursor : FallbackCursor) :
    (cursor.next? = none ∧ cursor.remaining = []) ∨
      ∃ layer rest, cursor.next? = some (layer, rest) ∧
        cursor.remaining = layer :: rest.remaining := by
  fun_induction next? cursor with
  | case1 cursor hpass => exact .inl ⟨rfl, remaining_of_pass?_eq_none hpass⟩
  | case2 cursor stage layer hpass => exact .inr ⟨layer, _, rfl, remaining_of_pass? hpass⟩
  | case3 cursor stage hpass ih =>
    -- the stage is skipped, and it has nothing of the chain
    rw [remaining_of_pass? hpass]
    exact ih

/-- There is never more to come than the cursor promises. -/
theorem length_remaining_le (cursor : FallbackCursor) :
    cursor.remaining.length ≤ cursor.sizeBounds.2 := by
  obtain ⟨start, here⟩ := cursor
  have hone : ([shift].filter (mentions start)).length ≤ 1 := List.length_filter_le _ _
  have htwo : ([caps, shift].filter (mentions start)).length ≤ 2 := List.length_filter_le _ _
  cases here with
  | start => exact length_fallbackChain_le start
  | caps | shift =>
    simp only [remaining, sizeBounds, List.length_append, List.length_singleton]
    omega
  | default | done => simp [remaining, sizeBounds]

/-! ## Many answers -/

/-- The answers are the layers to come, one after the other, and then `none` for ever; the layers
that were not handed out are left. -/
theorem takeNext_eq (count : Nat) (cursor : FallbackCursor) :
    (cursor.takeNext count).1 = (cursor.remaining.take count).map some ++
        List.replicate (count - cursor.remaining.length) none ∧
      (cursor.takeNext count).2.remaining = cursor.remaining.drop count := by
  induction count generalizing cursor with
  | zero => simp [takeNext]
  | succ count ih =>
    rcases cursor.next?_cases with ⟨hnext, hremaining⟩ | ⟨layer, rest, hnext, hremaining⟩
    · obtain ⟨hanswers, hleft⟩ := ih cursor
      simp only [takeNext, hnext, hanswers, hleft, hremaining]
      simp [List.replicate_succ]
    · obtain ⟨hanswers, hleft⟩ := ih rest
      simp only [takeNext, hnext, hanswers, hleft, hremaining]
      simp

/-- Going on with the cursor behind some answers is going on with the answers. -/
theorem takeNext_add (count more : Nat) (cursor : FallbackCursor) :
    cursor.takeNext (count + more) =
      ((cursor.takeNext count).1 ++ ((cursor.takeNext count).2.takeNext more).1,
        ((cursor.takeNext count).2.takeNext more).2) := by
  induction count generalizing cursor with
  | zero => simp [takeNext]
  | succ count ih =>
    rw [Nat.add_right_comm]
    cases hnext : cursor.next? with
    | none => simp [takeNext, hnext, ih]
    | some answer => simp [takeNext, hnext, ih]

/-- A cursor at the end stays where it is. -/
theorem takeNext_of_next?_eq_none {cursor : FallbackCursor} (h : cursor.next? = none) (count : Nat) :
    cursor.takeNext count = (List.replicate count none, cursor) := by
  induction count with
  | zero => rfl
  | succ count ih => simp [takeNext, h, ih, List.replicate_succ]

/-- Of answers, those that are layers. -/
theorem filterMap_answers (layers : List String) (ended : Nat) :
    (layers.map some ++ List.replicate ended none).filterMap id = layers := by
  simp

theorem toList_eq_remaining (cursor : FallbackCursor) : cursor.toList = cursor.remaining := by
  rw [toList, (takeNext_eq _ cursor).1, filterMap_answers,
    List.take_of_length_le cursor.length_remaining_le]

/-- However often a cursor is asked, it answers with no more layers than it promises. -/
theorem length_takeNext_le (count : Nat) (cursor : FallbackCursor) :
    ((cursor.takeNext count).1.filterMap id).length ≤ cursor.sizeBounds.2 := by
  rw [(takeNext_eq count cursor).1, filterMap_answers]
  exact Nat.le_trans (List.length_take_le' _ _) cursor.length_remaining_le

/-- The chain of a layer is the layer itself and, unless it is the default layer, `caps` and `shift`
if they occur in its name and are not its name, and then the default layer. It starts with the layer,
ends with the default layer and has at most four layers, none of them twice. A cursor hands out the
chain: after any number of answers, the layers that have not been answered are still to come, in
their order, whether the cursor goes on or a copy of it. However often it is asked, there are no more
than it promises, and after the end there is no answer for ever. -/
theorem hands_out_chain (start : String) :
    let chain := fallbackChain start
    (chain =
      if start = default then [default]
      else start ::
        ((if caps.toList <:+: start.toList ∧ start ≠ caps then [caps] else []) ++
          (if shift.toList <:+: start.toList ∧ start ≠ shift then [shift] else []) ++
          [default])) ∧
    chain.Nodup ∧ chain.length ≤ 4 ∧ chain.head? = some start ∧ chain.getLast? = some default ∧
    (ofStart start).toList = chain ∧
    ∀ count,
      let answers := ((ofStart start).takeNext count).1
      let cursor := ((ofStart start).takeNext count).2
      answers = (chain.take count).map some ++ List.replicate (count - chain.length) none ∧
      answers.filterMap id ++ cursor.toList = chain ∧
      (∀ more, (ofStart start).takeNext (count + more) =
          (answers ++ (cursor.takeNext more).1, (cursor.takeNext more).2) ∧
        ((cursor.takeNext more).1.filterMap id).length ≤ cursor.sizeBounds.2) ∧
      (cursor.next? = none → ∀ more, cursor.takeNext more = (List.replicate more none, cursor)) := by
  intro chain
  refine ⟨fallbackChain_eq start, nodup_fallbackChain start, length_fallbackChain_le start,
    head?_fallbackChain start, getLast?_fallbackChain start, (ofStart start).toList_eq_remaining, ?_⟩
  intro count answers cursor
  obtain ⟨hanswers, hleft⟩ : answers = (chain.take count).map some ++
      List.replicate (count - chain.length) none ∧ cursor.remaining = chain.drop count :=
    takeNext_eq count (ofStart start)
  refine ⟨hanswers, ?_, ?_, takeNext_of_next?_eq_none⟩
  · rw [hanswers, filterMap_answers, toList_eq_remaining, hleft, List.take_append_drop]
  · intro more
    exact ⟨takeNext_add count more _, cursor.length_takeNext_le more⟩

/-- A chain that visits all four layers, interrupted behind its second and asked beyond its end. -/
example : ((ofStart "caps+shift").takeNext 2).1 = [some "caps+shift", some "caps"] ∧
    (((ofStart "caps+shift").takeNext 2).2.takeNext 3).1 =
      [some "shift", some "default", none] := by decide +kernel

end FallbackCursor

end DeadKeys.Layer
