import DeadKeys.Unicode.Normalization

/-!
# Composing a letter with a mark

Normalising a letter with one mark behind it. If the letter is composed already and the mark comes
last in canonical order, the mark meets the whole letter, so the two become their precomposed
character, or stay as they are if there is none (`GoesBehind.nfkc_eq`).
-/

namespace DeadKeys.Unicode

/-! ## Canonical order -/

/-- A mark does not move in front of a character: it is a starter, or of a class that is not
smaller. -/
def StaysBehind (mark c : Char) : Prop :=
  combiningClass mark = 0 ∨ combiningClass c ≤ combiningClass mark

instance (mark c : Char) : Decidable (StaysBehind mark c) :=
  inferInstanceAs (Decidable (_ ∨ _))

theorem insertMark_append {mark c : Char} (h : StaysBehind mark c) (text : List Char) :
    insertMark c (text ++ [mark]) = insertMark c text ++ [mark] := by
  induction text with
  | nil =>
    have hfront : ¬ (0 < combiningClass mark ∧ combiningClass mark < combiningClass c) := by
      rcases h with hstarter | hle <;> omega
    simp only [List.nil_append, insertMark, if_neg hfront, List.cons_append]
  | cons d text ih =>
    rw [List.cons_append, insertMark, insertMark, ih]
    split <;> rfl

/-- A mark that stays behind everything comes last. -/
theorem canonicalOrder_append {mark : Char} {text : List Char}
    (h : ∀ c ∈ text, StaysBehind mark c) :
    canonicalOrder (text ++ [mark]) = canonicalOrder text ++ [mark] := by
  induction text with
  | nil => rfl
  | cons c text ih =>
    obtain ⟨hc, htext⟩ := List.forall_mem_cons.mp h
    have hrest : canonicalOrder (text ++ [mark]) = canonicalOrder text ++ [mark] := ih htext
    show insertMark c (canonicalOrder (text ++ [mark])) =
      insertMark c (canonicalOrder text) ++ [mark]
    rw [hrest, insertMark_append hc]

/-! ## Composition -/

/-- The marks that are kept stay behind the starter. -/
theorem length_composeAfter (starter : Char) (kept text : List Char) :
    kept.length < (composeAfter starter kept text).length := by
  induction text generalizing starter kept with
  | nil => simp [composeAfter]
  | cons c text ih =>
    rw [composeAfter]
    split
    · exact ih _ kept
    · split
      · simp only [List.cons_append, List.length_cons, List.length_append, List.length_reverse]
        omega
      · have hkept := ih starter (c :: kept)
        rw [List.length_cons] at hkept
        omega

/-- What a character and one behind it become: their precomposed character if there is one. -/
def joined (first second : Char) : List Char :=
  match compose? first second with
  | some composed => [composed]
  | none => [first, second]

theorem composeAfter_singleton (starter mark : Char) :
    composeAfter starter [] [mark] = joined starter mark := by
  rw [composeAfter, joined]
  simp only [blocked, Bool.false_eq_true, if_false]
  cases compose? starter mark with
  | some composed => rfl
  | none => by_cases hclass : combiningClass mark = 0 <;> simp [hclass, composeAfter]

/-- Where a text composes to one character, a mark behind it meets this character. -/
theorem composeAfter_append {starter letter : Char} {text : List Char}
    (h : composeAfter starter [] text = [letter]) (mark : Char) :
    composeAfter starter [] (text ++ [mark]) = joined letter mark := by
  induction text generalizing starter with
  | nil =>
    obtain rfl : starter = letter := (List.cons.inj h).1
    exact composeAfter_singleton starter mark
  | cons c text ih =>
    rw [composeAfter] at h
    rw [List.cons_append, composeAfter]
    simp only [blocked, Bool.false_eq_true, if_false] at h ⊢
    cases hcompose : compose? starter c with
    | some composed =>
      rw [hcompose] at h
      exact ih h
    | none =>
      -- what does not compose would stay beside the starter
      rw [hcompose] at h
      by_cases hclass : combiningClass c = 0
      · simp only [hclass, if_true, List.reverse_nil, List.cons_append, List.nil_append,
          List.cons.injEq] at h
        have hlength := length_composeAfter c [] text
        rw [h.2] at hlength
        simp at hlength
      · simp only [hclass, if_false] at h
        have hlength := length_composeAfter starter [c] text
        rw [h] at hlength
        simp at hlength

theorem composeAll_append {letter : Char} {text : List Char} (h : composeAll text = [letter])
    (hstarter : combiningClass letter = 0) (mark : Char) :
    composeAll (text ++ [mark]) = joined letter mark := by
  cases text with
  | nil => cases h
  | cons c text =>
    rw [composeAll] at h
    rw [List.cons_append, composeAll]
    by_cases hclass : combiningClass c = 0
    · rw [if_pos hclass] at h ⊢
      exact composeAfter_append h mark
    · rw [if_neg hclass] at h
      rw [(List.cons.inj h).1] at hclass
      exact absurd hstarter hclass

/-! ## A letter with a mark -/

/-- A mark goes behind a letter: the letter is a starter that is composed as it is, the mark has no
parts, and it stays behind all parts of the letter. -/
structure GoesBehind (mark letter : Char) : Prop where
  starter : combiningClass letter = 0
  composed : nfkc [letter] = [letter]
  undivided : decompose mark = [mark]
  behind : ∀ part ∈ decompose letter, StaysBehind mark part

instance (mark letter : Char) : Decidable (GoesBehind mark letter) :=
  decidable_of_iff
    (combiningClass letter = 0 ∧ nfkc [letter] = [letter] ∧ decompose mark = [mark] ∧
      (decompose letter).all fun part => StaysBehind mark part)
    ⟨fun h => ⟨h.1, h.2.1, h.2.2.1, by simpa using h.2.2.2⟩,
      fun h => ⟨h.1, h.2, h.3, by simpa using h.4⟩⟩

/-- A mark behind a letter joins the letter. -/
theorem GoesBehind.nfkc_eq {mark letter : Char} (h : GoesBehind mark letter) :
    nfkc [letter, mark] = joined letter mark := by
  have hletter : composeAll (canonicalOrder (decompose letter)) = [letter] := by
    simpa [nfkc, nfkd] using h.composed
  have hparts : nfkd [letter, mark] = canonicalOrder (decompose letter) ++ [mark] := by
    rw [← canonicalOrder_append h.behind]
    simp [nfkd, h.undivided]
  rw [nfkc, hparts]
  exact composeAll_append hletter h.starter mark

/-- Normalising changes the pair exactly if there is a precomposed character, which it then gives. -/
theorem joined_ne_iff {first second : Char} :
    joined first second ≠ [first, second] ↔ compose? first second ≠ none := by
  rw [joined]
  cases compose? first second <;> simp

end DeadKeys.Unicode
