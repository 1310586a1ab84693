import DeadKeys.Script.Token
import Mathlib.Data.List.TakeWhile

/-!
# Where pieces end

A piece is determined by its own text and the character behind it: one that is no fault stands in
front of a text exactly if it is a piece by itself and the text does not extend it
(`Piece.standsBefore_iff`). So a script can be put together from pieces, and what is behind a piece
can be exchanged (`pieces_exchange`).
-/

namespace DeadKeys.Script

/-! ## Longest starts -/

/-- The longest start of characters with a property ends where the property does. -/
theorem takeWhile_append_eq_iff {p : Char → Bool} (start after : List Char) :
    (start ++ after).takeWhile p = start ↔
      (∀ c ∈ start, p c) ∧ ∀ c ∈ after.head?, p c = false := by
  induction start with
  | nil => cases after <;> simp [List.takeWhile_cons]
  | cons c start ih =>
    by_cases hc : p c
    · simp [hc, ih]
    · simp [hc]

/-! ## Pieces by themselves -/

/-- The characters that make a piece of a kind longer when they follow it. -/
def PieceKind.isExtendedBy (kind : PieceKind) (c : Char) : Bool :=
  match kind with
  | .number => c.isDigit
  | .chord => isChordPart c
  | .blank => isBlank c
  | .comment => c ≠ '\n'
  | .newline | .directive _ | .fault => false

/-- A piece with a longest start behind its first characters, in front of a text. -/
theorem run_append_iff (kind : PieceKind) (start tail after : List Char) (piece : Piece)
    (htext : piece.text = start ++ tail) :
    Piece.mk kind (start ++ (tail ++ after).takeWhile kind.isExtendedBy) = piece ↔
      Piece.mk kind (start ++ tail.takeWhile kind.isExtendedBy) = piece ∧
        ∀ c ∈ after.head?, piece.kind.isExtendedBy c = false := by
  obtain ⟨pieceKind, text⟩ := piece
  subst htext
  simp only [Piece.mk.injEq, List.append_cancel_left_eq, takeWhile_append_eq_iff,
    List.takeWhile_eq_self_iff]
  constructor
  · rintro ⟨rfl, hself, hafter⟩
    exact ⟨⟨rfl, hself⟩, hafter⟩
  · rintro ⟨⟨rfl, hself⟩, hafter⟩
    exact ⟨rfl, hself, hafter⟩

/-- A sign starts the same piece in front of a text as by itself, if that is no fault. -/
theorem signPiece_append_iff {sign : Char} {tail : List Char} {piece : Piece}
    (htext : piece.text = sign :: tail) (hkind : piece.kind ≠ .fault) (after : List Char) :
    signPiece sign (tail ++ after) = piece ↔
      signPiece sign tail = piece ∧ ∀ c ∈ after.head?, piece.kind.isExtendedBy c = false := by
  cases tail with
  | nil =>
    -- A chord is longer than its sign, so that the sign alone can only be a fault.
    have hfault (rest : List Char) : signPiece sign rest ≠ piece := by
      rintro rfl
      unfold signPiece at htext hkind
      split at htext
      · exact hkind rfl
      · split at htext
        · simp [chordFrom] at htext
        · simp_all
    exact ⟨fun h => absurd h (hfault _), fun h => absurd h.1 (hfault _)⟩
  | cons letter tail =>
    simp only [List.cons_append, signPiece]
    split
    · exact run_append_iff .chord [sign, letter] tail after piece htext
    · exact ⟨fun h => absurd (h ▸ rfl) hkind, fun h => absurd (h.1 ▸ rfl) hkind⟩

/-- No directive is the start of the other one. -/
theorem Directive.eq_of_starts {directive other : Directive} {text : List Char}
    (h : directive.text.toList <+: text) (hother : other.text.toList <+: text) :
    directive = other := by
  have : ∀ directive other : Directive,
      directive.text.toList <+: other.text.toList → directive = other := by
    rintro (_ | _) (_ | _) <;> decide
  rcases List.prefix_or_prefix_of_prefix h hother with hprefix | hprefix
  · exact this _ _ hprefix
  · exact (this _ _ hprefix).symm

theorem directivePiece_of_starts {directive : Directive} {text : List Char}
    (h : directive.text.toList <+: text) :
    directivePiece text = ⟨.directive directive, directive.text.toList⟩ := by
  unfold directivePiece
  split
  case isTrue hfocus => rw [Directive.eq_of_starts h hfocus]
  split
  case isTrue hblur => rw [Directive.eq_of_starts h hblur]
  case isFalse hfocus hblur =>
    cases directive with
    | focus => exact absurd h hfocus
    | blur => exact absurd h hblur

/-- A directive is in front of a text what it is by itself. -/
theorem directivePiece_append_iff {text : List Char} {piece : Piece} (htext : piece.text = text)
    (hkind : piece.kind ≠ .fault) (after : List Char) :
    directivePiece (text ++ after) = piece ↔
      directivePiece text = piece ∧ ∀ c ∈ after.head?, piece.kind.isExtendedBy c = false := by
  have hself {rest : List Char} (h : directivePiece rest = piece) :
      ∃ directive : Directive, piece = ⟨.directive directive, directive.text.toList⟩ := by
    unfold directivePiece at h
    split at h
    · exact ⟨.focus, h.symm⟩
    · split at h
      · exact ⟨.blur, h.symm⟩
      · exact absurd (h ▸ rfl) hkind
  constructor
  · intro h
    obtain ⟨directive, rfl⟩ := hself h
    subst htext
    exact ⟨directivePiece_of_starts List.prefix_rfl, fun _ _ => rfl⟩
  · rintro ⟨h, -⟩
    obtain ⟨directive, rfl⟩ := hself h
    subst htext
    exact directivePiece_of_starts (List.prefix_append _ _)

/-- A piece that is no fault starts a text exactly if it is a piece by itself and what is behind it
does not extend it. -/
theorem Piece.atStart_append_iff {c : Char} {tail : List Char} {piece : Piece}
    (htext : piece.text = c :: tail) (hkind : piece.kind ≠ .fault) (after : List Char) :
    Piece.atStart c (tail ++ after) = piece ↔
      Piece.atStart c tail = piece ∧ ∀ d ∈ after.head?, piece.kind.isExtendedBy d = false := by
  unfold Piece.atStart
  split
  · exact ⟨fun h => ⟨h, fun _ _ => h ▸ rfl⟩, And.left⟩
  split
  · exact run_append_iff .blank [c] tail after piece htext
  split
  · exact run_append_iff .comment [c] tail after piece htext
  split
  · exact run_append_iff .number [c] tail after piece htext
  split
  · exact run_append_iff .chord [c] tail after piece htext
  split
  · exact signPiece_append_iff htext hkind after
  split
  · exact directivePiece_append_iff htext hkind after
  · exact ⟨fun h => absurd (h ▸ rfl) hkind, fun h => absurd (h.1 ▸ rfl) hkind⟩

/-! ## Pieces in front of a text -/

/-- The piece is read in front of the text, which is read by itself. -/
def Piece.StandsBefore (piece : Piece) (after : List Char) : Prop :=
  pieces (piece.text ++ after) = piece :: pieces after

/-- A piece in front of a text is the one that its first character starts. -/
theorem Piece.standsBefore_cons_iff {c : Char} {tail : List Char} {piece : Piece}
    (htext : piece.text = c :: tail) (after : List Char) :
    piece.StandsBefore after ↔ Piece.atStart c (tail ++ after) = piece := by
  have hstep : pieces (piece.text ++ after) =
      Piece.atStart c (tail ++ after) ::
        pieces ((tail ++ after).drop ((Piece.atStart c (tail ++ after)).text.length - 1)) := by
    rw [htext, List.cons_append, pieces, piecesAfter, piecesAfter_eq_drop]
  rw [Piece.StandsBefore, hstep]
  constructor
  · exact fun h => (List.cons.inj h).1
  · intro h
    rw [h, htext, List.length_cons, Nat.add_sub_cancel, List.drop_left]

/-- A piece that stands before a text is not empty. -/
theorem Piece.StandsBefore.exists_text {piece : Piece} {after : List Char}
    (h : piece.StandsBefore after) : ∃ c tail, piece.text = c :: tail := by
  cases htext : piece.text with
  | nil =>
    rw [Piece.StandsBefore, htext, List.nil_append] at h
    exact absurd h.symm (List.cons_ne_self _ _)
  | cons c tail => exact ⟨c, tail, rfl⟩

/-- A piece that is no fault stands before a text exactly if it is a piece by itself and the text
does not extend it. -/
theorem Piece.standsBefore_iff {piece : Piece} (hkind : piece.kind ≠ .fault) (after : List Char) :
    piece.StandsBefore after ↔
      piece.StandsBefore [] ∧ ∀ c ∈ after.head?, piece.kind.isExtendedBy c = false := by
  cases htext : piece.text with
  | nil =>
    have hempty (after : List Char) : ¬ piece.StandsBefore after := by
      intro h
      obtain ⟨c, tail, hcons⟩ := h.exists_text
      cases htext.symm.trans hcons
    exact ⟨fun h => absurd h (hempty _), fun h => absurd h.1 (hempty _)⟩
  | cons c tail =>
    rw [Piece.standsBefore_cons_iff htext, Piece.standsBefore_cons_iff htext, List.append_nil,
      Piece.atStart_append_iff htext hkind]

/-- The first piece of a text stands before the rest of it. -/
theorem exists_of_pieces_eq_cons {text : List Char} {piece : Piece} {others : List Piece}
    (h : pieces text = piece :: others) :
    ∃ after, text = piece.text ++ after ∧ others = pieces after ∧ piece.StandsBefore after := by
  cases text with
  | nil => cases h
  | cons c rest =>
    obtain ⟨tail, htext, after, hrest⟩ := Piece.atStart_text c rest
    have hstands : (Piece.atStart c rest).StandsBefore after := by
      rw [Piece.standsBefore_cons_iff htext, hrest]
    rw [← hrest, ← List.cons_append, ← htext, hstands] at h
    obtain ⟨rfl, rfl⟩ := List.cons.inj h
    exact ⟨after, by rw [htext, List.cons_append, hrest], rfl, hstands⟩

/-! ## Texts from pieces -/

/-- The text that pieces cover. -/
def covered (pieces : List Piece) : List Char := pieces.flatMap (·.text)

@[simp] theorem covered_cons (piece : Piece) (others : List Piece) :
    covered (piece :: others) = piece.text ++ covered others := rfl

@[simp] theorem covered_append (first second : List Piece) :
    covered (first ++ second) = covered first ++ covered second := List.flatMap_append

theorem covered_pieces (text : List Char) : covered (pieces text) = text := by
  rw [covered, List.flatMap_def, flatten_pieces]

/-- What is behind a piece can be exchanged for a text that the piece stands before, as long as no
piece in front of it is a fault. -/
theorem pieces_exchange {before behind : List Piece} {piece : Piece} {later : List Char}
    (hstands : piece.StandsBefore later) :
    ∀ {text : List Char}, pieces text = before ++ piece :: behind →
      (∀ known ∈ before, known.kind ≠ .fault) →
      pieces (covered before ++ (piece.text ++ later)) = before ++ piece :: pieces later := by
  induction before with
  | nil => exact fun _ _ => hstands
  | cons known before ih =>
    intro text htext hknown
    obtain ⟨after, -, hafter, hbefore⟩ := exists_of_pieces_eq_cons htext
    obtain ⟨hkind, hothers⟩ := List.forall_mem_cons.mp hknown
    obtain ⟨c, tail, hcons⟩ := hstands.exists_text
    -- What follows on the first piece starts with the same character as before.
    have hhead : (covered before ++ (piece.text ++ later)).head? = after.head? := by
      rw [← covered_pieces after, ← hafter]
      cases h : covered before <;> simp [h, hcons]
    have hnow : known.StandsBefore (covered before ++ (piece.text ++ later)) := by
      rw [Piece.standsBefore_iff hkind] at hbefore ⊢
      rwa [hhead]
    rw [covered_cons, List.append_assoc, hnow, ih hafter.symm hothers, List.cons_append]

end DeadKeys.Script
