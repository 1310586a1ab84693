import DeadKeys.Proofs.Script.Tokens
import Mathlib.Data.List.Basic
import Mathlib.Data.List.Induction
import Mathlib.Data.Nat.Digits.Defs

/-!
# Pieces as longest matches

What a piece is at its place is told without the functions that cut it: the longest text that any
kind matches there, or a single character where no kind matches anything (`Piece.Fits`). A text can
be cut in this way from left to right (`Tiles`), and its pieces are the only such cut
(`tiles_iff`).
-/

namespace DeadKeys.Script

/-! ## Matches and the piece at the start -/

/-- What extends a piece is matched together with it. -/
theorem PieceKind.Matches.extended {kind : PieceKind} {text : List Char} {c : Char}
    (h : kind.Matches text) (hc : kind.isExtendedBy c) : kind.Matches (text ++ [c]) := by
  have hall {p : Char → Bool} {run : List Char} (hrun : ∀ d ∈ run, p d) (hp : p c) :
      ∀ d ∈ run ++ [c], p d := by
    simpa [or_imp, forall_and] using ⟨hrun, hp⟩
  cases h with
  | newline => cases hc
  | directive directive => cases hc
  | number hne hdigits => exact .number (by simp) (hall hdigits hc)
  | chord hsign hletter htail =>
    rw [List.append_assoc, List.cons_append]
    exact .chord hsign hletter (hall htail hc)
  | blank hne hblanks => exact .blank (by simp) (hall hblanks hc)
  | comment hbody =>
    have hline : c ≠ '\n' := of_decide_eq_true hc
    exact .comment (by simpa [hbody] using hline.symm)

/-- Wherever a kind matches, the piece is of this kind and at least as long as the match. -/
theorem PieceKind.Matches.exists_atStart {kind : PieceKind} {start : List Char}
    (h : kind.Matches start) {c : Char} {rest : List Char} (hstart : start <+: c :: rest) :
    ∃ more, Piece.atStart c rest = ⟨kind, start ++ more⟩ := by
  obtain ⟨after, hafter⟩ := hstart
  -- characters go over from `after` to the match as long as they extend it
  induction after generalizing start with
  | nil =>
    have hstands : Piece.StandsBefore ⟨kind, start⟩ [] := h.standsBefore (by simp)
    refine ⟨[], ?_⟩
    rw [List.append_nil] at hafter ⊢
    rwa [Piece.standsBefore_cons_iff hafter, List.append_nil] at hstands
  | cons d after ih =>
    by_cases hd : kind.isExtendedBy d
    · obtain ⟨more, hpiece⟩ := ih (h.extended hd) (by simpa using hafter)
      exact ⟨d :: more, by simpa using hpiece⟩
    · have hstands : Piece.StandsBefore ⟨kind, start⟩ (d :: after) :=
        h.standsBefore (by simpa using hd)
      obtain ⟨e, tail, htext⟩ := hstands.exists_text
      refine ⟨[], ?_⟩
      rw [Piece.standsBefore_cons_iff htext] at hstands
      obtain rfl : start = e :: tail := htext
      obtain ⟨rfl, rfl⟩ := List.cons.inj hafter
      rwa [List.append_nil]

/-- A piece is matched by its kind, or it is a fault of one character. -/
theorem Piece.matches_or_fault (c : Char) (rest : List Char) :
    (Piece.atStart c rest).kind.Matches (Piece.atStart c rest).text ∨
      Piece.atStart c rest = ⟨.fault, [c]⟩ := by
  have hrun (p : Char → Bool) (text : List Char) : ∀ d ∈ text.takeWhile p, p d :=
    fun d hd => List.mem_takeWhile_imp hd
  have hall {p : Char → Bool} (hc : p c) : ∀ d ∈ c :: rest.takeWhile p, p d :=
    List.forall_mem_cons.mpr ⟨hc, hrun p rest⟩
  unfold Piece.atStart
  split
  case isTrue h => exact .inl (h ▸ .newline)
  split
  case isTrue h => exact .inl (.blank (List.cons_ne_nil _ _) (hall h))
  split
  case isTrue h =>
    subst h
    refine .inl (.comment ?_)
    intro hmem
    simpa using hrun _ rest '\n' hmem
  split
  case isTrue h => exact .inl (.number (List.cons_ne_nil _ _) (hall h))
  split
  case isTrue h => exact .inl (.chord (.inl rfl) h (hrun isChordPart rest))
  split
  case isTrue h =>
    have hsign : [c] = [] ∨ [c] = ['+'] ∨ [c] = ['-'] := by simpa using h
    unfold signPiece
    split
    next => exact .inr rfl
    next letter tail =>
      split
      case isTrue hletter => exact .inl (.chord hsign hletter (hrun isChordPart tail))
      case isFalse => exact .inr rfl
  split
  case isTrue h =>
    subst h
    unfold directivePiece
    split
    · exact .inl (.directive .focus)
    · split
      · exact .inl (.directive .blur)
      · exact .inr rfl
  case isFalse => exact .inr rfl

/-- A fault is no match. -/
theorem PieceKind.Matches.ne_fault {kind : PieceKind} {text : List Char} (h : kind.Matches text) :
    kind ≠ .fault := by
  rintro rfl
  cases h

theorem Piece.atStart_starts (c : Char) (rest : List Char) :
    (Piece.atStart c rest).text <+: c :: rest := by
  obtain ⟨tail, htext, hrest⟩ := Piece.atStart_text c rest
  rw [htext]
  exact (List.prefix_cons_inj c).mpr hrest

/-! ## What fits at a place -/

/-- What belongs at the start of a text: the longest match of all kinds, or a fault, which is the one
character at which no kind matches anything. -/
inductive Piece.Fits (text : List Char) : Piece → Prop
  | longest {piece} : piece.kind.Matches piece.text → piece.text <+: text →
      (∀ (other : PieceKind) start, other.Matches start → start <+: text →
        start.length ≤ piece.text.length) →
      Piece.Fits text piece
  | fault {c rest} : text = c :: rest →
      (∀ (kind : PieceKind) start, kind.Matches start → ¬ start <+: text) →
      Piece.Fits text ⟨.fault, [c]⟩

/-- The piece at the start of a text fits there. -/
theorem Piece.fits_atStart (c : Char) (rest : List Char) :
    Piece.Fits (c :: rest) (Piece.atStart c rest) := by
  rcases Piece.matches_or_fault c rest with hmatches | hfault
  · refine .longest hmatches (Piece.atStart_starts c rest) ?_
    intro other start hother hstart
    obtain ⟨more, hpiece⟩ := hother.exists_atStart hstart
    rw [hpiece, List.length_append]
    exact Nat.le_add_right _ _
  · rw [hfault]
    refine .fault rfl ?_
    intro kind start hkind hstart
    obtain ⟨more, hpiece⟩ := hkind.exists_atStart hstart
    rw [hfault] at hpiece
    exact hkind.ne_fault (congrArg Piece.kind hpiece).symm

/-- Nothing else fits there. -/
theorem Piece.Fits.eq_atStart {piece : Piece} {c : Char} {rest : List Char}
    (h : Piece.Fits (c :: rest) piece) : piece = Piece.atStart c rest := by
  have hstarts := Piece.atStart_starts c rest
  cases h with
  | longest hkind hstart hlongest =>
    obtain ⟨more, hpiece⟩ := hkind.exists_atStart hstart
    rcases Piece.matches_or_fault c rest with hmatches | hfault
    · -- the piece at the start is a match as well, so it goes no further than the longest
      have hlength := hlongest _ _ hmatches hstarts
      rw [hpiece, List.length_append] at hlength
      obtain rfl : more = [] := List.eq_nil_of_length_eq_zero (by omega)
      rw [hpiece, List.append_nil]
    · rw [hfault] at hpiece
      exact absurd (congrArg Piece.kind hpiece).symm hkind.ne_fault
  | fault htext hnone =>
    obtain ⟨rfl, rfl⟩ := List.cons.inj htext
    rcases Piece.matches_or_fault c rest with hmatches | hfault
    · exact absurd hstarts (hnone _ _ hmatches)
    · exact hfault.symm

/-- A piece that fits is not empty. -/
theorem Piece.Fits.exists_text {piece : Piece} {text : List Char} (h : Piece.Fits text piece) :
    ∃ c tail, piece.text = c :: tail := by
  cases h with
  | longest hkind _ _ =>
    have hstands : piece.StandsBefore [] := hkind.standsBefore (by simp)
    exact hstands.exists_text
  | @fault c _ _ _ => exact ⟨c, [], rfl⟩

/-- Fitting in front of a text is standing before it. -/
theorem Piece.fits_iff_standsBefore (piece : Piece) (after : List Char) :
    Piece.Fits (piece.text ++ after) piece ↔ piece.StandsBefore after := by
  constructor
  · intro h
    obtain ⟨c, tail, htext⟩ := h.exists_text
    rw [htext, List.cons_append] at h
    rw [Piece.standsBefore_cons_iff htext, ← h.eq_atStart]
  · intro h
    obtain ⟨c, tail, htext⟩ := h.exists_text
    rw [Piece.standsBefore_cons_iff htext] at h
    rw [htext, List.cons_append]
    exact h ▸ Piece.fits_atStart c (tail ++ after)

/-! ## Tilings -/

/-- Pieces that cover a text from left to right without gap or overlap, where each fits at its
place. -/
structure Tiles (tiles : List Piece) (text : List Char) : Prop where
  covers : covered tiles = text
  fits : ∀ before tile after, tiles = before ++ tile :: after →
    Piece.Fits (tile.text ++ covered after) tile

theorem Tiles.nil : Tiles [] [] := ⟨rfl, by simp⟩

theorem tiles_cons_iff {tile : Piece} {others : List Piece} {text : List Char} :
    Tiles (tile :: others) text ↔
      ∃ after, text = tile.text ++ after ∧ tile.StandsBefore after ∧ Tiles others after := by
  constructor
  · rintro ⟨rfl, hfits⟩
    refine ⟨covered others, rfl, ?_, rfl, ?_⟩
    · exact (Piece.fits_iff_standsBefore _ _).mp (hfits [] tile others rfl)
    · intro before piece after hsplit
      exact hfits (tile :: before) piece after (by rw [hsplit, List.cons_append])
  · rintro ⟨after, rfl, hstands, rfl, hfits⟩
    refine ⟨rfl, ?_⟩
    intro before piece behind hsplit
    cases before with
    | nil =>
      obtain ⟨rfl, rfl⟩ := List.cons.inj hsplit
      exact (Piece.fits_iff_standsBefore _ _).mpr hstands
    | cons first before =>
      obtain ⟨rfl, hothers⟩ := List.cons.inj hsplit
      exact hfits before piece behind hothers

/-- The pieces of a text are the one way to tile it. -/
theorem tiles_iff {tiles : List Piece} {text : List Char} :
    Tiles tiles text ↔ tiles = pieces text := by
  constructor
  · intro h
    induction tiles generalizing text with
    | nil =>
      obtain rfl : [] = text := h.covers
      rfl
    | cons tile others ih =>
      obtain ⟨after, rfl, hstands, hothers⟩ := tiles_cons_iff.mp h
      rw [hstands, ih hothers]
  · intro h
    induction tiles generalizing text with
    | nil =>
      rw [← covered_pieces text, ← h]
      exact .nil
    | cons tile others ih =>
      obtain ⟨after, rfl, hothers, hstands⟩ := exists_of_pieces_eq_cons h.symm
      exact tiles_cons_iff.mpr ⟨after, rfl, hstands, ih hothers⟩

/-! ## Tokens of a tiling -/

/-- The piece of a script that a token stands for. -/
def Token.piece : Token → Piece
  | .newline => ⟨.newline, ['\n']⟩
  | .directive word => ⟨.directive word, word.text.toList⟩
  | .number digits => ⟨.number, digits⟩
  | .chord text => ⟨.chord, text⟩
  | .fault text => ⟨.fault, text⟩

/-- Blanks and comments are skipped. -/
def Piece.isSkipped (piece : Piece) : Bool := piece.kind = .blank || piece.kind = .comment

/-- The token of a piece stands for all of it, and only skipped pieces have none. -/
theorem Piece.Fits.piece_token? {piece : Piece} {text : List Char} (h : Piece.Fits text piece) :
    piece.token?.map Token.piece = Option.guard (fun piece => !piece.isSkipped) piece := by
  cases h with
  | longest hkind _ _ =>
    obtain ⟨kind, slice⟩ := piece
    cases hkind <;> rfl
  | fault => rfl

/-- The tokens of a text stand for the tiles that are not skipped, in their order. -/
theorem Tiles.map_piece_tokens {tiles : List Piece} {text : List Char} (h : Tiles tiles text) :
    (tokens text).map Token.piece = tiles.filter fun piece => !piece.isSkipped := by
  rw [tokens, ← tiles_iff.mp h, List.map_filterMap, ← List.filterMap_eq_filter]
  refine List.filterMap_congr ?_
  intro tile htile
  obtain ⟨before, after, hsplit⟩ := List.append_of_mem htile
  exact (h.fits before tile after hsplit).piece_token?

/-- There are no more tiles than characters. -/
theorem Tiles.length_le {tiles : List Piece} {text : List Char} (h : Tiles tiles text) :
    tiles.length ≤ text.length := by
  induction tiles generalizing text with
  | nil => exact Nat.zero_le _
  | cons tile others ih =>
    obtain ⟨after, rfl, hstands, hothers⟩ := tiles_cons_iff.mp h
    obtain ⟨c, tail, htext⟩ := hstands.exists_text
    have hrest := ih hothers
    rw [htext, List.length_append, List.length_cons, List.length_cons]
    omega

/-- The value of digits in the positional system; their last one counts once. -/
theorem decimalValue_eq_ofDigits (digits : List Char) :
    Text.decimalValue digits = Nat.ofDigits 10 (digits.map Text.digitValue).reverse := by
  induction digits using List.reverseRecOn with
  | nil => rfl
  | append_singleton digits digit ih =>
    rw [Text.decimalValue_append, ih, List.map_append, List.reverse_append, Nat.add_comm]
    exact (Nat.ofDigits_cons ..).symm

/-- A number that is too large for a context has no value. -/
theorem contextNumber?_toNat (digits : List Char) :
    (contextNumber? digits).map UInt64.toNat =
      if Text.decimalValue digits < 2 ^ 64 then some (Text.decimalValue digits) else none := by
  have hsize : UInt64.size = 2 ^ 64 := rfl
  rw [contextNumber?, ← hsize]
  split
  case isTrue h => rw [Option.map_some, UInt64.toNat_ofNat_of_lt' h]
  case isFalse => rfl

/-- The pieces of a text tile it by longest match, they are the only ones that do, and the tokens
stand for those that are not blanks or comments. There are no more tokens than characters, a number
has the value of its decimal digits if this is below 2^64 and none otherwise, and every newline of
the text is a token. -/
theorem tokens_tile_text (text : List Char) :
    (∀ tiles, Tiles tiles text ↔ tiles = pieces text) ∧
      (tokens text).map Token.piece = (pieces text).filter (fun piece => !piece.isSkipped) ∧
      (tokens text).length ≤ text.length ∧
      (∀ digits, .number digits ∈ tokens text →
        let value := Nat.ofDigits 10 (digits.map Text.digitValue).reverse
        (contextNumber? digits).map UInt64.toNat = if value < 2 ^ 64 then some value else none) ∧
      (tokens text).count .newline = text.count '\n' := by
  have htiles : Tiles (pieces text) text := tiles_iff.mpr rfl
  refine ⟨fun _ => tiles_iff, htiles.map_piece_tokens, ?_, ?_, (count_newline_tokens text).symm⟩
  · exact (List.length_filterMap_le _ _).trans htiles.length_le
  · intro digits _ value
    have hvalue : Text.decimalValue digits = value := decimalValue_eq_ofDigits digits
    rw [← hvalue]
    exact contextNumber?_toNat digits

/-- Half a directive, plus signs in a chord, a sign that starts one, and digits with zeros in front
that end at a letter. -/
theorem tokens_tile_text_directive :
    let text := "@foc+-a++1$\r\n007x".toList
    let tiles : List Piece := [⟨.fault, ['@']⟩, ⟨.chord, ['f', 'o', 'c', '+']⟩,
      ⟨.chord, ['-', 'a', '+', '+', '1']⟩, ⟨.fault, ['$']⟩, ⟨.blank, ['\r']⟩, ⟨.newline, ['\n']⟩,
      ⟨.number, ['0', '0', '7']⟩, ⟨.chord, ['x']⟩]
    Tiles tiles text ∧ .number ['0', '0', '7'] ∈ tokens text ∧
      (contextNumber? ['0', '0', '7']).map UInt64.toNat = some 7 ∧
      (tokens text).count .newline = 1 := by
  intro text tiles
  have cut : tiles = pieces text := by decide
  have member : .number ['0', '0', '7'] ∈ tokens text := by decide
  obtain ⟨longest, _, _, value, newlines⟩ := tokens_tile_text text
  refine ⟨(longest tiles).mpr cut, member, value _ member, newlines.trans ?_⟩
  decide

end DeadKeys.Script
