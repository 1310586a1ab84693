import DeadKeys.Proofs.Script.Pieces

/-!
# Which tokens a text has

The tokens of a text follow from its characters from left to right: blanks and comments are skipped
(`tokens_blank`, `tokens_comment`), and the others are cut where no character extends them
(`PieceKind.Matches.standsBefore`). All newlines of a text are tokens (`count_newline_tokens`).
-/

namespace DeadKeys.Script

/-! ## Newlines -/

/-- A longest start of characters with a property that newlines do not have adds no newline. -/
theorem count_newline_run {p : Char → Bool} (h : p '\n' = false) {start : List Char}
    (hstart : start.count '\n' = 0) (text : List Char) :
    (start ++ text.takeWhile p).count '\n' = 0 := by
  rw [List.count_append, hstart, Nat.zero_add, List.count_eq_zero]
  intro hmem
  exact absurd (List.mem_takeWhile_imp hmem) (by simp [h])

/-- The newlines of a piece are those of its token. -/
theorem count_newline_atStart (c : Char) (rest : List Char) :
    (Piece.atStart c rest).text.count '\n' =
      (Piece.atStart c rest).token?.toList.count .newline := by
  unfold Piece.atStart
  split
  case isTrue h => rw [h]; rfl
  case isFalse hnewline =>
  -- A piece that starts with another character has no newline token, and holds none: what makes it
  -- longer is no newline either.
  have hc : [c].count '\n' = 0 := by simpa [List.count_eq_zero] using Ne.symm hnewline
  split
  · exact count_newline_run rfl hc rest
  split
  · exact count_newline_run rfl hc rest
  split
  · exact count_newline_run rfl hc rest
  split
  · exact count_newline_run rfl hc rest
  split
  · unfold signPiece
    split
    next => exact hc
    next letter tail =>
      split
      case isTrue halpha =>
        have hletter : '\n' ≠ letter := by
          rintro rfl
          cases halpha
        have hstart : [c, letter].count '\n' = 0 := by
          simpa [List.count_eq_zero, hletter] using Ne.symm hnewline
        exact count_newline_run rfl hstart tail
      case isFalse => exact hc
  split
  · unfold directivePiece
    split
    · decide
    · split <;> decide
  · exact hc

/-- The newlines that the first pieces of a text cover are those among their tokens. -/
theorem count_newline_covered {before behind : List Piece} :
    ∀ {text : List Char}, pieces text = before ++ behind →
      (covered before).count '\n' = (before.filterMap Piece.token?).count .newline := by
  induction before with
  | nil => exact fun _ => rfl
  | cons piece before ih =>
    intro text htext
    obtain ⟨after, -, hafter, hstands⟩ := exists_of_pieces_eq_cons htext
    obtain ⟨c, tail, hcons⟩ := hstands.exists_text
    have hpiece := count_newline_atStart c (tail ++ after)
    rw [(Piece.standsBefore_cons_iff hcons after).mp hstands] at hpiece
    rw [covered_cons, List.count_append, hpiece, ih hafter.symm, List.filterMap_cons]
    cases piece.token? with
    | none => simp
    | some token => rw [Option.toList_some, ← List.count_append, List.singleton_append]

/-- The newlines of a text are those among its tokens. -/
theorem count_newline_tokens (text : List Char) :
    text.count '\n' = (tokens text).count .newline := by
  have h := count_newline_covered (List.append_nil (pieces text)).symm
  rwa [covered_pieces] at h

/-! ## What the kinds match -/

/-- The texts that a kind of piece is declared to match, in front of whatever. A fault stands for the
lack of a match, so that nothing is declared for it. -/
inductive PieceKind.Matches : PieceKind → List Char → Prop
  | newline : Matches .newline ['\n']
  | directive (directive : Directive) : Matches (.directive directive) directive.text.toList
  | number {digits} : digits ≠ [] → (∀ c ∈ digits, c.isDigit) → Matches .number digits
  | chord {sign tail letter} : sign = [] ∨ sign = ['+'] ∨ sign = ['-'] → letter.isAlpha →
      (∀ c ∈ tail, isChordPart c) → Matches .chord (sign ++ letter :: tail)
  | blank {run} : run ≠ [] → (∀ c ∈ run, isBlank c) → Matches .blank run
  | comment {body} : '\n' ∉ body → Matches .comment ('#' :: body)

theorem atStart_blank {c : Char} (h : isBlank c) (rest : List Char) :
    Piece.atStart c rest = ⟨.blank, c :: rest.takeWhile isBlank⟩ := by
  have hnewline : c ≠ '\n' := by
    rintro rfl
    cases h
  rw [Piece.atStart, if_neg hnewline, if_pos h]

/-- Letters and digits start neither a newline nor a blank nor a comment. -/
theorem atStart_of_isAlphanum {c : Char} (h : c.isAlphanum) (rest : List Char) :
    Piece.atStart c rest =
      if c.isDigit then ⟨.number, c :: rest.takeWhile Char.isDigit⟩ else chordFrom [c] rest := by
  have hother {d : Char} (hd : d.isAlphanum = false) : c ≠ d := by
    rintro rfl
    cases h.symm.trans hd
  have hblank : isBlank c = false := by simp [isBlank, hother]
  rw [Piece.atStart, if_neg (hother rfl), hblank, if_neg Bool.false_ne_true, if_neg (hother rfl)]
  split
  · rfl
  case isFalse hdigit =>
    have halpha : c.isAlpha := by simpa [Char.isAlphanum, hdigit] using h
    rw [if_pos halpha]

theorem isDigit_eq_false_of_isAlpha {c : Char} (h : c.isAlpha) : c.isDigit = false := by
  -- The digits come before all letters.
  have hletter : 'A'.val ≤ c.val := by
    rcases (Bool.or_eq_true _ _).mp h with hupper | hlower
    · exact (of_decide_eq_true hupper).1
    · have hfirst : 97 ≤ c.val := of_decide_eq_true ((Bool.and_eq_true _ _).mp hlower).1
      exact UInt32.le_trans (by decide) hfirst
  cases hdigit : c.isDigit with
  | false => rfl
  | true =>
    have hlast : c.val ≤ 57 := of_decide_eq_true ((Bool.and_eq_true _ _).mp hdigit).2
    exact absurd (UInt32.le_trans hletter hlast) (by decide)

/-- What a kind matches is a piece in front of every text that does not extend it. -/
theorem PieceKind.Matches.standsBefore {kind : PieceKind} {text after : List Char}
    (h : kind.Matches text) (hafter : ∀ c ∈ after.head?, kind.isExtendedBy c = false) :
    Piece.StandsBefore ⟨kind, text⟩ after := by
  cases h with
  | newline => exact (Piece.standsBefore_cons_iff rfl after).mpr rfl
  | directive directive =>
    obtain ⟨tail, htext⟩ : ∃ tail, directive.text.toList = '@' :: tail := by
      cases directive <;> exact ⟨_, rfl⟩
    rw [Piece.standsBefore_cons_iff htext]
    show directivePiece ('@' :: tail ++ after) = _
    rw [← htext]
    exact directivePiece_of_starts (List.prefix_append _ _)
  | number hne hdigits =>
    obtain ⟨c, tail, rfl⟩ := List.exists_cons_of_ne_nil hne
    obtain ⟨hc, htail⟩ := List.forall_mem_cons.mp hdigits
    have hrun := (takeWhile_append_eq_iff tail after).mpr ⟨htail, hafter⟩
    rw [Piece.standsBefore_cons_iff rfl, atStart_of_isAlphanum (by simp [Char.isAlphanum, hc]),
      if_pos hc, hrun]
  | @chord sign tail letter hsign hletter htail =>
    have hrun := (takeWhile_append_eq_iff tail after).mpr ⟨htail, hafter⟩
    have hsigned (s : Char) :
        signPiece s (letter :: tail ++ after) = ⟨.chord, s :: letter :: tail⟩ := by
      rw [List.cons_append, signPiece, if_pos hletter, chordFrom, hrun]
      rfl
    rcases hsign with rfl | rfl | rfl
    · rw [List.nil_append, Piece.standsBefore_cons_iff rfl,
        atStart_of_isAlphanum (by simp [Char.isAlphanum, hletter]),
        if_neg (by simp [isDigit_eq_false_of_isAlpha hletter]), chordFrom, hrun]
      rfl
    · rw [List.singleton_append, Piece.standsBefore_cons_iff rfl]
      exact hsigned '+'
    · rw [List.singleton_append, Piece.standsBefore_cons_iff rfl]
      exact hsigned '-'
  | blank hne hblanks =>
    obtain ⟨c, tail, rfl⟩ := List.exists_cons_of_ne_nil hne
    obtain ⟨hc, htail⟩ := List.forall_mem_cons.mp hblanks
    have hrun := (takeWhile_append_eq_iff tail after).mpr ⟨htail, hafter⟩
    rw [Piece.standsBefore_cons_iff rfl, atStart_blank hc, hrun]
  | @comment body hbody =>
    have hrun : (body ++ after).takeWhile (fun c => decide (c ≠ '\n')) = body := by
      refine (takeWhile_append_eq_iff _ _).mpr ⟨?_, hafter⟩
      intro c hc
      exact decide_eq_true (ne_of_mem_of_not_mem hc hbody)
    rw [Piece.standsBefore_cons_iff rfl]
    show Piece.mk .comment ('#' :: (body ++ after).takeWhile _) = _
    rw [hrun]

/-! ## Tokens from their characters -/

/-- A piece in front of a text adds its token, if it has one. -/
theorem tokens_append {piece : Piece} {after : List Char} (h : piece.StandsBefore after) :
    tokens (piece.text ++ after) = piece.token?.toList ++ tokens after := by
  rw [tokens, h, List.filterMap_cons]
  cases piece.token? <;> rfl

theorem tokens_newline (rest : List Char) : tokens ('\n' :: rest) = .newline :: tokens rest :=
  tokens_append (PieceKind.Matches.newline.standsBefore fun _ _ => rfl)

/-- Blanks are skipped. -/
theorem tokens_blank {c : Char} (h : isBlank c) (rest : List Char) :
    tokens (c :: rest) = tokens rest := by
  -- A blank takes all blanks that follow, so that the text is the same behind the first of them.
  have hrun {c : Char} (h : isBlank c) (rest : List Char) :
      tokens (c :: rest) = tokens (rest.dropWhile isBlank) := by
    have hstands : Piece.StandsBefore ⟨.blank, c :: rest.takeWhile isBlank⟩
        (rest.dropWhile isBlank) := by
      rw [Piece.standsBefore_cons_iff rfl, List.takeWhile_append_dropWhile, atStart_blank h]
    have htokens := tokens_append hstands
    rwa [List.cons_append, List.takeWhile_append_dropWhile] at htokens
  rw [hrun h]
  cases rest with
  | nil => rfl
  | cons d rest =>
    by_cases hd : isBlank d
    · rw [hrun hd, List.dropWhile_cons_of_pos hd]
    · rw [List.dropWhile_cons_of_neg hd]

/-- Comments are skipped, up to the end of their line. -/
theorem tokens_comment {body after : List Char} (hbody : '\n' ∉ body)
    (hafter : ∀ c ∈ after.head?, c = '\n') : tokens ('#' :: (body ++ after)) = tokens after := by
  refine tokens_append ((PieceKind.Matches.comment hbody).standsBefore ?_)
  intro c hc
  simpa [PieceKind.isExtendedBy] using hafter c hc

/-- A directive is a token whatever follows. -/
theorem tokens_directive (directive : Directive) (after : List Char) :
    tokens (directive.text.toList ++ after) = .directive directive :: tokens after :=
  tokens_append ((PieceKind.Matches.directive directive).standsBefore fun _ _ => rfl)

/-- Digits are one number, up to a character that is none. -/
theorem tokens_number {digits after : List Char} (hne : digits ≠ [])
    (hdigits : ∀ c ∈ digits, c.isDigit) (hafter : ∀ c ∈ after.head?, c.isDigit = false) :
    tokens (digits ++ after) = .number digits :: tokens after :=
  tokens_append ((PieceKind.Matches.number hne hdigits).standsBefore hafter)

/-- A letter and what belongs to its chord is one chord, with a sign in front of it or without, up
to a character that belongs to no chord. -/
theorem tokens_chord {sign tail after : List Char} {c : Char}
    (hsign : sign = [] ∨ sign = ['+'] ∨ sign = ['-']) (hc : c.isAlpha)
    (htail : ∀ d ∈ tail, isChordPart d) (hafter : ∀ d ∈ after.head?, isChordPart d = false) :
    tokens (sign ++ (c :: tail) ++ after) = .chord (sign ++ (c :: tail)) :: tokens after :=
  tokens_append ((PieceKind.Matches.chord hsign hc htail).standsBefore hafter)

end DeadKeys.Script
