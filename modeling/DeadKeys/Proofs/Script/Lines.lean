import DeadKeys.Proofs.Script.Parsing
import DeadKeys.Proofs.Script.Tokens

/-!
# Scripts in parts

No piece of a script reaches over a newline, so what is behind a newline does not change the pieces
in front of it (`pieces_append_newline`). A script can therefore be parsed in parts that are cut at
newlines: its steps are those of the parts, and its error is that of the first part with one, all on
lines that count on from part to part (`parse_append_newline`).
-/

namespace DeadKeys.Script

/-! ## Pieces in front of a newline -/

theorem takeWhile_append_newline {p : Char → Bool} (h : p '\n' = false) (text after : List Char) :
    (text ++ '\n' :: after).takeWhile p = text.takeWhile p := by
  induction text with
  | nil => simp [h]
  | cons c text ih => rw [List.cons_append, List.takeWhile_cons, List.takeWhile_cons, ih]

theorem chordFrom_append_newline (start rest after : List Char) :
    chordFrom start (rest ++ '\n' :: after) = chordFrom start rest := by
  rw [chordFrom, takeWhile_append_newline rfl, chordFrom]

theorem signPiece_append_newline (sign : Char) (rest after : List Char) :
    signPiece sign (rest ++ '\n' :: after) = signPiece sign rest := by
  cases rest with
  | nil => rfl
  | cons letter rest =>
    simp only [List.cons_append, signPiece, chordFrom_append_newline]

/-- A word without newlines that starts a text does not reach over a newline in it. -/
theorem starts_append_newline_iff {word : List Char} (h : '\n' ∉ word) (text after : List Char) :
    word <+: text ++ '\n' :: after ↔ word <+: text := by
  constructor
  · intro hword
    rcases List.prefix_or_prefix_of_prefix hword (List.prefix_append text _) with hshort | hlong
    · exact hshort
    · -- a word that is longer than the text goes on with the newline
      obtain ⟨more, rfl⟩ := hlong
      rw [List.prefix_append_right_inj] at hword
      cases more with
      | nil => simp
      | cons c more =>
        obtain ⟨rfl, -⟩ := List.cons_prefix_cons.mp hword
        simp at h
  · intro hword
    exact hword.trans (List.prefix_append text _)

theorem directivePiece_append_newline (text after : List Char) :
    directivePiece (text ++ '\n' :: after) = directivePiece text := by
  have hfocus : '\n' ∉ Directive.focus.text.toList := by decide
  have hblur : '\n' ∉ Directive.blur.text.toList := by decide
  simp only [directivePiece, starts_append_newline_iff hfocus, starts_append_newline_iff hblur]

/-- A newline ends the piece in front of it, whatever follows. -/
theorem Piece.atStart_append_newline (c : Char) (rest after : List Char) :
    Piece.atStart c (rest ++ '\n' :: after) = Piece.atStart c rest := by
  have hrun {p : Char → Bool} (h : p '\n' = false) (kind : PieceKind) :
      Piece.mk kind (c :: (rest ++ '\n' :: after).takeWhile p) = ⟨kind, c :: rest.takeWhile p⟩ := by
    rw [takeWhile_append_newline h]
  unfold Piece.atStart
  split
  · rfl
  split
  · exact hrun rfl .blank
  split
  · exact hrun rfl .comment
  split
  · exact hrun rfl .number
  split
  · exact chordFrom_append_newline [c] rest after
  split
  · exact signPiece_append_newline c rest after
  split
  · exact directivePiece_append_newline (c :: rest) after
  · rfl

theorem Piece.StandsBefore.append_newline {piece : Piece} {behind : List Char}
    (h : piece.StandsBefore behind) (after : List Char) :
    piece.StandsBefore (behind ++ '\n' :: after) := by
  obtain ⟨c, tail, htext⟩ := h.exists_text
  rw [Piece.standsBefore_cons_iff htext] at h ⊢
  rw [← List.append_assoc, Piece.atStart_append_newline, h]

/-- The pieces of a text that has a newline are those in front of it, the newline, and those behind
it. -/
theorem pieces_append_newline (text after : List Char) :
    pieces (text ++ '\n' :: after) = pieces text ++ ⟨.newline, ['\n']⟩ :: pieces after := by
  generalize hparts : pieces text = parts
  induction parts generalizing text with
  | nil =>
    obtain rfl : text = [] := by
      rw [← covered_pieces text, hparts]
      rfl
    have hstands : Piece.StandsBefore ⟨.newline, ['\n']⟩ after :=
      (Piece.standsBefore_cons_iff rfl after).mpr rfl
    exact hstands
  | cons piece parts ih =>
    obtain ⟨behind, rfl, hbehind, hstands⟩ := exists_of_pieces_eq_cons hparts
    have hnow := hstands.append_newline after
    rw [List.append_assoc, hnow, ih behind hbehind.symm, List.cons_append]

theorem tokens_append_newline (text after : List Char) :
    tokens (text ++ '\n' :: after) = tokens text ++ .newline :: tokens after := by
  rw [tokens, pieces_append_newline, List.filterMap_append]
  rfl

/-! ## Reading on -/

/-- A step on a later line. -/
def Step.moved (lines : Nat) : Step → Step
  | .key line stroke => .key (line + lines) stroke
  | .focus context => .focus context
  | .blur context => .blur context

/-- An error on a later line. -/
def ScriptError.moved (lines : Nat) (error : ScriptError) : ScriptError :=
  ⟨error.line + lines, error.fault⟩

variable {line : Nat} {read rest front : List Token} {steps later : List Step}

/-- Where reading starts only matters for the lines. -/
theorem Reads.moved (h : Reads line read steps) (lines : Nat) :
    Reads (line + lines) read (steps.map (Step.moved lines)) := by
  induction h with
  | nil line => exact .nil _
  | newline _ ih =>
    rw [Nat.add_right_comm] at ih
    exact .newline ih
  | chord hstroke _ ih => exact .chord hstroke ih
  | @directive line directive digits value rest steps hvalue _ ih =>
    have hstep : (directive.step ⟨value⟩).moved lines = directive.step ⟨value⟩ := by
      cases directive <;> rfl
    rw [List.map_cons, hstep]
    exact .directive hvalue ih

/-- Reading goes on where it ended, on the line that the newlines lead to. -/
theorem Reads.append (h : Reads line read steps)
    (hrest : Reads (line + read.count .newline) rest later) :
    Reads line (read ++ rest) (steps ++ later) := by
  induction h with
  | nil line => exact hrest
  | @newline line read steps _ ih =>
    rw [List.count_cons_self, Nat.add_comm _ 1, ← Nat.add_assoc] at hrest
    exact .newline (ih hrest)
  | chord hstroke _ ih =>
    rw [List.count_cons_of_ne (by simp)] at hrest
    exact .chord hstroke (ih hrest)
  | directive hvalue _ ih =>
    rw [List.count_cons_of_ne (by simp), List.count_cons_of_ne (by simp)] at hrest
    exact .directive hvalue (ih hrest)

/-- A parser that stops at the end of a text stops with the same fault at a newline behind it: a
directive that misses its context takes no newline for one. -/
theorem Stops.exists_before_newline {broken : Option Token} {left : List Token} {fault : Fault}
    (h : Stops front broken fault) (hleft : broken = none → left = []) (after : List Token) :
    ∃ token others, Stops front (some token) fault ∧
      broken.toList ++ left ++ .newline :: after = (some token).toList ++ others := by
  cases broken with
  | some token => exact ⟨token, left ++ .newline :: after, h, by simp⟩
  | none =>
    cases h with
    | atEnd directive => exact ⟨.newline, after, .context rfl, by simp [hleft rfl]⟩

/-- A text in front of a newline and a text behind it are parsed one after the other: the steps of
the second are those of the text by itself, on lines that count on. The error is that of the first
text, or else that of the second by itself, again on a line that counts on. -/
theorem parse_append_newline (first second : String) :
    parse (first ++ "\n" ++ second) =
      match parse first, parse second with
      | .error error, _ => .error error
      | .ok _, .error error => .error (error.moved (1 + first.toList.count '\n'))
      | .ok steps, .ok later =>
        .ok (steps ++ later.map (Step.moved (1 + first.toList.count '\n'))) := by
  have htokens : tokens (first ++ "\n" ++ second).toList =
      tokens first.toList ++ .newline :: tokens second.toList := by
    rw [← tokens_append_newline]
    simp
  rcases readsOrStops 1 (tokens first.toList) with
    ⟨steps, hfirst⟩ | ⟨read, steps, front, broken, fault, left, hcut, hreads, hstops, hleft⟩
  · -- the second text is read from the line behind the newline on
    have hbehind {read : List Token} {later : List Step} (h : Reads 1 read later) :
        Reads 1 (tokens first.toList ++ .newline :: read)
          (steps ++ later.map (Step.moved (1 + first.toList.count '\n'))) := by
      refine hfirst.append (.newline ?_)
      rw [← count_newline_tokens, Nat.add_assoc, Nat.add_comm _ 1]
      exact h.moved _
    rw [parse_eq_ok_of_reads hfirst]
    rcases readsOrStops 1 (tokens second.toList) with
      ⟨later, hsecond⟩ | ⟨read, later, front, broken, fault, left, hcut, hreads, hstops, hleft⟩
    · rw [parse_eq_ok_of_reads hsecond]
      refine parse_eq_ok_of_reads ?_
      rw [htokens]
      exact hbehind hsecond
    · rw [parse_eq_error_of_stops hcut hreads hstops hleft]
      have hall : tokens (first ++ "\n" ++ second).toList =
          tokens first.toList ++ .newline :: read ++ (front ++ (broken.toList ++ left)) := by
        rw [htokens, hcut]
        simp
      rw [parse_eq_error_of_stops hall (hbehind hreads) hstops hleft, List.count_append,
        List.count_cons_self, ← count_newline_tokens]
      have hline : 1 + (first.toList.count '\n' + (read.count .newline + 1)) =
          1 + read.count .newline + (1 + first.toList.count '\n') := by omega
      rw [hline]
      rfl
  · rw [parse_eq_error_of_stops hcut hreads hstops hleft]
    obtain ⟨token, others, hagain, hothers⟩ :=
      hstops.exists_before_newline hleft (tokens second.toList)
    have hall : tokens (first ++ "\n" ++ second).toList =
        read ++ (front ++ ((some token).toList ++ others)) := by
      rw [htokens, hcut, ← hothers]
      simp
    exact parse_eq_error_of_stops hall hreads hagain (by simp)

/-- A comment ends with its line, and a directive does not take a number from the next one. -/
example : parse "KeyA # @focus 1\n@blur 2 @focus\n3" = .error ⟨2, .missingContext .focus⟩ := by rfl

end DeadKeys.Script
