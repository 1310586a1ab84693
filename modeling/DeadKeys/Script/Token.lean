import DeadKeys.Text

/-!
# Pieces and tokens of a script

A script is cut from left to right into pieces: tokens, skipped blanks and comments, and single
characters at which nothing fits. Each piece is the longest that fits at its place, and put together
the pieces are the script (`flatten_pieces`). The tokens are the pieces that count: all but blanks
and comments.
-/

namespace DeadKeys.Script

/-- The two directives, which move the focus. -/
inductive Directive where
  | focus
  | blur
deriving DecidableEq

/-- How a directive is written. -/
def Directive.text : Directive → String
  | .focus => "@focus"
  | .blur => "@blur"

/-- What a piece of a script is. -/
inductive PieceKind where
  | newline
  | directive (directive : Directive)
  | number
  | chord
  | blank
  | comment
  | fault
deriving DecidableEq

/-- A piece of a script: what it is, and its text. -/
structure Piece where
  kind : PieceKind
  text : List Char
deriving DecidableEq

/-- The characters of a blank: a newline is none of them. -/
def isBlank (c : Char) : Bool := c = ' ' || c = '\t' || c = '\r'

/-- The characters of a chord behind its first letter. -/
def isChordPart (c : Char) : Bool := c.isAlphanum || c = '+'

/-- The chord that starts with the given characters and a letter. -/
def chordFrom (start rest : List Char) : Piece := ⟨.chord, start ++ rest.takeWhile isChordPart⟩

/-- The piece that starts with a sign: a chord if a letter follows. -/
def signPiece (sign : Char) : List Char → Piece
  | [] => ⟨.fault, [sign]⟩
  | c :: rest => if c.isAlpha then chordFrom [sign, c] rest else ⟨.fault, [sign]⟩

/-- The piece that starts with an at sign, given the text from there on. -/
def directivePiece (text : List Char) : Piece :=
  if Directive.focus.text.toList <+: text then ⟨.directive .focus, Directive.focus.text.toList⟩
  else if Directive.blur.text.toList <+: text then ⟨.directive .blur, Directive.blur.text.toList⟩
  else ⟨.fault, ['@']⟩

/-- The piece at the start of a text, given its first character and what follows. -/
def Piece.atStart (c : Char) (rest : List Char) : Piece :=
  if c = '\n' then ⟨.newline, [c]⟩
  else if isBlank c then ⟨.blank, c :: rest.takeWhile isBlank⟩
  else if c = '#' then ⟨.comment, c :: rest.takeWhile fun d => d ≠ '\n'⟩
  else if c.isDigit then ⟨.number, c :: rest.takeWhile Char.isDigit⟩
  else if c.isAlpha then chordFrom [c] rest
  else if c = '+' || c = '-' then signPiece c rest
  else if c = '@' then directivePiece (c :: rest)
  else ⟨.fault, [c]⟩

/-- The pieces of a text behind its first `skip` characters, which the piece before covers. -/
def piecesAfter : Nat → List Char → List Piece
  | _, [] => []
  | skip + 1, _ :: rest => piecesAfter skip rest
  | 0, c :: rest =>
    let piece := Piece.atStart c rest
    piece :: piecesAfter (piece.text.length - 1) rest

/-- The pieces of a text. -/
def pieces (text : List Char) : List Piece := piecesAfter 0 text

/-! ## The pieces cover the text -/

theorem taken_starts (p : Char → Bool) (text : List Char) : text.takeWhile p <+: text := by
  induction text with
  | nil => exact List.nil_prefix
  | cons c rest ih =>
    by_cases h : p c
    · simpa [List.takeWhile, h] using ih
    · simp [List.takeWhile, h]

/-- A piece is a start of the text and holds its first character. -/
theorem Piece.atStart_text (c : Char) (rest : List Char) :
    ∃ tail, (Piece.atStart c rest).text = c :: tail ∧ tail <+: rest := by
  have hnil : ([] : List Char) <+: rest := List.nil_prefix
  have hfocus : Directive.focus.text.toList = '@' :: ['f', 'o', 'c', 'u', 's'] := by decide
  have hblur : Directive.blur.text.toList = '@' :: ['b', 'l', 'u', 'r'] := by decide
  unfold Piece.atStart
  split
  · exact ⟨[], rfl, hnil⟩
  split
  · exact ⟨_, rfl, taken_starts _ _⟩
  split
  · exact ⟨_, rfl, taken_starts _ _⟩
  split
  · exact ⟨_, rfl, taken_starts _ _⟩
  split
  · exact ⟨_, rfl, taken_starts _ _⟩
  split
  · unfold signPiece
    split
    · exact ⟨[], rfl, hnil⟩
    · split
      · exact ⟨_, rfl, (List.prefix_cons_inj _).mpr (taken_starts _ _)⟩
      · exact ⟨[], rfl, hnil⟩
  split
  case isTrue hat =>
    subst hat
    unfold directivePiece
    split
    case isTrue h =>
      rw [hfocus] at h
      exact ⟨_, hfocus, (List.prefix_cons_inj _).mp h⟩
    case isFalse =>
      split
      case isTrue h =>
        rw [hblur] at h
        exact ⟨_, hblur, (List.prefix_cons_inj _).mp h⟩
      case isFalse => exact ⟨[], rfl, hnil⟩
  case isFalse => exact ⟨[], rfl, hnil⟩

theorem piecesAfter_eq_drop (skip : Nat) (text : List Char) :
    piecesAfter skip text = pieces (text.drop skip) := by
  induction text generalizing skip with
  | nil => cases skip <;> rfl
  | cons c rest ih =>
    cases skip with
    | zero => rfl
    | succ skip => simpa [piecesAfter] using ih skip

/-- The texts of the pieces, put together, are the text. -/
theorem flatten_pieces (text : List Char) : ((pieces text).map (·.text)).flatten = text := by
  match text with
  | [] => rfl
  | c :: rest =>
    obtain ⟨tail, htext, hprefix⟩ := Piece.atStart_text c rest
    obtain ⟨after, hafter⟩ := hprefix
    have hdrop : rest.drop tail.length = after := by rw [← hafter]; simp
    have hstep : pieces (c :: rest) = Piece.atStart c rest :: pieces after := by
      rw [pieces, piecesAfter]
      simp only [htext, List.length_cons, Nat.add_sub_cancel]
      rw [piecesAfter_eq_drop, hdrop]
    have hlen : after.length < (c :: rest).length := by
      rw [← hafter, List.length_cons, List.length_append]
      omega
    rw [hstep, List.map_cons, List.flatten_cons, htext, flatten_pieces after, List.cons_append,
      hafter]
termination_by text.length

/-! ## Tokens -/

/-- A token of a script. -/
inductive Token where
  | newline
  | directive (directive : Directive)
  /-- A number by its digits, which may be too large for a context. -/
  | number (digits : List Char)
  | chord (text : List Char)
  /-- A character at which no token starts. -/
  | fault (text : List Char)
deriving DecidableEq

/-- The token of a piece; skipped pieces have none. -/
def Piece.token? (piece : Piece) : Option Token :=
  match piece.kind with
  | .newline => some .newline
  | .directive directive => some (.directive directive)
  | .number => some (.number piece.text)
  | .chord => some (.chord piece.text)
  | .fault => some (.fault piece.text)
  | .blank | .comment => none

/-- The tokens of a script. -/
def tokens (text : List Char) : List Token := (pieces text).filterMap Piece.token?

/-- The value of decimal digits, if it fits a context number. -/
def contextNumber? (digits : List Char) : Option UInt64 :=
  if Text.decimalValue digits < UInt64.size then some (UInt64.ofNat (Text.decimalValue digits)) else none

end DeadKeys.Script
