import DeadKeys.Input

/-!
# Layers

Each combination of modifiers selects a layer, named by the active modifiers. A key is searched in
the starting layer, then in the layers of the single modifiers that the starting name mentions, and
last in the default layer. `fallbackChain` states this chain; `FallbackCursor` hands it out layer by
layer and is a value, so a copy goes on independently.
-/

namespace DeadKeys.Text

/-! ## Occurrences -/

/-- Whether a text holds `part` at some place. -/
def occursIn (part : List Char) : List Char → Bool
  | [] => part.isEmpty
  | c :: rest => part.isPrefixOf (c :: rest) || occursIn part rest

/-- A text holds exactly its infixes. -/
theorem occursIn_iff {part text : List Char} : occursIn part text = true ↔ part <:+: text := by
  induction text with
  | nil => rw [occursIn, List.isEmpty_iff, List.infix_nil]
  | cons c rest ih =>
    rw [occursIn, Bool.or_eq_true, List.isPrefixOf_iff_prefix, ih, List.infix_cons_iff]

end DeadKeys.Text

namespace DeadKeys.Layer

/-! ## Layer names -/

/-- The layer of no modifiers, which ends every fallback chain. -/
def default : String := "default"

/-- The name of the Caps Lock modifier and of its layer. -/
def caps : String := "caps"

/-- The name of the Shift modifier and of its layer. -/
def shift : String := "shift"

/-- The names of the active modifiers, in the fixed order caps, ctrl, alt, shift. -/
def activeNames (modifiers : Modifiers) : List String :=
  [(modifiers.capsLock, caps), (modifiers.ctrl, "ctrl"), (modifiers.alt, "alt"),
    (modifiers.shift, shift)].filterMap fun (active, name) => if active then some name else none

/-- The layer that a combination of modifiers selects: the active names joined by `+`, or the
default layer when there is none. -/
def name (modifiers : Modifiers) : String :=
  match activeNames modifiers with
  | [] => default
  | names => String.intercalate "+" names

/-! ## Fallback chains -/

/-- Whether a chain from `start` visits the layer of one modifier: the starting name mentions the
modifier but is not that layer itself. -/
def mentions (start modifier : String) : Bool :=
  Text.occursIn modifier.toList start.toList && start ≠ modifier

/-- The layers to search for a key, the most specific first. -/
def fallbackChain (start : String) : List String :=
  if start = default then [default]
  else start :: ([caps, shift].filter (mentions start) ++ [default])

theorem head?_fallbackChain (start : String) : (fallbackChain start).head? = some start := by
  unfold fallbackChain
  by_cases hdefault : start = default <;> simp [hdefault]

/-! ## Cursors -/

/-- Where a cursor stands; the stages are passed in this order. -/
inductive FallbackStage where
  | start
  | caps
  | shift
  | default
  | done
deriving DecidableEq

namespace FallbackStage

/-- How many stages are still to be passed. -/
def left : FallbackStage → Nat
  | .start => 4
  | .caps => 3
  | .shift => 2
  | .default => 1
  | .done => 0

/-- Passes one stage: the stage behind it, with the layer that the chain visits there, if any. -/
def pass? (start : String) : FallbackStage → Option (FallbackStage × Option String)
  | .start => some (if start = Layer.default then .done else .caps, some start)
  | .caps => some (.shift, if mentions start Layer.caps then some Layer.caps else none)
  | .shift => some (.default, if mentions start Layer.shift then some Layer.shift else none)
  | .default => some (.done, some Layer.default)
  | .done => none

/-- The stage only ever advances. -/
theorem left_lt_of_pass? {start : String} {stage next : FallbackStage} {layer? : Option String}
    (h : stage.pass? start = some (next, layer?)) : next.left < stage.left := by
  cases stage with
  | start =>
    obtain ⟨rfl, _⟩ := Prod.mk.inj (Option.some.inj h)
    split <;> decide
  | caps | shift | default =>
    obtain ⟨rfl, _⟩ := Prod.mk.inj (Option.some.inj h)
    decide
  | done => cases h

end FallbackStage

/-- The rest of a fallback chain: the starting layer and the next stage to pass. -/
structure FallbackCursor where
  start : String
  stage : FallbackStage
deriving DecidableEq

namespace FallbackCursor

/-- The whole chain of a starting layer. -/
def ofStart (start : String) : FallbackCursor := ⟨start, .start⟩

/-- The next layer and the cursor behind it; stages without a layer are skipped. -/
def next? (cursor : FallbackCursor) : Option (String × FallbackCursor) :=
  match _ : cursor.stage.pass? cursor.start with
  | none => none
  | some (stage, some layer) => some (layer, ⟨cursor.start, stage⟩)
  | some (stage, none) => next? ⟨cursor.start, stage⟩
termination_by cursor.stage.left
decreasing_by exact FallbackStage.left_lt_of_pass? ‹_›

/-- The bounds on the number of layers that are promised of every cursor. -/
def sizeBounds (_cursor : FallbackCursor) : Nat × Nat := (0, 4)

/-- The next `count` answers of a cursor, `none` once the chain has ended, and the cursor behind
them. -/
def takeNext : Nat → FallbackCursor → List (Option String) × FallbackCursor
  | 0, cursor => ([], cursor)
  | count + 1, cursor =>
    match cursor.next? with
    | some (layer, rest) =>
      let (answers, last) := takeNext count rest
      (some layer :: answers, last)
    | none =>
      let (answers, last) := takeNext count cursor
      (none :: answers, last)

/-- The layers still to come; the upper size bound is enough to reach the end. -/
def toList (cursor : FallbackCursor) : List String :=
  (cursor.takeNext cursor.sizeBounds.2).1.filterMap id

end FallbackCursor

end DeadKeys.Layer
