import DeadKeys.SortedMap.Entries

/-!
# Keys, events and contexts

What a host delivers: events of keys, which are identified by physical codes such as `KeyA` or
`Quote`, for contexts, which are its text fields. The alphanumeric block may also be addressed by
position: a row letter and a two-digit column.
-/

namespace DeadKeys.Key

/-! ## Key codes and key positions -/

/-- The code of the space bar. -/
def space : String := "Space"

/-- The code of the right Alt key, which acts as a sticky modifier. -/
def altRight : String := "AltRight"

/-- The known positions with the physical codes found there, row by row from the top. -/
def positions : List (String × String) := [
  ("E00", "Backquote"), ("E01", "Digit1"), ("E02", "Digit2"), ("E03", "Digit3"),
  ("E04", "Digit4"), ("E05", "Digit5"), ("E06", "Digit6"), ("E07", "Digit7"),
  ("E08", "Digit8"), ("E09", "Digit9"), ("E10", "Digit0"), ("E11", "Minus"),
  ("E12", "Equal"),
  ("D01", "KeyQ"), ("D02", "KeyW"), ("D03", "KeyE"), ("D04", "KeyR"), ("D05", "KeyT"),
  ("D06", "KeyY"), ("D07", "KeyU"), ("D08", "KeyI"), ("D09", "KeyO"), ("D10", "KeyP"),
  ("D11", "BracketLeft"), ("D12", "BracketRight"),
  ("C01", "KeyA"), ("C02", "KeyS"), ("C03", "KeyD"), ("C04", "KeyF"), ("C05", "KeyG"),
  ("C06", "KeyH"), ("C07", "KeyJ"), ("C08", "KeyK"), ("C09", "KeyL"), ("C10", "Semicolon"),
  ("C11", "Quote"), ("D13", "Backslash"),
  ("B00", "IntlBackslash"), ("B01", "KeyZ"), ("B02", "KeyX"), ("B03", "KeyC"),
  ("B04", "KeyV"), ("B05", "KeyB"), ("B06", "KeyN"), ("B07", "KeyM"), ("B08", "Comma"),
  ("B09", "Period"), ("B10", "Slash")]

/-- The physical code at a position. -/
def codeAt? (position : String) : Option String := positions.lookup position

/-- Whether a name has the shape of a position: a row from `A` to `E` and two digits. -/
def isPositionShaped (name : String) : Bool :=
  match name.toList with
  | [row, tens, units] => 'A' ≤ row && row ≤ 'E' && tens.isDigit && units.isDigit
  | _ => false

/-- The physical code that a name stands for: a name shaped like a position must be a known one,
any other name is a code already. `none` is an unknown position. -/
def resolve? (name : String) : Option String :=
  if isPositionShaped name then codeAt? name else some name

/-- Only what is shaped like a position can be unknown. -/
theorem resolve?_eq_none_iff {name : String} :
    resolve? name = none ↔ isPositionShaped name = true ∧ codeAt? name = none := by
  rw [resolve?]
  by_cases hshaped : isPositionShaped name = true <;> simp [hshaped]

end DeadKeys.Key

namespace DeadKeys

/-! ## Key events and modifiers -/

/-- Whether a key went down or came up. -/
inductive KeyDirection where
  | down
  | up
deriving DecidableEq

/-- The modifiers in force for a key-down. `alt` is the sticky right Alt key, never a flag of the
host. -/
structure Modifiers where
  capsLock : Bool := false
  ctrl : Bool := false
  alt : Bool := false
  shift : Bool := false
deriving DecidableEq

/-- A raw key event as a host delivers it. -/
structure KeyEvent where
  code : String
  direction : KeyDirection
  capsLock : Bool := false
  ctrl : Bool := false
  shift : Bool := false
deriving DecidableEq

namespace KeyEvent

/-- Whether the key went down. -/
def isDown (event : KeyEvent) : Bool := event.direction = .down

/-- Whether the event is about the sticky right Alt key. -/
def isAltRight (event : KeyEvent) : Bool := event.code = Key.altRight

/-- The modifiers of the event, given whether right Alt is held. -/
def modifiers (event : KeyEvent) (alt : Bool) : Modifiers :=
  ⟨event.capsLock, event.ctrl, alt, event.shift⟩

end KeyEvent

/-! ## Contexts

A context is one text field of the host, identified by a 64-bit number. -/

/-- The number of a context. -/
structure ContextId where
  number : UInt64
deriving DecidableEq

namespace ContextId

instance : LT ContextId := ⟨fun a b => a.number < b.number⟩

instance : DecidableLT ContextId := fun a b => inferInstanceAs (Decidable (a.number < b.number))

instance : KeyOrder ContextId where
  irrefl := fun a => UInt64.lt_irrefl a.number
  trans := fun h h' => UInt64.lt_trans h h'
  total := fun a b => by
    rcases Nat.lt_trichotomy a.number.toNat b.number.toNat with h | h | h
    · exact .inl (UInt64.lt_iff_toNat_lt.mpr h)
    · exact .inr (.inl (by cases a; cases b; simpa using UInt64.toNat_inj.mp h))
    · exact .inr (.inr (UInt64.lt_iff_toNat_lt.mpr h))

/-- How a context is written: its number behind a hash sign. -/
def text (context : ContextId) : String :=
  "#" ++ Nat.repr context.number.toNat

end ContextId

end DeadKeys
