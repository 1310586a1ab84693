import DeadKeys.Unicode.Property

/-!
# Texts

The number that decimal digits stand for, in positional notation (`decimalValue_append`), and texts
as they are shown in double quotes.
-/

namespace DeadKeys.Text

/-! ## Decimal digits -/

/-- The value of a decimal digit. -/
def digitValue (digit : Char) : Nat := digit.toNat - '0'.toNat

/-- The value of decimal digits that follow on digits of a given value. -/
def decimalValueFrom (value : Nat) (digits : List Char) : Nat :=
  digits.foldl (fun value digit => 10 * value + digitValue digit) value

/-- The value of decimal digits; of none it is 0. -/
def decimalValue (digits : List Char) : Nat := decimalValueFrom 0 digits

/-- A digit at the end is worth its value, and those in front of it ten times as much. -/
theorem decimalValue_append (digits : List Char) (digit : Char) :
    decimalValue (digits ++ [digit]) = 10 * decimalValue digits + digitValue digit := by
  rw [decimalValue, decimalValueFrom, List.foldl_append]
  rfl

/-- Zeros in front of digits do not count. -/
theorem decimalValue_zeros (zeros : Nat) (digits : List Char) :
    decimalValue (List.replicate zeros '0' ++ digits) = decimalValue digits := by
  induction zeros with
  | zero => rfl
  | succ zeros ih => exact ih

/-! ## Quoted texts

A text is shown in double quotes so that every character of it can be told apart: quotes and
backslashes get a backslash, the usual controls their letter, and whatever has no glyph of its own
its code point. -/

/-- Whether a character has a glyph of its own. What extends the character before it has none, save
for the halfwidth sound marks, which are letters. The Hangul fillers are letters too, but are left
out in print. -/
def hasOwnGlyph (c : Char) : Bool :=
  Unicode.isGraphic c && !Unicode.isDefaultIgnorable c &&
    (Unicode.isLetter c || !Unicode.isGraphemeExtend c)

/-- An escape that names the code point in hexadecimal digits. -/
def codePointEscape (c : Char) : List Char :=
  ['\\', 'u', '\x7b'] ++ Nat.toDigits 16 c.toNat ++ ['\x7d']

/-- The written form of a character between quotes. -/
def escape (c : Char) : List Char :=
  if c = '"' then ['\\', '"']
  else if c = '\\' then ['\\', '\\']
  else if c = '\t' then ['\\', 't']
  else if c = '\r' then ['\\', 'r']
  else if c = '\n' then ['\\', 'n']
  else if c = '\x00' then ['\\', '0']
  else if hasOwnGlyph c then [c]
  else codePointEscape c

/-- A text in quotes. -/
def quote (text : String) : String :=
  String.ofList (['"'] ++ text.toList.flatMap escape ++ ['"'])

/-- The quoted texts of a list, separated by commas. -/
def quoteAll (texts : List String) : String :=
  String.intercalate ", " (texts.map quote)

/-- A list of quoted texts in brackets. -/
def quoteList (texts : List String) : String :=
  "[" ++ quoteAll texts ++ "]"

/-- A set of quoted texts in braces. -/
def quoteSet (texts : List String) : String :=
  "\x7b" ++ quoteAll texts ++ "\x7d"

end DeadKeys.Text
