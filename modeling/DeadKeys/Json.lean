import DeadKeys.Text

/-!
# Reading JSON

A document is checked as it is read, so the first fault in the order of the text is the one that is
reported. The readers here are the common parts: texts, numbers, loops over members and elements,
values of any kind, and values that are skipped.
-/

namespace DeadKeys.Json

/-! ## Values

A value as it is written: the members of an object keep their order, and repeated keys stay. -/

/-- A JSON value. A number is kept by its literal. -/
inductive Value where
  | null
  | bool (value : Bool)
  | number (literal : String)
  | string (text : String)
  | array (elements : List Value)
  | object (members : List (String × Value))

/-- The kinds of JSON values. -/
inductive Kind where
  | null
  | bool
  | number
  | string
  | array
  | object
deriving DecidableEq

/-- How messages name a kind. -/
def Kind.text : Kind → String
  | .null => "null"
  | .bool => "a boolean"
  | .number => "a number"
  | .string => "a string"
  | .array => "an array"
  | .object => "an object"

/-! ## Numerals

The digits of a JSON number, and the test whether it is small enough for a double. The significand
is cut where it would exceed 64 bits; integer digits behind the cut still count as powers of ten. -/

/-- A number by its digits and its exponent. -/
structure Numeral where
  integer : List Char
  fraction : List Char
  exponent : Int

namespace Numeral

/-- The largest significand: the largest number of 64 bits. -/
def significandLimit : Nat := 18446744073709551615

/-- The largest power of ten among the doubles. -/
def exponentLimit : Nat := 308

/-- Appends digits to a significand as long as it stays within the limit; the rest is left over. -/
def absorb (significand : Nat) : List Char → Nat × List Char
  | [] => (significand, [])
  | digit :: rest =>
    let next := 10 * significand + Text.digitValue digit
    if next ≤ significandLimit then absorb next rest else (significand, digit :: rest)

/-- The significand and the power of ten that goes with it. -/
def scaled (numeral : Numeral) : Nat × Int :=
  let (whole, wholeLeft) := absorb 0 numeral.integer
  let (significand, fractionLeft) := absorb whole numeral.fraction
  let absorbed := numeral.fraction.length - fractionLeft.length
  (significand, numeral.exponent + wholeLeft.length - absorbed)

/-- Whether the number is finite as a double: the product of the significand and the power of ten,
each rounded, does not overflow. -/
def isFinite (numeral : Numeral) : Bool :=
  let (significand, exponent) := numeral.scaled
  if significand = 0 || exponent < 0 then true
  else if exponent > exponentLimit then false
  else !(Float.ofNat significand * Float.ofScientific 1 false exponent.toNat).isInf

end Numeral

/-! ## Readers -/

/-- What is wrong with a document. -/
inductive Fault where
  /-- The text ends too early. -/
  | truncated
  /-- The text is not JSON. -/
  | malformed
  /-- A value has the wrong type, or a field is given twice. -/
  | mistyped
deriving DecidableEq

/-- A reader takes a start of the text off, or finds a fault. -/
abbrev Reader := StateT (List Char) (Except Fault)

namespace Reader

/-- Ends the reading with a fault. -/
def fail {α : Type} (fault : Fault) : Reader α := throw fault

/-! ## Characters -/

/-- The blanks between the parts of a document. -/
def isBlank (c : Char) : Bool := c = ' ' || c = '\n' || c = '\t' || c = '\r'

/-- Skips blanks. -/
def skipBlanks : Reader Unit := modify fun text => text.dropWhile isBlank

/-- The next character, which stays. -/
def peek? : Reader (Option Char) := return (← get).head?

/-- Takes the next character off. -/
def skipChar : Reader Unit := modify fun text => text.drop 1

/-- The next character behind blanks, which stays; there must be one. -/
def peekToken : Reader Char := do
  skipBlanks
  match ← peek? with
  | some c => return c
  | none => fail .truncated

/-- Takes a given character off, behind blanks. -/
def expect (c : Char) : Reader Unit := do
  if (← peekToken) = c then skipChar else fail .malformed

/-- Takes the rest of a literal off. -/
def literalRest : List Char → Reader Unit
  | [] => return ()
  | c :: rest => do
    match ← peek? with
    | none => fail .truncated
    | some d =>
      if d = c then
        skipChar
        literalRest rest
      else fail .malformed

/-- Takes a literal off whose first character was seen. -/
def literal (word : String) : Reader Unit := literalRest word.toList

/-- The digits ahead. -/
def digits : Reader (List Char) := do
  let text ← get
  set (text.dropWhile Char.isDigit)
  return text.takeWhile Char.isDigit

/-! ## Texts -/

/-- The value of a hexadecimal digit. -/
def hexDigit? (c : Char) : Option Nat :=
  if '0' ≤ c && c ≤ '9' then some (c.toNat - '0'.toNat)
  else if 'a' ≤ c && c ≤ 'f' then some (c.toNat - 'a'.toNat + 10)
  else if 'A' ≤ c && c ≤ 'F' then some (c.toNat - 'A'.toNat + 10)
  else none

/-- The value of hexadecimal digits. -/
def hexValue? (digits : List Char) : Option Nat :=
  digits.foldlM (fun value c => (hexDigit? c).map fun digit => 16 * value + digit) 0

/-- Four hexadecimal digits. The text is cut short when fewer than four bytes are left. -/
def hexUnit : Reader Nat := do
  let text ← get
  let four := text.take 4
  match hexValue? four with
  | some value =>
    if four.length = 4 then do
      set (text.drop 4)
      return value
    else fail .truncated
  | none => if (String.ofList four).utf8ByteSize < 4 then fail .truncated else fail .malformed

/-- Takes off a given character that must follow at once. -/
def expectNext (c : Char) : Reader Unit := do
  match ← peek? with
  | none => fail .truncated
  | some d => if d = c then skipChar else fail .malformed

/-- The character of a code unit escape; a leading surrogate needs its trailing one. -/
def unitEscape : Reader Char := do
  let unit ← hexUnit
  if 0xdc00 ≤ unit && unit ≤ 0xdfff then fail .malformed
  else if 0xd800 ≤ unit && unit ≤ 0xdbff then do
    expectNext '\\'
    expectNext 'u'
    let trail ← hexUnit
    if 0xdc00 ≤ trail && trail ≤ 0xdfff then
      return Char.ofNat (0x10000 + (unit - 0xd800) * 0x400 + (trail - 0xdc00))
    else fail .malformed
  else return Char.ofNat unit

/-- The character that a one-letter escape stands for. -/
def simpleEscape? (c : Char) : Option Char :=
  [('"', '"'), ('\\', '\\'), ('/', '/'), ('b', '\x08'), ('f', '\x0c'), ('n', '\n'), ('r', '\r'),
    ('t', '\t')].lookup c

/-- The character of an escape whose backslash was taken off. -/
def escape : Reader Char := do
  match ← peek? with
  | none => fail .truncated
  | some 'u' => do
    skipChar
    unitEscape
  | some c =>
    match simpleEscape? c with
    | some value => do
      skipChar
      return value
    | none => fail .malformed

/-- Skips an escape; surrogates need not be paired. -/
def skipEscape : Reader Char := do
  match ← peek? with
  | some 'u' => do
    skipChar
    let _ ← hexUnit
    return 'u'
  | _ => escape

/-- The characters up to the closing quote, in front of which `taken` were read; last first. -/
def charsUntilQuote (readEscape : Reader Char) : Nat → List Char → Reader (List Char)
  | 0, _ => fail .truncated
  | fuel + 1, taken => do
    match ← peek? with
    | none => fail .truncated
    | some '"' => do
      skipChar
      return taken
    | some '\\' => do
      skipChar
      let c ← readEscape
      charsUntilQuote readEscape fuel (c :: taken)
    | some c =>
      if c.toNat < 0x20 then fail .malformed
      else do
        skipChar
        charsUntilQuote readEscape fuel (c :: taken)

/-- A number of steps that no loop over the text ahead exceeds, as each step takes a character off. -/
def stepBound : Reader Nat := return (← get).length + 1

/-- The text up to the closing quote; the opening quote was taken off. -/
def textRest : Reader String := do
  return String.ofList (← charsUntilQuote escape (← stepBound) []).reverse

/-- Skips the text up to the closing quote. -/
def skipTextRest : Reader Unit := do
  let _ ← charsUntilQuote skipEscape (← stepBound) []

/-! ## Numbers -/

/-- At least one digit; `atEnd` is the fault when the text ends instead. -/
def someDigits (atEnd : Fault) : Reader (List Char) := do
  match ← digits with
  | [] =>
    match ← peek? with
    | none => fail atEnd
    | some _ => fail .malformed
  | found => return found

/-- The digits in front of the point: no leading zeros. -/
def integerDigits (atEnd : Fault) : Reader (List Char) := do
  match ← someDigits atEnd with
  | '0' :: _ :: _ => fail .malformed
  | found => return found

/-- The digits behind the point, if there is one. -/
def fractionDigits (atEnd : Fault) : Reader (List Char) := do
  match ← peek? with
  | some '.' => do
    skipChar
    someDigits atEnd
  | _ => return []

/-- The exponent, 0 when there is none. -/
def exponent (atEnd : Fault) : Reader Int := do
  let marked := (← peek?) = some 'e' || (← peek?) = some 'E'
  if marked then do
    skipChar
    match ← peek? with
    | some '-' => do
      skipChar
      return -Int.ofNat (Text.decimalValue (← someDigits atEnd))
    | some '+' => do
      skipChar
      return Int.ofNat (Text.decimalValue (← someDigits atEnd))
    | _ => return Int.ofNat (Text.decimalValue (← someDigits atEnd))
  else return 0

/-- A number behind its sign. -/
def numeral (atEnd : Fault) : Reader Numeral := do
  let integer ← integerDigits atEnd
  let fraction ← fractionDigits atEnd
  let power ← exponent atEnd
  return ⟨integer, fraction, power⟩

/-- Takes a minus sign off, if there is one. -/
def skipMinus : Reader Unit := do
  if (← peek?) = some '-' then skipChar

/-- Reads a number, which must be finite as a double, and gives its literal. -/
def number : Reader String := do
  let start ← get
  skipMinus
  let found ← numeral .truncated
  if found.isFinite then
    return String.ofList (start.take (start.length - (← get).length))
  else fail .malformed

/-- Skips a number of any size. -/
def skipNumber : Reader Unit := do
  skipMinus
  let _ ← numeral .malformed

/-! ## Loops -/

/-- Moves on to the next item of a container that ends with `close`, and says whether there is
one. Items are separated by commas, and none may follow the last item. -/
def nextItem (close : Char) (first : Bool) : Reader Bool := do
  let c ← peekToken
  if c = close then
    skipChar
    return false
  else if first then return true
  else if c = ',' then do
    skipChar
    if (← peekToken) = close then fail .malformed else return true
  else fail .malformed

/-- Reads the members of an object up to its end. `member` gets what was read so far and the key, and
reads from the colon on. -/
def membersFrom {σ : Type} (member : σ → String → Reader σ) : Nat → Bool → σ → Reader σ
  | 0, _, _ => fail .truncated
  | fuel + 1, first, sofar => do
    if ← nextItem '}' first then do
      if (← peekToken) = '"' then do
        skipChar
        let key ← textRest
        membersFrom member fuel false (← member sofar key)
      else fail .malformed
    else return sofar

/-- Reads the elements of an array up to its end. -/
def elementsFrom {σ : Type} (element : σ → Reader σ) : Nat → Bool → σ → Reader σ
  | 0, _, _ => fail .truncated
  | fuel + 1, first, sofar => do
    if ← nextItem ']' first then elementsFrom element fuel false (← element sofar)
    else return sofar

/-- Reads an object whose opening brace is next. -/
def object {σ : Type} (start : σ) (member : σ → String → Reader σ) : Reader σ := do
  skipChar
  membersFrom member (← stepBound) true start

/-- Reads an array whose opening bracket is next. -/
def array {σ : Type} (start : σ) (element : σ → Reader σ) : Reader σ := do
  skipChar
  elementsFrom element (← stepBound) true start

/-! ## Values of any kind -/

/-- Reads a value; `container` reads one that opens with a brace or bracket. -/
def valueWith (container : Char → Reader Value) : Reader Value := do
  match ← peekToken with
  | 'n' => do
    literal "null"
    return .null
  | 't' => do
    literal "true"
    return .bool true
  | 'f' => do
    literal "false"
    return .bool false
  | '"' => do
    skipChar
    return .string (← textRest)
  | '\x7b' => container '\x7b'
  | '[' => container '['
  | c => if c = '-' || c.isDigit then return .number (← number) else fail .malformed

/-- Reads a value in which at most `room` containers are nested. -/
def value : Nat → Reader Value
  | 0 => valueWith fun _ => fail .malformed
  | room + 1 => valueWith fun opening =>
    if opening = '[' then do
      let elements ← array [] fun sofar => return (← value room) :: sofar
      return .array elements.reverse
    else do
      let members ← object [] fun sofar key => do
        expect ':'
        return (key, ← value room) :: sofar
      return .object members.reverse

/-! ## Skipped values -/

/-- What may come next while a value is skipped. -/
inductive Expected where
  | value
  /-- The first item of a container, or its end. -/
  | firstItem
  /-- A comma, or the end of a container. -/
  | nextItem
deriving DecidableEq

/-- Skips a value that is no container. -/
def skipScalar (c : Char) : Reader Unit := do
  if c = 'n' then literal "null"
  else if c = 't' then literal "true"
  else if c = 'f' then literal "false"
  else if c = '"' then do
    skipChar
    skipTextRest
  else if c = '-' || c.isDigit then skipNumber
  else fail .malformed

/-- Moves on to the value of an item in a container that ends with `close`: in an object its key
comes first. -/
def skipKey (close : Char) : Reader Unit := do
  if close = '\x7d' then do
    expect '"'
    skipTextRest
    expect ':'

/-- Skips what is left of nested containers, of which `open` holds the closing characters, innermost
first. Nesting has no limit here. -/
def skipFrom : Nat → Expected → List Char → Reader Unit
  | 0, _, _ => fail .truncated
  | fuel + 1, .value, closers => do
    match ← peekToken with
    | '\x7b' => do
      skipChar
      skipFrom fuel .firstItem ('\x7d' :: closers)
    | '[' => do
      skipChar
      skipFrom fuel .firstItem (']' :: closers)
    | c => do
      skipScalar c
      skipFrom fuel .nextItem closers
  | _ + 1, _, [] => return ()
  | fuel + 1, expected, close :: closers => do
    let c ← peekToken
    if c = close then do
      skipChar
      skipFrom fuel .nextItem closers
    else if expected = .firstItem then do
      skipKey close
      skipFrom fuel .value (close :: closers)
    else if c = ',' then do
      skipChar
      skipKey close
      skipFrom fuel .value (close :: closers)
    else fail .malformed

/-- Skips a value of any kind and depth. -/
def skipValue : Reader Unit := do
  skipFrom (2 * (← stepBound)) .value []

/-! ## Typed values -/

/-- The fault of a value of the wrong type whose first character is `c`. A literal, number or text
is read first, and a fault in it counts before. -/
def wrongType {α : Type} (c : Char) : Reader α := do
  if c = 'n' then literal "null"
  else if c = 't' then literal "true"
  else if c = 'f' then literal "false"
  else if c = '"' then do
    skipChar
    let _ ← textRest
  else if c = '-' || c.isDigit then do
    let _ ← number
  else if c = '[' || c = '\x7b' then fail .mistyped
  else fail .malformed
  fail .mistyped

/-- Reads a value that must be a text. -/
def text : Reader String := do
  let c ← peekToken
  if c = '"' then do
    skipChar
    textRest
  else wrongType c

/-- Reads a value that may be null. -/
def nullable {α : Type} (present : Reader α) : Reader (Option α) := do
  if (← peekToken) = 'n' then do
    literal "null"
    return none
  else return some (← present)

/-- Runs a reader inside a container, of which at most `room` may still be opened. -/
def nested {α : Type} (room : Nat) (inside : Nat → Reader α) : Reader α :=
  match room with
  | 0 => fail .malformed
  | room + 1 => inside room

/-- Reads a value that must be an object. -/
def objectOf {σ : Type} (room : Nat) (start : σ) (member : Nat → σ → String → Reader σ) :
    Reader σ := do
  let c ← peekToken
  if c = '\x7b' then nested room fun room => object start (member room) else wrongType c

/-- Reads a value that must be an array. -/
def arrayOf {σ : Type} (room : Nat) (start : σ) (element : Nat → σ → Reader σ) : Reader σ := do
  let c ← peekToken
  if c = '[' then nested room fun room => array start (element room) else wrongType c

/-- Reads a whole document: nothing but blanks may follow. -/
def runDocument {α : Type} (reader : Reader α) (document : String) : Except Fault α := do
  let (result, rest) ← StateT.run reader document.toList
  if rest.all isBlank then return result else throw .malformed

end Reader

end DeadKeys.Json
