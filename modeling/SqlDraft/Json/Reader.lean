import SqlDraft.Json.Fault
import SqlDraft.OrderedMap
import SqlDraft.Text.Encoding
import SqlDraft.Value

/-!
JSON texts read as values. Integers are exact, other numbers doubles, and `NaN`, `Infinity` and
`-Infinity` are numbers too. An object keeps the first place and the last value of a name. A reader
of texts consumes a character with each unit of fuel. The readers of values, items and members call
one another, and two calls may share a character: a bracket and the first item behind it. So they
are given two units for each character of the text and two more.
-/
namespace SqlDraft.Json

open Text

structure Cursor where
  rest : List Char
  offset : Nat

def Cursor.drop (c : Cursor) (n : Nat) : Cursor := ⟨c.rest.drop n, c.offset + n⟩

def isBlank (c : Char) : Bool := c = ' ' || c = '\t' || c = '\n' || c = '\r'

def Cursor.skipBlanks (c : Cursor) : Cursor := c.drop (c.rest.takeWhile isBlank).length

def fail {α : Type} (p : Problem) (offset : Nat) : Except Stop α := .error (.problem p offset)

def hexValue? (c : Char) : Option Nat :=
  if c.isDigit then some (c.toNat - '0'.toNat)
  else if 'a' ≤ c ∧ c ≤ 'f' then some (c.toNat - 'a'.toNat + 10)
  else if 'A' ≤ c ∧ c ≤ 'F' then some (c.toNat - 'A'.toNat + 10)
  else none

def hexQuad? (cs : List Char) : Option Nat :=
  (cs.take 4).foldl (fun n c => match n, hexValue? c with
    | some n, some d => some (16 * n + d)
    | _, _ => none) (some 0)

def simpleEscape? : Char → Option Char
  | '"' => some '"'
  | '\\' => some '\\'
  | '/' => some '/'
  | 'b' => some '\x08'
  | 'f' => some '\x0c'
  | 'n' => some '\n'
  | 'r' => some '\r'
  | 't' => some '\t'
  | _ => none

/-- The four digits behind `\u`, which something has to follow. -/
def unicodeUnit (c : Cursor) : Except Stop Nat :=
  if c.rest.length ≤ 4 then fail .invalidUnicodeEscape (c.offset - 1)
  else match hexQuad? c.rest with
    | some n => .ok n
    | none => fail .invalidUnicodeEscape (c.offset - 1)

/-- From behind `\u`: one unit, or two that pair up. -/
def unicodeEscape (c : Cursor) : Except Stop (Char × Cursor) := do
  let high ← unicodeUnit c
  let after := c.drop 4
  let pair := isHighSurrogate high && after.rest.take 2 = ['\\', 'u'] && after.rest.length > 6
  if pair then
    let low ← unicodeUnit (after.drop 2)
    if isLowSurrogate low then
      return (Char.ofNat (joinSurrogates high low), after.drop 6)
    else return (charOfUnit high, after)
  else return (charOfUnit high, after)

/-- From behind the opening quote, which stands at `start`. -/
def readText (start : Nat) : Nat → Cursor → Except Stop (List Char × Cursor)
  | 0, _ => fail .unterminatedText start
  | fuel + 1, c =>
    match c.rest with
    | [] => fail .unterminatedText start
    | '"' :: _ => .ok ([], c.drop 1)
    | ['\\'] => fail .unterminatedText start
    | '\\' :: 'u' :: _ => do
      let (char, next) ← unicodeEscape (c.drop 2)
      let (chars, last) ← readText start fuel next
      return (char :: chars, last)
    | '\\' :: e :: _ =>
      match simpleEscape? e with
      | none => fail .invalidEscape c.offset
      | some char => do
        let (chars, last) ← readText start fuel (c.drop 2)
        return (char :: chars, last)
    | char :: _ =>
      if char.toNat < 32 then fail .controlCharacter c.offset
      else do
        let (chars, last) ← readText start fuel (c.drop 1)
        return (char :: chars, last)

def digitRun (cs : List Char) : List Char := cs.takeWhile Char.isDigit

def digitsValue (cs : List Char) : Nat :=
  cs.foldl (fun n c => 10 * n + (c.toNat - '0'.toNat)) 0

/-- The digits of the whole part: a zero alone or a run that starts with another digit. -/
def wholePart (cs : List Char) : List Char :=
  match cs with
  | '0' :: _ => ['0']
  | _ => digitRun cs

def fractionPart : List Char → List Char
  | '.' :: rest => digitRun rest
  | _ => []

/-- The sign and digits of a power of ten, and how many characters they take. -/
def powerPart : List Char → Option (Bool × List Char × Nat)
  | e :: rest =>
    if e = 'e' ∨ e = 'E' then
      let (negative, body, width) := match rest with
        | '-' :: r => (true, r, 2)
        | '+' :: r => (false, r, 2)
        | r => (false, r, 1)
      match digitRun body with
      | [] => none
      | digits => some (negative, digits, width + digits.length)
    else none
  | [] => none

def readNumber (c : Cursor) : Except Stop (Value × Cursor) :=
  let negative := c.rest.head? = some '-'
  let start := if negative then c.drop 1 else c
  match wholePart start.rest with
  | [] => fail .valueExpected c.offset
  | whole =>
    let afterWhole := start.drop whole.length
    let fraction := fractionPart afterWhole.rest
    let afterFraction :=
      if fraction = [] then afterWhole else afterWhole.drop (fraction.length + 1)
    let power := powerPart afterFraction.rest
    if fraction = [] ∧ power.isNone then
      if whole.length > Numeral.digitLimit then .error (.numeral (.tooLong whole.length))
      else
        let size := digitsValue whole
        .ok (.int (if negative then -(size : Int) else size), afterWhole)
    else
      let (exponent, width) : Int × Nat := match power with
        | some (true, digits, width) => (-(digitsValue digits : Int), width)
        | some (false, digits, width) => (digitsValue digits, width)
        | none => (0, 0)
      let x := Double.ofDecimal negative (digitsValue (whole ++ fraction))
        (exponent - fraction.length)
      .ok (.float x, afterFraction.drop width)

def literals : List (List Char × Value) :=
  [("null".toList, .null), ("true".toList, .bool true), ("false".toList, .bool false),
    ("NaN".toList, .float .nan), ("Infinity".toList, .float (.infinite false)),
    ("-Infinity".toList, .float (.infinite true))]

def readScalar (c : Cursor) : Except Stop (Value × Cursor) :=
  match literals.find? fun l => l.1.isPrefixOf c.rest with
  | some l => .ok (l.2, c.drop l.1.length)
  | none => readNumber c

mutual

def readValue : Nat → Cursor → Except Stop (Value × Cursor)
  | 0, c => fail .valueExpected c.offset
  | fuel + 1, c =>
    match c.rest with
    | '"' :: _ => do
      let (chars, next) ← readText c.offset (c.rest.length + 1) (c.drop 1)
      return (.text (String.ofList chars), next)
    | '[' :: _ =>
      let inner := (c.drop 1).skipBlanks
      match inner.rest with
      | ']' :: _ => .ok (.list [], inner.drop 1)
      | _ => do
        let (items, next) ← readItems fuel inner
        return (.list items, next)
    | '{' :: _ =>
      let inner := (c.drop 1).skipBlanks
      match inner.rest with
      | '}' :: _ => .ok (.dict [], inner.drop 1)
      | _ => do
        let (members, next) ← readMembers fuel ∅ inner
        return (.dict (members.entries.map fun m => (.text m.1, m.2)), next)
    | _ => readScalar c

/-- The items from the first one on, through the closing bracket. -/
def readItems : Nat → Cursor → Except Stop (List Value × Cursor)
  | 0, c => fail .valueExpected c.offset
  | fuel + 1, c => do
    let (item, next) ← readValue fuel c
    let after := next.skipBlanks
    match after.rest with
    | ']' :: _ => return ([item], after.drop 1)
    | ',' :: _ =>
      let (items, last) ← readItems fuel (after.drop 1).skipBlanks
      return (item :: items, last)
    | _ => fail .commaExpected after.offset

/-- The members from the next one on, through the closing brace. -/
def readMembers :
    Nat → OrderedMap String Value → Cursor → Except Stop (OrderedMap String Value × Cursor)
  | 0, _, c => fail .nameExpected c.offset
  | fuel + 1, members, c => do
    match c.rest with
    | '"' :: _ =>
      let (name, next) ← readText c.offset (c.rest.length + 1) (c.drop 1)
      let colon := next.skipBlanks
      match colon.rest with
      | ':' :: _ =>
        let (value, next) ← readValue fuel (colon.drop 1).skipBlanks
        let members := members.insert (String.ofList name) value
        let after := next.skipBlanks
        match after.rest with
        | '}' :: _ => return (members, after.drop 1)
        | ',' :: _ => readMembers fuel members (after.drop 1).skipBlanks
        | _ => fail .commaExpected after.offset
      | _ => fail .colonExpected colon.offset
    | _ => fail .nameExpected c.offset

end

/-- One value with nothing but blanks around it. -/
def readAll (text : List Char) : Except Stop Value := do
  let (value, next) ← readValue (2 * text.length + 2) (Cursor.skipBlanks ⟨text, 0⟩)
  let last := next.skipBlanks
  if last.rest = [] then return value else fail .extraData last.offset

inductive ReadError where
  | malformed (fault : Fault)
  | numeral (fault : NumeralFault)
  | undecodable (fault : EncodingFault)

def readChars (text : List Char) : Except ReadError Value :=
  match readAll text with
  | .ok value => .ok value
  | .error (.problem p offset) => .error (.malformed (Fault.locate text p offset))
  | .error (.numeral fault) => .error (.numeral fault)

/-- A text must not start with a byte order mark. -/
def read (text : String) : Except ReadError Value :=
  match text.toList with
  | '\uFEFF' :: _ => .error (.malformed (Fault.locate text.toList .byteOrderMark 0))
  | chars => readChars chars

def readOctets (bytes : List UInt8) : Except ReadError Value :=
  match decode bytes with
  | .ok chars => readChars chars
  | .error fault => .error (.undecodable fault)

end SqlDraft.Json
