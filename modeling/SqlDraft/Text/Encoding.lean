import SqlDraft.Text.Quoted

/-!
Octets read as text in UTF-8, UTF-16 or UTF-32. The encoding is taken from a byte order mark
or, failing that, from where the zeros stand among the first octets, as suits a text that
starts with two ASCII characters. A code unit of an unpaired surrogate reads as the replacement
character; octets that encode nothing are a fault with its place and reason.
-/
namespace SqlDraft.Text

inductive Encoding where
  | utf8
  | utf16 (bigEndian : Bool)
  | utf32 (bigEndian : Bool)
deriving DecidableEq

inductive EncodingReason where
  | invalidStart
  | invalidContinuation
  | unexpectedEnd
  | truncated
  | outOfRange
deriving DecidableEq

/-- The octets from `start` on that could not be read; `first` is the first of them. -/
structure EncodingFault where
  encoding : Encoding
  reason : EncodingReason
  start : Nat
  length : Nat
  first : UInt8

namespace Encoding

def name : Encoding → String
  | utf8 => "utf-8"
  | utf16 bigEndian => if bigEndian then "utf-16-be" else "utf-16-le"
  | utf32 bigEndian => if bigEndian then "utf-32-be" else "utf-32-le"

/-- The encoding and the octets behind the byte order mark. -/
def detect (bytes : List UInt8) : Encoding × List UInt8 :=
  match bytes with
  | 0x00 :: 0x00 :: 0xFE :: 0xFF :: _ => (utf32 true, bytes.drop 4)
  | 0xFF :: 0xFE :: 0x00 :: 0x00 :: _ => (utf32 false, bytes.drop 4)
  | 0xFE :: 0xFF :: _ => (utf16 true, bytes.drop 2)
  | 0xFF :: 0xFE :: _ => (utf16 false, bytes.drop 2)
  | 0xEF :: 0xBB :: 0xBF :: _ => (utf8, bytes.drop 3)
  | a :: b :: c :: d :: _ =>
    if a = 0 then (if b = 0 then utf32 true else utf16 true, bytes)
    else if b = 0 then (if c = 0 ∧ d = 0 then utf32 false else utf16 false, bytes)
    else (utf8, bytes)
  | [a, b] => (if a = 0 then utf16 true else if b = 0 then utf16 false else utf8, bytes)
  | _ => (utf8, bytes)

end Encoding

namespace EncodingReason

def message : EncodingReason → String
  | invalidStart => "invalid start byte"
  | invalidContinuation => "invalid continuation byte"
  | unexpectedEnd => "unexpected end of data"
  | truncated => "truncated data"
  | outOfRange => "code point not in range(0x110000)"

end EncodingReason

def EncodingFault.message (f : EncodingFault) : String :=
  let what := if f.length = 1 then
      "byte 0x" ++ String.ofList (hexDigits 2 f.first.toNat) ++ " in position " ++ toString f.start
    else "bytes in position " ++ toString f.start ++ "-" ++ toString (f.start + f.length - 1)
  "'" ++ f.encoding.name ++ "' codec can't decode " ++ what ++ ": " ++ f.reason.message

def isContinuation (b : UInt8) : Bool := 0x80 ≤ b && b ≤ 0xBF

/-- How many octets a sequence with this first octet has; none starts with any other. -/
def sequenceLength? (first : UInt8) : Option Nat :=
  if first < 0x80 then some 1
  else if first < 0xC2 then none
  else if first < 0xE0 then some 2
  else if first < 0xF0 then some 3
  else if first < 0xF5 then some 4
  else none

/-- Second octets that would make an overlong sequence or a code point beyond the last. -/
def excludedSecond (first second : UInt8) : Bool :=
  (first = 0xE0 && second < 0xA0) || (first = 0xF0 && second < 0x90) ||
    (first = 0xF4 && second ≥ 0x90)

def sequenceValue : List UInt8 → Nat
  | [a] => a.toNat
  | [a, b] => (a.toNat - 0xC0) * 64 + (b.toNat - 0x80)
  | [a, b, c] => ((a.toNat - 0xE0) * 64 + (b.toNat - 0x80)) * 64 + (c.toNat - 0x80)
  | [a, b, c, d] =>
    (((a.toNat - 0xF0) * 64 + (b.toNat - 0x80)) * 64 + (c.toNat - 0x80)) * 64 + (d.toNat - 0x80)
  | _ => 0

def isSurrogate (n : Nat) : Bool := 0xD800 ≤ n && n < 0xE000

def isHighSurrogate (n : Nat) : Bool := 0xD800 ≤ n && n < 0xDC00

def isLowSurrogate (n : Nat) : Bool := 0xDC00 ≤ n && n < 0xE000

def joinSurrogates (high low : Nat) : Nat := 0x10000 + (high - 0xD800) * 1024 + (low - 0xDC00)

def charOfUnit (n : Nat) : Char := if isSurrogate n then '\uFFFD' else Char.ofNat n

/-- The octets of the first sequence that belong together, and whether they are all it needs.
Of a surrogate the sequence must be complete. -/
def leadingSequence (needed : Nat) (bytes : List UInt8) : List UInt8 × Option EncodingReason :=
  match bytes with
  | [] => ([], some .unexpectedEnd)
  | first :: rest =>
    let more := (rest.take (needed - 1)).takeWhile isContinuation
    let second := rest.headD 0
    let surrogate := first = 0xED && 0xA0 ≤ second
    if needed > 1 && !rest.isEmpty &&
        (excludedSecond first second || (surrogate && more.length < 2)) then
      ([first], some .invalidContinuation)
    else if more.length + 1 = needed then (first :: more, none)
    else if more.length = rest.length then (first :: more, some .unexpectedEnd)
    else (first :: more, some .invalidContinuation)

def decodeUtf8 : Nat → Nat → List UInt8 → Except EncodingFault (List Char)
  | 0, _, _ => .ok []
  | _, _, [] => .ok []
  | fuel + 1, offset, first :: rest =>
    match sequenceLength? first with
    | none => .error ⟨.utf8, .invalidStart, offset, 1, first⟩
    | some needed =>
      let (taken, fault) := leadingSequence needed (first :: rest)
      match fault with
      | some reason => .error ⟨.utf8, reason, offset, taken.length, first⟩
      | none => do
        let others ← decodeUtf8 fuel (offset + needed) (rest.drop (needed - 1))
        return charOfUnit (sequenceValue taken) :: others

def pairValue (bigEndian : Bool) (a b : UInt8) : Nat :=
  if bigEndian then a.toNat * 256 + b.toNat else b.toNat * 256 + a.toNat

def decodeUtf16 (bigEndian : Bool) : Nat → List UInt8 → Except EncodingFault (List Nat)
  | _, [] => .ok []
  | offset, [a] => .error ⟨.utf16 bigEndian, .truncated, offset, 1, a⟩
  | offset, a :: b :: rest => do
    let others ← decodeUtf16 bigEndian (offset + 2) rest
    return pairValue bigEndian a b :: others

def joinUnits : List Nat → List Char
  | high :: low :: rest =>
    if isHighSurrogate high && isLowSurrogate low then
      Char.ofNat (joinSurrogates high low) :: joinUnits rest
    else charOfUnit high :: joinUnits (low :: rest)
  | [n] => [charOfUnit n]
  | [] => []
termination_by units => units.length

def quadValue (bigEndian : Bool) (a b c d : UInt8) : Nat :=
  if bigEndian then pairValue true a b * 65536 + pairValue true c d
  else pairValue false c d * 65536 + pairValue false a b

def decodeUtf32 (bigEndian : Bool) : Nat → List UInt8 → Except EncodingFault (List Char)
  | _, [] => .ok []
  | offset, a :: b :: c :: d :: rest =>
    let n := quadValue bigEndian a b c d
    if n ≥ 0x110000 then .error ⟨.utf32 bigEndian, .outOfRange, offset, 4, a⟩
    else do
      let others ← decodeUtf32 bigEndian (offset + 4) rest
      return charOfUnit n :: others
  | offset, a :: rest => .error ⟨.utf32 bigEndian, .truncated, offset, rest.length + 1, a⟩

/-- Places count from the first octet, those of UTF-8 from behind the byte order mark. -/
def decode (bytes : List UInt8) : Except EncodingFault (List Char) :=
  let (encoding, body) := Encoding.detect bytes
  let offset := bytes.length - body.length
  match encoding with
  | .utf8 => decodeUtf8 body.length 0 body
  | .utf16 bigEndian => (decodeUtf16 bigEndian offset body).map joinUnits
  | .utf32 bigEndian => decodeUtf32 bigEndian offset body

end SqlDraft.Text
