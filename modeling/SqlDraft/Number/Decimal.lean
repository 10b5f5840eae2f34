import SqlDraft.Number.Shortest
import SqlDraft.Text.Blank
import SqlDraft.Text.Digit

/-!
Decimal numbers that keep the digits they were written with: `coefficient * 10 ^ exponent`.
The written form is positional while the exponent is not positive and the leading digit stands
at most six places behind the point; otherwise it has a power of ten behind one leading digit.
-/
namespace SqlDraft

inductive Decimal where
  | finite (negative : Bool) (coefficient : Nat) (exponent : Int)
  | infinite (negative : Bool)
  | nan (negative signaling : Bool) (payload : Nat)
deriving DecidableEq, Inhabited

namespace Decimal

def withSign (negative : Bool) (text : List Char) : String :=
  String.ofList (if negative then '-' :: text else text)

/-- The digits with a point behind the first `point` of them. -/
def pointed (digits : List Char) (point : Int) : List Char :=
  if point ≤ 0 then '0' :: '.' :: Double.zeros (-point).toNat ++ digits
  else if point ≥ digits.length then digits ++ Double.zeros (point - digits.length).toNat
  else digits.take point.toNat ++ '.' :: digits.drop point.toNat

/-- A signed power of ten, left out when it is zero. -/
def powerSuffix (power : Int) : List Char :=
  if power = 0 then []
  else 'E' :: (if power < 0 then '-' else '+') :: Nat.toDigits 10 power.natAbs

def render : Decimal → String
  | infinite negative => withSign negative "Infinity".toList
  | nan negative signaling payload =>
    withSign negative ((if signaling then "sNaN" else "NaN").toList ++
      (if payload = 0 then [] else Nat.toDigits 10 payload))
  | finite negative coefficient exponent =>
    let digits := Nat.toDigits 10 coefficient
    let left := exponent + digits.length
    let point : Int := if exponent ≤ 0 ∧ left > -6 then left else 1
    withSign negative (pointed digits point ++ powerSuffix (left - point))

def isZero : Decimal → Bool
  | finite _ coefficient _ => coefficient = 0
  | _ => false

/-- The integer it is equal to. More places behind the point than digits leave none. -/
def toInt? : Decimal → Option Int
  | finite negative coefficient exponent =>
    let places := (-exponent).toNat
    if coefficient = 0 then some 0
    else if places ≥ digitCount coefficient then none
    else if coefficient % tenTo places = 0 then
      let size : Nat := coefficient / tenTo places * tenTo exponent.toNat
      some (if negative then -(size : Int) else size)
    else none
  | _ => none

/-- The one form of equal numbers: no zeros behind the coefficient, and a single zero. -/
def normal (negative : Bool) (coefficient : Nat) (exponent : Int) : Decimal :=
  if coefficient = 0 then finite false 0 0
  else
    let f := Double.dropZeros (digitCount coefficient) ⟨coefficient, exponent⟩
    finite negative f.digits f.power

/-- The number in normal form; nothing is equal to what is not a number. -/
def number? : Decimal → Option Decimal
  | finite negative coefficient exponent => some (normal negative coefficient exponent)
  | infinite negative => some (infinite negative)
  | nan .. => none

def ofInt (n : Int) : Decimal := finite (decide (n < 0)) n.natAbs 0

/-- Exact, since half of one is five tenths. -/
def ofDouble : Double → Decimal
  | .nan => nan false false 0
  | .infinite negative => infinite negative
  | .finite negative mantissa exponent =>
    finite negative (mantissa * twoTo exponent.toNat * Nat.pow 5 (-exponent).toNat)
      (min exponent 0)

/-- The nearest double. -/
def toDouble : Decimal → Double
  | finite negative coefficient exponent => .ofDecimal negative coefficient exponent
  | infinite negative => .infinite negative
  | nan .. => .nan

def isFinite : Decimal → Bool
  | finite .. => true
  | _ => false

/-- Digits in front of the first other character, and the rest. -/
def digitRun (cs : List Char) : List Char × List Char :=
  (cs.takeWhile Char.isDigit, cs.dropWhile Char.isDigit)

def digitsValue (cs : List Char) : Nat :=
  cs.foldl (fun n c => 10 * n + (c.toNat - '0'.toNat)) 0

def readPower? : List Char → Option Int
  | [] => some 0
  | c :: rest =>
    if c.toLower ≠ 'e' then none
    else
      let (negative, body) := match rest with
        | '-' :: r => (true, r)
        | '+' :: r => (false, r)
        | r => (false, r)
      let (digits, tail) := digitRun body
      if digits = [] ∨ tail ≠ [] then none
      else some (if negative then -(digitsValue digits : Int) else digitsValue digits)

def readFinite? (negative : Bool) (cs : List Char) : Option Decimal :=
  let (whole, rest) := digitRun cs
  let (fraction, tail) := match rest with
    | '.' :: r => digitRun r
    | r => ([], r)
  if whole = [] ∧ fraction = [] then none
  else (readPower? tail).map fun power =>
    finite negative (digitsValue (whole ++ fraction)) (power - fraction.length)

def readSpecial? (negative : Bool) (cs : List Char) : Option Decimal :=
  let (name, payload) := (cs.takeWhile fun c => !c.isDigit, cs.dropWhile fun c => !c.isDigit)
  if payload.any fun c => !c.isDigit then none
  else match String.ofList (name.map Char.toLower) with
    | "inf" | "infinity" => if payload = [] then some (infinite negative) else none
    | "nan" => some (nan negative false (digitsValue payload))
    | "snan" => some (nan negative true (digitsValue payload))
    | _ => none

/-- The ASCII digit of the same value for a digit of another script. -/
def plainDigit (c : Char) : Char := ((Text.decimalValue? c).map Nat.digitChar).getD c

/-- Digits with an optional sign, point and power of ten, or the name of a special value. Blanks
around it and low lines anywhere do not count. -/
def read? (s : String) : Option Decimal :=
  let plain := ((Text.trim Text.isBlank s.toList).filter (· ≠ '_')).map plainDigit
  let (negative, body) := match plain with
    | '-' :: r => (true, r)
    | '+' :: r => (false, r)
    | r => (false, r)
  (readFinite? negative body).orElse fun _ => readSpecial? negative body

end Decimal

end SqlDraft
