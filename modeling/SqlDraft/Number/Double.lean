/-!
Double precision numbers as exact binary fractions. A finite one is `mantissa * 2 ^ exponent`
with a sign; `ofRatio` rounds a positive fraction to the nearest such number, a tie to the even
mantissa, and `ofDecimal` does so for decimal digits with a power of ten.
-/
namespace SqlDraft

inductive Double where
  | nan
  | infinite (negative : Bool)
  | finite (negative : Bool) (mantissa : Nat) (exponent : Int)
deriving DecidableEq, Inhabited

def twoTo (n : Nat) : Nat := Nat.pow 2 n

def tenTo (n : Nat) : Nat := Nat.pow 10 n

/-- The number of decimal digits, one for zero. -/
def digitCount (n : Nat) : Nat := (Nat.toDigits 10 n).length

namespace Double

def leastExponent : Int := -1074

def greatestExponent : Int := 971

def zero (negative : Bool) : Double := finite negative 0 leastExponent

/-- The fraction `num / den` over `2 ^ exponent`. -/
def overPower (num den : Nat) (exponent : Int) : Nat × Nat :=
  (num * twoTo (-exponent).toNat, den * twoTo exponent.toNat)

/-- The integer nearest to `num / den`, a half going to the even one. -/
def nearest (num den : Nat) : Nat :=
  let q := num / den
  let r := num % den
  if 2 * r < den ∨ (2 * r = den ∧ q % 2 = 0) then q else q + 1

def ofRatio (negative : Bool) (num den : Nat) : Double :=
  if num = 0 then zero negative
  else
    let guess : Int := (num.log2 : Int) - den.log2 - 52
    let leading := overPower num den guess
    let exact := if leading.1 / leading.2 < twoTo 52 then guess - 1 else guess
    let exponent := max leastExponent exact
    let scaled := overPower num den exponent
    let mantissa := nearest scaled.1 scaled.2
    let rounded := if mantissa = twoTo 53 then (twoTo 52, exponent + 1) else (mantissa, exponent)
    if rounded.2 > greatestExponent then infinite negative
    else finite negative rounded.1 rounded.2

/-- Far outside the range of doubles the power of ten is not computed. -/
def ofDecimal (negative : Bool) (digits : Nat) (power : Int) : Double :=
  if digits = 0 then zero negative
  else
    let magnitude := power + digitCount digits
    if magnitude > 400 then infinite negative
    else if magnitude < -400 then zero negative
    else ofRatio negative (digits * tenTo power.toNat) (tenTo (-power).toNat)

def isFinite : Double → Bool
  | finite .. => true
  | _ => false

def isIntegral : Double → Bool
  | finite _ mantissa exponent => mantissa % twoTo (-exponent).toNat = 0
  | _ => false

def isZero : Double → Bool
  | finite _ mantissa _ => mantissa = 0
  | _ => false

/-- Rounded toward zero; zero when there is no such integer. -/
def truncate : Double → Int
  | finite negative mantissa exponent =>
    let size : Nat := mantissa * twoTo exponent.toNat / twoTo (-exponent).toNat
    if negative then -(size : Int) else size
  | _ => 0

def toInt? (x : Double) : Option Int := if x.isIntegral then some x.truncate else none

end Double

end SqlDraft
