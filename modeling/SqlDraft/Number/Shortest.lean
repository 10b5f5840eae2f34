import SqlDraft.Number.Double

/-!
The fewest significant digits that read back to a double, the nearest of those to its value,
and their layout: positional for leading exponents from -4 to 15 and with a signed exponent of
at least two digits otherwise. The selection is exact integer arithmetic on the ends of the
interval of numbers that round to the double; the ends belong to it when the mantissa is even.
-/
namespace SqlDraft.Double

/-- Digits without a sign, `digits * 10 ^ power`. -/
structure Figures where
  digits : Nat
  power : Int

/-- The quarter steps below and above `4 * mantissa` that bound the interval. -/
def interval (mantissa : Nat) (exponent : Int) : Nat × Nat :=
  (4 * mantissa - (if mantissa = twoTo 52 ∧ exponent > leastExponent then 1 else 2),
    4 * mantissa + 2)

/-- Common scale of `n * 2 ^ (exponent - 2)` and `d * 10 ^ power`, as two integer factors. -/
def scales (exponent power : Int) : Nat × Nat :=
  (twoTo (exponent - 2).toNat * tenTo (-power).toNat,
    twoTo (2 - exponent).toNat * tenTo power.toNat)

def readsBack (mantissa : Nat) (exponent : Int) (f : Figures) : Bool :=
  let s := scales exponent f.power
  let low := (interval mantissa exponent).1 * s.1
  let high := (interval mantissa exponent).2 * s.1
  let d := f.digits * s.2
  if mantissa % 2 = 0 then decide (low ≤ d ∧ d ≤ high) else decide (low < d ∧ d < high)

/-- The exponent of the leading digit. -/
def leadingExponent (mantissa : Nat) (exponent : Int) : Int :=
  (digitCount (mantissa * tenTo 400 * twoTo exponent.toNat / twoTo (-exponent).toNat) : Int) - 401

/-- The nearer neighbour on the grid of a power of ten that reads back, if any does. -/
def onGrid? (mantissa : Nat) (exponent power : Int) : Option Figures :=
  let s := scales exponent power
  let value := 4 * mantissa * s.1
  let below : Figures := ⟨value / s.2, power⟩
  let above : Figures := ⟨value / s.2 + 1, power⟩
  match readsBack mantissa exponent below, readsBack mantissa exponent above with
  | true, true =>
    let gap := value % s.2
    if 2 * gap < s.2 ∨ (2 * gap = s.2 ∧ below.digits % 2 = 0) then some below else some above
  | true, false => some below
  | false, true => some above
  | false, false => none

def dropZeros : Nat → Figures → Figures
  | 0, f => f
  | fuel + 1, f =>
    if f.digits ≠ 0 ∧ f.digits % 10 = 0 then dropZeros fuel ⟨f.digits / 10, f.power + 1⟩ else f

/-- For a positive mantissa; seventeen digits always suffice. -/
def shortest (mantissa : Nat) (exponent : Int) : Figures :=
  let lead := leadingExponent mantissa exponent
  let found := (List.range 17).findSome? fun (k : Nat) =>
    onGrid? mantissa exponent (lead - k)
  dropZeros 20 (found.getD ⟨mantissa * twoTo exponent.toNat, 0⟩)

def zeros (n : Nat) : List Char := List.replicate n '0'

structure Layout where
  leastPositional : Int
  mostPositional : Int
  mark : Char
  exponentWidth : Nat

def standardLayout : Layout := ⟨-4, 15, 'e', 2⟩

/-- A whole number keeps a fraction of one zero. -/
def positional (digits : List Char) (point : Int) : List Char :=
  if point ≤ 0 then '0' :: '.' :: zeros (-point).toNat ++ digits
  else if point ≥ digits.length then
    digits ++ zeros (point - digits.length).toNat ++ ['.', '0']
  else digits.take point.toNat ++ '.' :: digits.drop point.toNat

def scientific (l : Layout) (digits : List Char) (lead : Int) : List Char :=
  let fraction := match digits.drop 1 with
    | [] => []
    | rest => '.' :: rest
  let size := Nat.toDigits 10 lead.natAbs
  digits.take 1 ++ fraction ++ l.mark :: (if lead < 0 then '-' else '+') ::
    zeros (l.exponentWidth - size.length) ++ size

def layout (l : Layout) (f : Figures) : List Char :=
  let digits := Nat.toDigits 10 f.digits
  let lead := f.power + digits.length - 1
  if l.leastPositional ≤ lead ∧ lead ≤ l.mostPositional then positional digits (lead + 1)
  else scientific l digits lead

def render : Double → String
  | nan => "nan"
  | infinite negative => if negative then "-inf" else "inf"
  | finite negative mantissa exponent =>
    let text := if mantissa = 0 then "0.0"
      else String.ofList (layout standardLayout (shortest mantissa exponent))
    if negative then "-" ++ text else text

end SqlDraft.Double
