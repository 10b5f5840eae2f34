import SqlDraft.Number.Double
import SqlDraft.Text.Digit

/-!
Integers read from text and written as text. Decimal digits of every script count in reading, and
a numeral has at most 4300 of them, leading zeros included. A sign does not count.
-/
namespace SqlDraft

inductive NumeralFault where
  | tooLong (digits : Nat)
  | notDecimal (text : String)
  | unwritable
deriving DecidableEq

namespace Numeral

open Text

def digitLimit : Nat := 4300

def isWritable (n : Int) : Bool := decide (digitCount n.natAbs ≤ digitLimit)

theorem isWritable_digit {n : Int} (h : n.natAbs < 10) : isWritable n = true := by
  have hcount : digitCount n.natAbs = 1 := congrArg List.length (Nat.toDigits_of_lt_base h)
  rw [isWritable, hcount]
  rfl

def write (n : Int) : Except NumeralFault String :=
  if isWritable n then .ok (toString n) else .error .unwritable

def value (cs : List Char) : Nat :=
  cs.foldl (fun n c => 10 * n + (decimalValue? c).getD 0) 0

/-- Of a text made of digits only. -/
def readDigits (s : String) : Except NumeralFault Nat :=
  let run := s.toList.takeWhile isDecimal
  if run.length > digitLimit then .error (.tooLong run.length)
  else if run.length < s.length then .error (.notDecimal s)
  else .ok (value run)

/-- The sign and the digits that a text starts with, behind white space. -/
def leading? (blank : Char → Bool) (s : String) : Option (Bool × List Char) :=
  let (negative, body) := match s.toList.dropWhile blank with
    | '-' :: r => (true, r)
    | '+' :: r => (false, r)
    | r => (false, r)
  match body.takeWhile isDecimal with
  | [] => none
  | digits => some (negative, digits)

end Numeral

end SqlDraft
