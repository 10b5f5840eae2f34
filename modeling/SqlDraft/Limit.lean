import SqlDraft.Error
import SqlDraft.Text.Blank

/-!
The LIMIT clause of a number, a text that starts with one, or a list of an offset and a number.
What cannot be read counts as zero. A positive offset is written in front of the number, a
positive number alone, and anything else writes no clause.
-/
namespace SqlDraft.Limit

def readText (s : String) : Except NumeralFault Int :=
  match Numeral.leading? Text.isBlank s with
  | none => .ok 0
  | some (negative, digits) =>
    if digits.length > Numeral.digitLimit then .error (.tooLong digits.length)
    else
      let size := Numeral.value digits
      .ok (if negative then -(size : Int) else size)

def read : Value → Except NumeralFault Int
  | .int n => .ok n
  | .float x => .ok x.truncate
  | .text s => readText s
  | _ => .ok 0

def readItem (items : List Value) (n : Nat) : Except NumeralFault Int :=
  match items[n]? with
  | some v => read v
  | none => .ok 0

def clause (offset count : Int) : Except NumeralFault (Option String) :=
  if offset > 0 then do
    let first ← Numeral.write offset
    let second ← Numeral.write count
    return some ("LIMIT " ++ first ++ ", " ++ second ++ "\n")
  else if count > 0 then do
    let number ← Numeral.write count
    return some ("LIMIT " ++ number ++ "\n")
  else return none

def format (v : Value) : Except NumeralFault (Option String) :=
  match v.items? with
  | some items => do
    let offset ← readItem items 0
    let count ← readItem items 1
    clause offset count
  | none => do
    let count ← read v
    clause 0 count

end SqlDraft.Limit
