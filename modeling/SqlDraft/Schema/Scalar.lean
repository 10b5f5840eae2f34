import SqlDraft.Schema.Checked
import SqlDraft.Schema.WholeNumber

/-!
Scalars that may be given in other forms than their own: texts as octets in UTF-8, truth values
as numbers and words, whole numbers as truth values, fractions without a remainder and octets.
-/
namespace SqlDraft.Schema

def textOfOctets? (bytes : List UInt8) : Option String := String.fromUTF8? ⟨bytes.toArray⟩

def checkText : Value → Checked String
  | .text s => .ok s
  | .octets bytes => match textOfOctets? bytes with
    | some s => .ok s
    | none => .fault .stringEncoding
  | _ => .fault .stringType

/-- Words for a truth value, in any letter case. -/
def flagOfWord? (s : String) : Option Bool :=
  match String.ofList (s.toList.map Char.toLower) with
  | "0" | "off" | "f" | "false" | "n" | "no" => some false
  | "1" | "on" | "t" | "true" | "y" | "yes" => some true
  | _ => none

def flagOfInt? (n : Int) : Option Bool :=
  if n = 0 then some false else if n = 1 then some true else none

def readFlag : Option Bool → Checked Bool
  | some b => .ok b
  | none => .fault .boolReading

/-- Whole doubles of less than 64 bits. -/
def smallInt? (x : Double) : Option Int :=
  x.toInt?.filter fun n => decide (-wordBound < n ∧ n < wordBound)

def flagOfDouble (x : Double) : Checked Bool :=
  match smallInt? x with
  | some n => readFlag (flagOfInt? n)
  | none => .fault .boolType

def checkFlag : Value → Checked Bool
  | .bool b => .ok b
  | .int n =>
    if -wordBound ≤ n ∧ n < wordBound then readFlag (flagOfInt? n) else .fault .boolType
  | .float x => flagOfDouble x
  | .decimal d => flagOfDouble d.toDouble
  | .text s => readFlag (flagOfWord? s)
  | .octets bytes => readFlag ((textOfOctets? bytes).bind flagOfWord?)
  | _ => .fault .boolType

def checkInt : Value → Checked Int
  | .bool b => .ok (if b then 1 else 0)
  | .int n => .ok n
  | .float x =>
    if !x.isFinite then .fault .finiteNumber
    else if !x.isIntegral then .fault .intFromFraction
    else match smallInt? x with
      | some n => .ok n
      | none => .fault .intSize
  | .decimal d =>
    if !d.isFinite then .fault .finiteNumber
    else match d.toInt? with
      | some n => .ok n
      | none => .fault .intFromFraction
  | .octets bytes => match (textOfOctets? bytes).bind WholeNumber.read? with
    | some n => .ok n
    | none => .fault .intReading
  | _ => .fault .intType

/-- What can stand for a list: anything with elements but texts, octets and mappings. -/
def listItems? : Value → Option (List Value)
  | .list items => some items
  | .tuple items => some items
  | .condition c => (Value.condition c).elements?
  | _ => none

end SqlDraft.Schema
