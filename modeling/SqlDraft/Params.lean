import SqlDraft.Error

/-!
Parameter values for placeholders, in numbered slots and under names. A sequence fills the slots
from zero on; a mapping writes to a slot under a whole number or a text of digits and to a name
under any other key. Later values replace earlier ones, and what was written before a key that
cannot be read or written stays.
-/
namespace SqlDraft

structure Params where
  slots : OrderedMap Int Value
  names : OrderedMap String Value

/-- Where a key of a mapping writes to. -/
inductive Address where
  | slot (n : Int)
  | name (s : String)
deriving DecidableEq

namespace Address

def ofText (s : String) : Except NumeralFault Address :=
  if s ≠ "" ∧ s.toList.all Text.isDigit then
    (Numeral.readDigits s).map fun n => slot n
  else .ok (name s)

def ofKey : Value → Except NumeralFault Address
  | .int n => .ok (slot n)
  | .text s => ofText s
  | v => v.write.map name

end Address

namespace Params

def empty : Params := ⟨∅, ∅⟩

instance : Inhabited Params := ⟨empty⟩

def write (p : Params) (a : Address) (v : Value) : Params :=
  match a with
  | .slot n => { p with slots := p.slots.insert n v }
  | .name s => { p with names := p.names.insert s v }

def get? (p : Params) : Address → Option Value
  | .slot n => p.slots.get? n
  | .name s => p.names.get? s

def mergeSequence (p : Params) : Nat → List Value → Params
  | _, [] => p
  | n, v :: rest => mergeSequence (p.write (.slot n) v) (n + 1) rest

def mergeMapping (p : Params) : List (Value × Value) → Params × Option Error
  | [] => (p, none)
  | (k, v) :: rest =>
    match Address.ofKey k with
    | .ok a => mergeMapping (p.write a v) rest
    | .error fault => (p, some (.numeral fault))

def merge (p : Params) (v : Value) : Params × Option Error :=
  match v with
  | .dict entries => mergeMapping p entries
  | v => match v.elements? with
    | some items => (mergeSequence p 0 items, none)
    | none => (p, some (.notIterable v))

end Params

mutual

/-- The first list, mapping or signaling decimal inside, which no key may contain. -/
def Value.unhashable? : Value → Option Value
  | .decimal (.nan negative true payload) => some (.decimal (.nan negative true payload))
  | .list items => some (.list items)
  | .dict entries => some (.dict entries)
  | .tuple items => Value.unhashableIn? items
  | .condition c => Condition.unhashable? c
  | _ => none
termination_by structural v => v

def Value.unhashableIn? : List Value → Option Value
  | [] => none
  | v :: rest => (Value.unhashable? v).orElse fun _ => Value.unhashableIn? rest
termination_by structural vs => vs

def Condition.unhashable? : Condition → Option Value
  | .leaf column operator none =>
    (Value.unhashable? column).orElse fun _ => Value.unhashable? operator
  | .leaf column operator (some value) =>
    (Value.unhashable? column).orElse fun _ =>
      (Value.unhashable? operator).orElse fun _ => Value.unhashable? value
  | .group _ children => some (.list (children.map .condition))
  | .raw _ => none
termination_by structural c => c

end

/-- The number that a key is equal to, in one form for all kinds of numbers. -/
def Value.number? : Value → Option Decimal
  | .bool b => some (.normal false (if b then 1 else 0) 0)
  | .int n => (Decimal.ofInt n).number?
  | .float x => (Decimal.ofDouble x).number?
  | .decimal d => d.number?
  | _ => none

namespace Params

/-- The slot whose number a key is equal to. -/
def slotOf? (p : Params) (key : Value) : Option Int :=
  key.number?.bind fun d => p.slots.keys.find? fun n => (Decimal.ofInt n).number? = some d

def findSlot (p : Params) (key : Value) : Except Error (Option Value) :=
  match key.unhashable? with
  | some v => .error (.unhashable v)
  | none => .ok ((p.slotOf? key).bind p.slots.get?)

def findName (p : Params) (key : Value) : Except Error (Option Value) :=
  match key.unhashable? with
  | some v => .error (.unhashable v)
  | none => match key with
    | .text s => .ok (p.names.get? s)
    | _ => .ok none

def required (key : Value) : Except Error (Option Value) → Except Error Value
  | .ok (some v) => .ok v
  | .ok none => .error (.unknownKey key)
  | .error e => .error e

end Params

end SqlDraft
