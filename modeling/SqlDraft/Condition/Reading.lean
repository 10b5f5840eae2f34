import SqlDraft.Notice
import SqlDraft.Error

/-!
Conditions in plain form. A text is SQL to be taken as it stands, a list or tuple of three is a
comparison, and a mapping from AND or OR in any letter case to a list is a combination. Reading
gives the condition and, in order, the items at any depth that are none of these: they are left
out, and a strict reader refuses the first of them.
-/
namespace SqlDraft

namespace Condition

def combinator? : Value → Option Combinator
  | .text s => Combinator.ofKeyword? (Text.upper s)
  | _ => none

mutual

def read : Value → Option Condition × List Value
  | .condition c => (some c, [])
  | .text s => (some (.raw s), [])
  | .list [column, operator, value] => (some (.leaf column operator (some value)), [])
  | .tuple [column, operator, value] => (some (.leaf column operator (some value)), [])
  | .dict [(key, .list children)] =>
    match combinator? key with
    | some combinator =>
      let inner := readAll children
      (some (.group combinator inner.1), inner.2)
    | none => (none, [.dict [(key, .list children)]])
  | .dict [(key, .tuple children)] =>
    match combinator? key with
    | some combinator =>
      let inner := readAll children
      (some (.group combinator inner.1), inner.2)
    | none => (none, [.dict [(key, .tuple children)]])
  | v => (none, [v])
termination_by structural v => v

def readAll : List Value → List Condition × List Value
  | [] => ([], [])
  | v :: rest =>
    let first := read v
    let others := readAll rest
    (first.1.toList ++ others.1, first.2 ++ others.2)
termination_by structural vs => vs

end

theorem readAll_append (l m : List Value) :
    readAll (l ++ m) = ((readAll l).1 ++ (readAll m).1, (readAll l).2 ++ (readAll m).2) := by
  induction l with
  | nil => rfl
  | cons v rest ih => simp only [List.cons_append, readAll, ih, List.append_assoc]

/-- One condition alone is a list of its own, unless it is a condition already. -/
def listed? : Value → Option (List Value)
  | .text s => some [.text s]
  | .dict entries => some [.dict entries]
  | v => v.elements?

/-- What is to be said of the items that were left out. -/
def accept (strict : Bool) (skipped : List Value) : List Notice × Option Error :=
  match strict, skipped with
  | true, item :: _ => ([], some (Error.unrecognisedCondition item).raised)
  | _, items => (items.map .skipped, none)

end Condition

structure ConditionList where
  conditions : List Condition
  notices : List Notice
  error : Option Error

namespace ConditionList

def ofItems (strict : Bool) (items : List Value) : ConditionList :=
  let (conditions, skipped) := Condition.readAll items
  let (notices, error) := Condition.accept strict skipped
  ⟨conditions, notices, error⟩

/-- The items of the value one by one. -/
def ofElements (strict : Bool) (v : Value) : ConditionList :=
  match v.elements? with
  | some items => ofItems strict items
  | none => ⟨[], [], some (.notIterable v)⟩

/-- The items of the value, or the value as the only item. -/
def ofClause (strict : Bool) (v : Value) : ConditionList :=
  match Condition.listed? v with
  | some items => ofItems strict items
  | none => ⟨[], [], some (.notIterable v)⟩

end ConditionList

end SqlDraft
