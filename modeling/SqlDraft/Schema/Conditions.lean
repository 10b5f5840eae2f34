import SqlDraft.Schema.Record

/-!
Conditions given by their fields. Where any condition may stand, the fields tell which one it is:
a combinator makes a group, otherwise SQL makes it raw, otherwise an operator makes a leaf.
-/
namespace SqlDraft.Schema

inductive ConditionForm where
  | leaf
  | group
  | raw
deriving DecidableEq

namespace ConditionForm

def name : ConditionForm → String
  | leaf => "leaf"
  | group => "group"
  | raw => "raw"

def fieldNames : ConditionForm → List String
  | leaf => ["column", "operator", "value"]
  | group => ["combinator", "children"]
  | raw => ["sql"]

def ofEntries? (entries : List (Value × Value)) : Option ConditionForm :=
  if (Value.entry? "combinator" entries).isSome then some group
  else if (Value.entry? "sql" entries).isSome then some raw
  else if (Value.entry? "operator" entries).isSome then some leaf
  else none

end ConditionForm

def checkCombinator : Value → Checked Combinator
  | .text s => match Combinator.ofKeyword? s with
    | some c => .ok c
    | none => .fault .literal
  | _ => .fault .literal

/-- The condition of a form, with its children already checked. -/
def ofForm (form : ConditionForm) (entries : List (Value × Value))
    (children : Option (Checked (List Condition))) : Checked Condition :=
  let given (name : String) := Value.entry? name entries
  closed form.fieldNames entries <| match form with
    | .leaf =>
      Checked.both (fun column operator => .leaf column operator (given "value"))
        (requiredField "column" ((given "column").map .ok))
        (requiredField "operator" ((given "operator").map .ok))
    | .group =>
      Checked.both .group
        (requiredField "combinator" ((given "combinator").map checkCombinator))
        (requiredField "children" children)
    | .raw => (requiredField "sql" ((given "sql").map checkText)).map .raw

mutual

def checkCondition : Value → Checked Condition
  | .condition c => .ok c
  | .dict entries => match ConditionForm.ofEntries? entries with
    | some form => (ofForm form entries (checkChildrenIn entries)).under (.name form.name)
    | none => .fault .unionTag
  | _ => .fault .unionTag
termination_by structural v => v

/-- The children among the fields. -/
def checkChildrenIn : List (Value × Value) → Option (Checked (List Condition))
  | [] => none
  | (key, v) :: rest =>
    match key with
    | .text s => if s = "children" then some (checkChildren v) else checkChildrenIn rest
    | _ => checkChildrenIn rest
termination_by structural entries => entries

def checkChildren : Value → Checked (List Condition)
  | .list items => Checked.items (checkEach items)
  | .tuple items => Checked.items (checkEach items)
  | .condition c => Checked.items (c.fields.map fun _ => .fault .unionTag)
  | _ => .fault .listType
termination_by structural v => v

def checkEach : List Value → List (Checked Condition)
  | [] => []
  | v :: rest => checkCondition v :: checkEach rest
termination_by structural vs => vs

end

def conditionOfFields (form : ConditionForm) (entries : List (Value × Value)) :
    Checked Condition :=
  ofForm form entries (checkChildrenIn entries)

end SqlDraft.Schema
