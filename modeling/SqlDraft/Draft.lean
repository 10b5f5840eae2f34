import SqlDraft.Condition.Reading
import SqlDraft.Draft.Statement
import SqlDraft.Limit

/-!
A draft is what has been declared of one SQL statement. Each declaration adds to it or fails, and
a declaration that fails part way leaves what it had already done: identifiers of its table, the
joins before the one at fault, the parameters before the key at fault.
-/
namespace SqlDraft

structure Join where
  type : Value
  table : TableRef
  conditions : List Condition

structure Draft where
  strict : Bool
  identifiers : Identifiers
  params : Params
  statement : Option Statement
  joins : List Join
  filter : List Condition
  having : List Condition
  grouping : List Value
  ordering : List Value
  limit : Option String

def Draft.empty (strict : Bool) : Draft :=
  ⟨strict, .empty, .empty, none, [], [], [], [], [], none⟩

inductive Declaration where
  | statement (kind : StatementKind) (payload : Value) (fields : List (String × Value))
  | joins (specs : Value)
  | filter (conditions : Value)
  | having (conditions : Value)
  | group (columns : Value)
  | order (columns : Value)
  | limit (value : Value)
  | params (values : Value)

structure Outcome where
  draft : Draft
  notices : List Notice
  error : Option Error

namespace Draft

def done (d : Draft) (notices : List Notice) : Outcome := ⟨d, notices, none⟩

def refuse (d : Draft) (e : Error) : Outcome := ⟨d, [], some e⟩

def statementNotice (d : Draft) (s : Statement) : Notice :=
  match d.statement with
  | some old => .replaced old.kind.name s.kind.name
  | none => .declared s.kind.name s.table.render

def declareStatement (d : Draft) (kind : StatementKind) (payload : Value)
    (fields : List (String × Value)) : Outcome :=
  match Head.read kind payload fields with
  | .error e => d.refuse e
  | .ok head =>
    let (ids, declared) := TableRef.declare d.identifiers kind.name head.table
    match declared >>= head.statement kind with
    | .error e => { d with identifiers := ids }.refuse e
    | .ok s => { d with identifiers := ids, statement := some s }.done [d.statementNotice s]

/-- Reads conditions and puts them where `add` says. -/
def withConditions (d : Draft) (v : Value) (add : List Condition → Draft) : Outcome :=
  let list := ConditionList.ofClause d.strict v
  match list.error with
  | none => ⟨add list.conditions, list.notices, none⟩
  | some e => ⟨d, list.notices, some e⟩

def readJoin (spec : Value) : Except Error (Value × Value × Value) := do
  let fields ← Fields.read "joins" spec []
  let type ← fields.require "type"
  let table ← fields.require "table"
  let conditions ← fields.require "conditions"
  return (type, table, conditions)

def declareJoin (d : Draft) (spec : Value) : Outcome :=
  match readJoin spec with
  | .error e => d.refuse e
  | .ok (type, tableSpec, conditions) =>
    let (ids, declared) := TableRef.declare d.identifiers "joins" tableSpec
    let d := { d with identifiers := ids }
    match declared with
    | .error e => d.refuse e
    | .ok table =>
      d.withConditions conditions fun cs => { d with joins := d.joins ++ [⟨type, table, cs⟩] }

def declareEach (d : Draft) : List Value → Outcome
  | [] => d.done []
  | spec :: rest =>
    let first := d.declareJoin spec
    match first.error with
    | some _ => first
    | none =>
      let others := first.draft.declareEach rest
      { others with notices := first.notices ++ others.notices }

/-- One mapping alone is a join; anything else yields one after the other. -/
def joinSpecs? : Value → Option (List Value)
  | .dict entries => some [.dict entries]
  | v => v.elements?

def declareJoins (d : Draft) (v : Value) : Outcome :=
  match joinSpecs? v with
  | some specs => d.declareEach specs
  | none => d.refuse (.notIterable v)

/-- A limit without a clause keeps the one before. -/
def declareLimit (d : Draft) (v : Value) : Outcome :=
  match Limit.format v with
  | .ok (some text) => { d with limit := some text }.done []
  | .ok none => d.done []
  | .error fault => d.refuse (.numeral fault)

def declareParams (d : Draft) (v : Value) : Outcome :=
  let (params, error) := d.params.merge v
  ⟨{ d with params := params }, [], error⟩

def declare (d : Draft) : Declaration → Outcome
  | .statement kind payload fields => d.declareStatement kind payload fields
  | .joins specs => d.declareJoins specs
  | .filter v => d.withConditions v fun cs => { d with filter := d.filter ++ cs }
  | .having v => d.withConditions v fun cs => { d with having := d.having ++ cs }
  | .group v => { d with grouping := d.grouping ++ v.asList }.done []
  | .order v => { d with ordering := d.ordering ++ v.asList }.done []
  | .limit v => d.declareLimit v
  | .params v => d.declareParams v

/-- Declares one after the other up to the first that fails. -/
def declareAll (d : Draft) : List Declaration → Outcome
  | [] => d.done []
  | declaration :: rest =>
    let first := d.declare declaration
    match first.error with
    | some _ => first
    | none =>
      let others := first.draft.declareAll rest
      { others with notices := first.notices ++ others.notices }

end Draft

end SqlDraft
