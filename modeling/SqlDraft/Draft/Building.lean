import SqlDraft.Condition.Rendering
import SqlDraft.Draft

/-!
The SQL text of a draft, one clause a line: the statement with its joins, WHERE, GROUP BY, HAVING,
ORDER BY, LIMIT. Parameters are consumed in that order, except that the joins of an UPDATE come
before its assignments, as they do in the text.
-/
namespace SqlDraft

inductive Direction where
  | ascending
  | descending
deriving DecidableEq

namespace Direction

def keyword : Direction → String
  | ascending => "ASC"
  | descending => "DESC"

def ofKeyword? : String → Option Direction
  | "ASC" => some ascending
  | "DESC" => some descending
  | _ => none

/-- The keyword in any letter case. -/
def ofValue? (v : Value) : Option Direction := ofKeyword? (Text.upper v.asText)

end Direction

namespace Clause

/-- A mapping gives an entry for each column whose direction is known. -/
def directed (scope : Scope) : List (Value × Value) → Render (List String)
  | [] => return []
  | (column, v) :: rest => do
    Operand.demand v
    match Direction.ofValue? v with
    | none => directed scope rest
    | some direction =>
      let name ← Operand.renderIdentifier scope column true
      let others ← directed scope rest
      return (name ++ " " ++ direction.keyword) :: others

def columnEntries (scope : Scope) : Value → Render (List String)
  | .dict entries => directed scope entries
  | v => do
    let column ← Operand.resolve scope v true
    return [column]

def columnList (scope : Scope) : List Value → Render (List String)
  | [] => return []
  | v :: rest => do
    let first ← columnEntries scope v
    let others ← columnList scope rest
    return first ++ others

/-- Columns and the values given to them, both as SQL. -/
def assignments (scope : Scope) : List (Value × Value) → Render (List (String × String))
  | [] => return []
  | (column, v) :: rest => do
    let name ← Operand.renderIdentifier scope column true
    let operand ← Operand.resolve scope v false
    let others ← assignments scope rest
    return (name, operand) :: others

def texts : Nat → List Value → Except Error (List String)
  | _, [] => .ok []
  | index, .text s :: rest => (texts (index + 1) rest).map (s :: ·)
  | index, v :: _ => .error (.notText index v)

def separator : String := ",\n"

def columns (scope : Scope) (keyword : String) (items : List Value) : Render String :=
  if items.isEmpty then return ""
  else do
    let entries ← columnList scope items
    return keyword ++ " " ++ Text.joinWith separator entries ++ "\n"

/-- Conditions that all have to hold, behind a keyword. -/
def allOf (ctx : RenderContext) (keyword : String) (conditions : List Condition) :
    Render String := do
  let parts ← Condition.renderAll ctx conditions
  return keyword ++ " " ++ Condition.joined Combinator.and.keyword parts ++ "\n"

def allOfAny (ctx : RenderContext) (keyword : String) (conditions : List Condition) :
    Render String :=
  if conditions.isEmpty then return "" else allOf ctx keyword conditions

def duplicates (items : List Value) : Except Error String :=
  if items.isEmpty then .ok ""
  else (texts 0 items).map fun parts =>
    "ON DUPLICATE KEY UPDATE " ++ Text.joinWith separator parts ++ "\n"

end Clause

namespace Join

def render (ctx : RenderContext) (join : Join) : Render String := do
  Operand.demand join.type
  let on ← Clause.allOf ctx "ON" join.conditions
  return Text.upper join.type.asText ++ " JOIN " ++ join.table.render ++ "\n" ++ on

def renderAll (ctx : RenderContext) : List Join → Render String
  | [] => return ""
  | join :: rest => do
    let first ← render ctx join
    let others ← renderAll ctx rest
    return first ++ others

end Join

namespace Statement

/-- The statement, with its joins behind it or, for an update, inside. -/
def render (scope : Scope) (joins : Render String) : Statement → Render String
  | select table columns => do
    let entries ← Clause.columnList scope columns
    let joined ← joins
    return "SELECT " ++ Text.joinWith Clause.separator entries ++ "\nFROM " ++ table.render ++
      "\n" ++ joined
  | insert table columns duplicates => do
    let pairs ← Clause.assignments scope columns
    let onDuplicate ← (Clause.duplicates duplicates : Except Error String)
    let joined ← joins
    return "INSERT INTO " ++ table.name ++ " (" ++ Text.joinWith ", " (pairs.map Prod.fst) ++
      ")\nVALUES (" ++ Text.joinWith ", " (pairs.map Prod.snd) ++ ")\n" ++ onDuplicate ++ joined
  | update table columns => do
    let joined ← joins
    let pairs ← Clause.assignments scope columns
    return "UPDATE " ++ table.render ++ "\n" ++ joined ++ "SET " ++
      Text.joinWith Clause.separator (pairs.map fun p => p.1 ++ " = " ++ p.2) ++ "\n"
  | delete table => do
    let joined ← joins
    let target := match table.aliasName? with
      | some name => " " ++ name
      | none => ""
    return "DELETE" ++ target ++ "\nFROM " ++ table.render ++ "\n" ++ joined

end Statement

namespace Draft

def scope (d : Draft) : Scope := ⟨d.strict, d.identifiers, d.params⟩

def context (d : Draft) (operators : OperatorTable) (clause : String) : RenderContext :=
  ⟨d.scope, operators, some clause⟩

def render (d : Draft) (operators : OperatorTable) : Render String :=
  match d.statement with
  | none => throw .noStatement
  | some s => do
    let head ← s.render d.scope (Join.renderAll (d.context operators "on") d.joins)
    let filter ← Clause.allOfAny (d.context operators "where") "WHERE" d.filter
    let grouping ← Clause.columns d.scope "GROUP BY" d.grouping
    let having ← Clause.allOfAny (d.context operators "having") "HAVING" d.having
    let ordering ← Clause.columns d.scope "ORDER BY" d.ordering
    note (.built s.kind.name (← get).cursor)
    return head ++ filter ++ grouping ++ having ++ ordering ++ d.limit.getD ""

/-- Each build consumes the parameters from the first one on. -/
def build (d : Draft) (operators : OperatorTable) : Except Error String × List Notice :=
  let (result, progress) := (d.render operators).run.run .start
  (result, progress.notices)

end Draft

end SqlDraft
