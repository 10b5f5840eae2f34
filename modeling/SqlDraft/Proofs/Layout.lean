import SqlDraft.Draft.Building

/-!
The SQL of a draft before any of its operands is resolved, as one flat list of pieces in the order
of the text. That is also the order in which rendering resolves operands, notes what it passes over
and fails, so running the pieces one after the other is rendering the draft. The layout depends on
what was declared and on the operator table, not on parameters, identifiers or strictness.
-/
namespace SqlDraft

/-- What the pieces stand for: SQL as it is, a text that is escaped, a value that has to be writable
and leaves nothing itself, a column that is quoted, a token in the text, a token that is resolved
and left out, a comparison without the list of values it needs, and an error. -/
inductive Piece where
  | sql (text : String)
  | data (text : String)
  | writable (v : Value)
  | name (column : Value)
  | operand (token : Value) (force : Bool)
  | unused (token : Value)
  | malformed (column operator value : Value)
  | failure (e : Error)

abbrev Layout := List Piece

namespace Layout

def separated (separator : String) : List Layout → Layout
  | [] => []
  | [l] => l
  | l :: m :: rest => l ++ .sql separator :: separated separator (m :: rest)

/-- A literal, with the content of a text apart from its quotes. -/
def literal (v : Value) (force : Bool) : Layout :=
  match v with
  | .text s => [.sql "'", .data s, .sql "'"]
  | v => [.writable (Operand.content v), .sql (Operand.literal v force)]

/-- A pattern in quotes, with the content of a text apart from the rest. -/
def pattern (before after : String) (v : Value) : Layout :=
  match v with
  | .null => [.sql ("'" ++ before), .sql (after ++ "'")]
  | .text s => [.sql ("'" ++ before), .data s, .sql (after ++ "'")]
  | v => [.writable v, .sql (OperatorRule.likePattern before after v)]

def listed (items : List Value) : List Layout := items.map fun v => [.operand v true]

end Layout

open Layout

namespace OperatorRule

/-- The column is resolved even where the rule leaves it out. -/
def layout (rule : OperatorRule) (column operator v : Value) : Layout :=
  match rule with
  | comparison symbol force =>
    [.operand column false, .sql (" " ++ symbol ++ " "), .operand v force]
  | call function force =>
    [.sql (function ++ "("), .operand column false, .sql ", "] ++ literal v force ++ [.sql ")"]
  | between =>
    match v.items? with
    | some [low, high] =>
      [.operand column false, .sql " BETWEEN ", .operand low true, .sql " AND ",
        .operand high true]
    | _ => [.unused column, .malformed column operator v]
  | membership keyword =>
    match v.items? with
    | some items =>
      [.operand column false, .sql (" " ++ keyword ++ " (")] ++ separated "," (listed items) ++
        [.sql ")"]
    | none => [.unused column, .malformed column operator v]
  | like before after =>
    [.operand column false, .sql " LIKE "] ++ pattern before after v
  | fixed text => [.unused column, .sql text]
  | unusable => [.unused column, .malformed column operator v]

end OperatorRule

namespace Condition

def leafLayout (operators : OperatorTable) (clause : Option String) (column operator v : Value) :
    Layout :=
  match operators.find? operator with
  | none => [.failure (Error.unknownOperator operator clause).raised]
  | some rule => rule.layout column operator v

mutual

def layout (operators : OperatorTable) (clause : Option String) : Condition → Layout
  | .leaf column operator v => leafLayout operators clause column operator v
  | .group combinator children =>
    .sql "(" ::
      separated (" " ++ combinator.keyword ++ " ") (layoutAll operators clause children) ++
      [.sql ")"]
  | .raw sql => [.sql sql]
termination_by structural c => c

def layoutAll (operators : OperatorTable) (clause : Option String) : List Condition → List Layout
  | [] => []
  | c :: rest => layout operators clause c :: layoutAll operators clause rest
termination_by structural cs => cs

end

end Condition

namespace Clause

/-- A direction that cannot be written ends the text; one that is unknown leaves nothing. -/
def directionLayout? (e : Value × Value) : Option Layout :=
  if e.2.isWritable then (Direction.ofValue? e.2).map fun direction =>
    [.writable e.1, .name e.1, .sql (" " ++ direction.keyword)]
  else some [.writable e.2]

/-- A mapping gives a piece of SQL for each direction; anything else is a token. -/
def entryLayouts : Value → List Layout
  | .dict entries => entries.filterMap directionLayout?
  | v => [[.operand v true]]

def columnsLayout (keyword : String) (items : List Value) : Layout :=
  if items.isEmpty then []
  else .sql (keyword ++ " ") :: Layout.separated separator (items.flatMap entryLayouts) ++
    [.sql "\n"]

def allOfLayout (operators : OperatorTable) (clause keyword : String)
    (conditions : List Condition) : Layout :=
  .sql (keyword ++ " ") ::
    Layout.separated ("\n" ++ Combinator.and.keyword ++ " ")
      (Condition.layoutAll operators (some clause) conditions) ++
    [.sql "\n"]

def allOfAnyLayout (operators : OperatorTable) (clause keyword : String)
    (conditions : List Condition) : Layout :=
  if conditions.isEmpty then [] else allOfLayout operators clause keyword conditions

def duplicatesLayout (items : List Value) : Layout :=
  match duplicates items with
  | .ok text => [.sql text]
  | .error e => [.failure e]

end Clause

namespace Join

def layout (operators : OperatorTable) (join : Join) : Layout :=
  .writable join.type ::
    .sql (Text.upper join.type.asText ++ " JOIN " ++ join.table.render ++ "\n") ::
    Clause.allOfLayout operators "on" "ON" join.conditions

end Join

namespace Statement

/-- The joins stand behind the statement or, for an update, before its assignments. The columns of
an insert come before all values, but each has to be writable only when its value is resolved. -/
def layout (joins : Layout) : Statement → Layout
  | select table columns =>
    .sql "SELECT " :: separated Clause.separator (columns.flatMap Clause.entryLayouts) ++
      .sql ("\nFROM " ++ table.render ++ "\n") :: joins
  | insert table columns duplicates =>
    .sql ("INSERT INTO " ++ table.name ++ " (") ::
      separated ", " (columns.map fun e => [.name e.1]) ++ .sql ")\nVALUES (" ::
      separated ", " (columns.map fun e => [.writable e.1, .operand e.2 false]) ++ .sql ")\n" ::
      Clause.duplicatesLayout duplicates ++ joins
  | update table columns =>
    .sql ("UPDATE " ++ table.render ++ "\n") :: joins ++ .sql "SET " ::
      separated Clause.separator
        (columns.map fun e => [.writable e.1, .name e.1, .sql " = ", .operand e.2 false]) ++
      [.sql "\n"]
  | delete table =>
    .sql ("DELETE" ++ (match table.aliasName? with
      | some name => " " ++ name
      | none => "") ++ "\nFROM " ++ table.render ++ "\n") :: joins

end Statement

namespace Draft

/-- Without a statement there is nothing but the error. -/
def layout (operators : OperatorTable) (d : Draft) : Layout :=
  match d.statement with
  | none => [.failure .noStatement]
  | some s =>
    s.layout (d.joins.flatMap (Join.layout operators)) ++
      Clause.allOfAnyLayout operators "where" "WHERE" d.filter ++
      Clause.columnsLayout "GROUP BY" d.grouping ++
      Clause.allOfAnyLayout operators "having" "HAVING" d.having ++
      Clause.columnsLayout "ORDER BY" d.ordering ++ [.sql (d.limit.getD "")]

end Draft

end SqlDraft
