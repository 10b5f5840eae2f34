import SqlDraft.Operand

/-!
Operators of comparisons. A rule says how an operator writes a column and a value; a table gives
the rule for each operator, which is found by its exact text. A rule that needs a list of values
writes nothing for any other value.
-/
namespace SqlDraft

inductive OperatorRule where
  | comparison (symbol : String) (force : Bool)
  | call (function : String) (force : Bool)
  | between
  | membership (keyword : String)
  | like (before after : String)
  | fixed (text : String)
  | unusable

namespace OperatorRule

def likePattern (before after : String) (v : Value) : String :=
  let content := match v with
    | .null => ""
    | v => Text.escape v.asText
  "'" ++ before ++ content ++ after ++ "'"

def render (scope : Scope) (rule : OperatorRule) (column : String) (v : Value) :
    Render (Option String) :=
  match rule with
  | comparison symbol force => do
    let operand ← Operand.resolve scope v force
    return some (column ++ " " ++ symbol ++ " " ++ operand)
  | call function force => do
    let operand ← Operand.renderLiteral v force
    return some (function ++ "(" ++ column ++ ", " ++ operand ++ ")")
  | between =>
    match v.items? with
    | some [low, high] => do
      let low ← Operand.resolve scope low true
      let high ← Operand.resolve scope high true
      return some (column ++ " BETWEEN " ++ low ++ " AND " ++ high)
    | _ => return none
  | membership keyword =>
    match v.items? with
    | some items => do
      let operands ← Operand.resolveAll scope true items
      return some (column ++ " " ++ keyword ++ " (" ++ Text.joinWith "," operands ++ ")")
    | none => return none
  | like before after => do
    Operand.demand v
    return some (column ++ " LIKE " ++ likePattern before after v)
  | fixed text => return some text
  | unusable => return none

end OperatorRule

abbrev OperatorTable := OrderedMap String OperatorRule

namespace OperatorTable

def standard : OperatorTable := OrderedMap.ofList [
  ("=", .comparison "=" false),
  ("<=", .comparison "<=" false),
  (">=", .comparison ">=" false),
  ("<", .comparison "<" false),
  (">", .comparison ">" false),
  ("!=", .comparison "!=" false),
  ("<>", .comparison "!=" false),
  ("is", .comparison "IS" false),
  ("is not", .comparison "IS NOT" false),
  ("between", .between),
  ("in", .membership "IN"),
  ("not in", .membership "NOT IN"),
  ("contains", .like "%" "%"),
  ("begins", .like "" "%"),
  ("ends", .like "%" ""),
  ("in set", .call "FIND_IN_SET" false)]

/-- Only texts name an operator. -/
def find? (table : OperatorTable) : Value → Option OperatorRule
  | .text s => table.get? s
  | _ => none

def register (table : OperatorTable) (names : List String) (rule : OperatorRule) :
    OperatorTable :=
  names.foldl (fun t name => t.insert name rule) table

/-- In the order of code points. -/
def sortedNames (table : OperatorTable) : List String :=
  table.keys.mergeSort fun a b => decide (a ≤ b)

end OperatorTable

end SqlDraft
