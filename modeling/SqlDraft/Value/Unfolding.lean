import SqlDraft.Value

/-!
Values without conditions: each condition is replaced by the mapping of its fields, without the
value of a comparison where that was left unset.
-/
namespace SqlDraft

mutual

def Value.unfolded : Value → Value
  | .list items => .list (Value.unfoldedAll items)
  | .tuple items => .tuple (Value.unfoldedAll items)
  | .dict entries => .dict (Value.unfoldedEntries entries)
  | .condition c => .dict (Condition.unfoldedFields c)
  | .null => .null
  | .bool b => .bool b
  | .int n => .int n
  | .float x => .float x
  | .decimal d => .decimal d
  | .text s => .text s
  | .octets bytes => .octets bytes
termination_by structural v => v

def Value.unfoldedAll : List Value → List Value
  | [] => []
  | v :: rest => Value.unfolded v :: Value.unfoldedAll rest
termination_by structural vs => vs

def Value.unfoldedEntries : List (Value × Value) → List (Value × Value)
  | [] => []
  | (k, v) :: rest => (k, Value.unfolded v) :: Value.unfoldedEntries rest
termination_by structural entries => entries

def Condition.unfoldedFields : Condition → List (Value × Value)
  | .leaf column operator none =>
    [(.text "column", Value.unfolded column), (.text "operator", Value.unfolded operator)]
  | .leaf column operator (some value) =>
    [(.text "column", Value.unfolded column), (.text "operator", Value.unfolded operator),
      (.text "value", Value.unfolded value)]
  | .group combinator children =>
    [(.text "combinator", .text combinator.keyword),
      (.text "children", .list (Condition.unfoldedAll children))]
  | .raw sql => [(.text "sql", .text sql)]
termination_by structural c => c

def Condition.unfoldedAll : List Condition → List Value
  | [] => []
  | c :: rest => .dict (Condition.unfoldedFields c) :: Condition.unfoldedAll rest
termination_by structural cs => cs

end

end SqlDraft
