import SqlDraft.Operator

/-!
Conditions written as SQL: a comparison by the rule of its operator, a combination in
parentheses with its keyword between the parts, and raw SQL as it stands.
-/
namespace SqlDraft

structure RenderContext where
  scope : Scope
  operators : OperatorTable
  clause : Option String

namespace Condition

def renderLeaf (ctx : RenderContext) (column operator value : Value) : Render String := do
  match ctx.operators.find? operator with
  | none => throw (Error.unknownOperator operator ctx.clause).raised
  | some rule =>
    let columnText ← Operand.resolve ctx.scope column false
    match ← rule.render ctx.scope columnText value with
    | some fragment => return fragment
    | none =>
      if ctx.scope.strict then throw (Error.malformedOperand column operator value).raised
      else
        note (.malformedOperand operator column)
        return ""

mutual

def render (ctx : RenderContext) : Condition → Render String
  | .leaf column operator value => renderLeaf ctx column operator value
  | .group combinator children => do
    let parts ← renderAll ctx children
    return "(" ++ Text.joinWith (" " ++ combinator.keyword ++ " ") parts ++ ")"
  | .raw sql => return sql
termination_by structural c => c

def renderAll (ctx : RenderContext) : List Condition → Render (List String)
  | [] => return []
  | c :: rest => do
    let first ← render ctx c
    let others ← renderAll ctx rest
    return first :: others
termination_by structural cs => cs

end

/-- Values that have to be conditions already. -/
def renderValues (ctx : RenderContext) : List Value → Render (List String)
  | [] => return []
  | .condition c :: rest => do
    let first ← render ctx c
    let others ← renderValues ctx rest
    return first :: others
  | v :: _ => throw (.notCondition v)

/-- The parts of a clause, one a line. -/
def joined (keyword : String) (parts : List String) : String :=
  Text.joinWith ("\n" ++ keyword ++ " ") parts

end Condition

end SqlDraft
