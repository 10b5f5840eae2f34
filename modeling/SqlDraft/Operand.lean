import SqlDraft.Identifiers.Quoting
import SqlDraft.Notice
import SqlDraft.Params

/-!
Operands written as SQL. A value is written as a literal, or, as a token, through the parameter
it stands for; a token that stands for none is an expression whose identifiers are quoted. What
cannot be written fails. One build reads the positional slots in order, and `Progress` holds the
next slot and what was noted.
-/
namespace SqlDraft

structure Progress where
  cursor : Nat
  notices : List Notice

def Progress.start : Progress := ⟨0, []⟩

/-- What was noted and consumed before an error stays. -/
abbrev Render := ExceptT Error (StateM Progress)

def note (n : Notice) : Render Unit :=
  modify fun p => { p with notices := p.notices ++ [n] }

def advance : Render Unit := modify fun p => { p with cursor := p.cursor + 1 }

/-- What one draft offers to the operands in it. -/
structure Scope where
  strict : Bool
  identifiers : Identifiers
  params : Params

namespace Operand

/-- Whole doubles have no fraction and no exponent. -/
def numberText : Value → String
  | .float x => match x.toInt? with
    | some n => toString n
    | none => x.render
  | v => v.asText

/-- Lists, tuples and mappings have no literal and leave nothing. -/
def literal (v : Value) (force : Bool) : String :=
  match Token.ofValue v with
  | .null => "NULL"
  | .bool => if v.isTrue then "1" else "0"
  | .number => if force then "'" ++ numberText v ++ "'" else numberText v
  | _ => match v with
    | .list _ => ""
    | .tuple _ => ""
    | .dict _ => ""
    | v => Text.quoteLiteral v.asText

def identifier (scope : Scope) (v : Value) (force : Bool) : String :=
  scope.identifiers.quote v.asText force

/-- Fails on a value that cannot be written. -/
def demand (v : Value) : Render Unit :=
  match v.write with
  | .ok _ => return ()
  | .error fault => throw (.numeral fault)

theorem demand_of_isWritable {v : Value} (h : v.isWritable = true) : demand v = pure () := by
  rw [demand, Value.write_of_isWritable h]

theorem demand_of_not_isWritable {v : Value} (h : v.isWritable = false) :
    demand v = throw (.numeral .unwritable) := by
  rw [demand, Value.write_of_not_isWritable h]

@[simp] theorem demand_null : demand .null = pure () := rfl

@[simp] theorem demand_text (s : String) : demand (.text s) = pure () := rfl

/-- What is written of a value in a literal. -/
def content : Value → Value
  | .list _ => .null
  | .tuple _ => .null
  | .dict _ => .null
  | v => v

def renderLiteral (v : Value) (force : Bool) : Render String := do
  demand (content v)
  return literal v force

def renderIdentifier (scope : Scope) (v : Value) (force : Bool) : Render String := do
  demand v
  return identifier scope v force

/-- The next slot, if it holds a value; a strict draft has to have one. The slot is consumed before
its value is written. -/
def positional (scope : Scope) (token : Value) (force : Bool) : Render String := do
  let position := (← get).cursor
  match scope.params.get? (.slot position) with
  | some v =>
    advance
    renderLiteral v force
  | none =>
    if scope.strict then throw (.missingParameter position)
    else
      note (.unresolved position)
      return identifier scope token force

/-- A name of digits that holds no value reads the slot of that number. -/
def namedValue? (params : Params) (name : String) : Except NumeralFault (Option Value) :=
  match params.get? (.name name) with
  | some v => .ok (some v)
  | none =>
    if name.toList.all Text.isDigit then
      (Numeral.readDigits name).map fun n => params.get? (.slot n)
    else .ok none

def named (scope : Scope) (token : Value) (name : String) (force : Bool) : Render String :=
  match namedValue? scope.params name with
  | .ok (some v) => renderLiteral v force
  | .ok none => return identifier scope token force
  | .error fault => throw (.numeral fault)

def resolve (scope : Scope) (token : Value) (force : Bool) : Render String :=
  match Token.ofValue token with
  | .positional => positional scope token force
  | .named name => named scope token name force
  | .string => renderIdentifier scope token force
  | _ => renderLiteral token force

def resolveAll (scope : Scope) (force : Bool) : List Value → Render (List String)
  | [] => return []
  | v :: rest => do
    let first ← resolve scope v force
    let others ← resolveAll scope force rest
    return first :: others

end Operand

end SqlDraft
