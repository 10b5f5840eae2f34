import SqlDraft.Draft.Table

/-!
The statement of a draft, and the fields that declare one: a mapping or nothing, over which
single fields are laid.
-/
namespace SqlDraft

inductive StatementKind where
  | select
  | insert
  | update
  | delete
deriving DecidableEq

def StatementKind.name : StatementKind → String
  | select => "select"
  | insert => "insert"
  | update => "update"
  | delete => "delete"

inductive Statement where
  | select (table : TableRef) (columns : List Value)
  | insert (table : TableRef) (columns : List (Value × Value)) (duplicates : List Value)
  | update (table : TableRef) (columns : List (Value × Value))
  | delete (table : TableRef)

namespace Statement

def kind : Statement → StatementKind
  | select .. => .select
  | insert .. => .insert
  | update .. => .update
  | delete _ => .delete

def table : Statement → TableRef
  | select table _ => table
  | insert table _ _ => table
  | update table _ => table
  | delete table => table

end Statement

structure Fields where
  clause : String
  entries : List (Value × Value)

namespace Fields

def read (clause : String) (payload : Value) (extra : List (String × Value)) :
    Except Error Fields :=
  let extra := extra.map fun e => (Value.text e.1, e.2)
  match payload with
  | .null => .ok ⟨clause, extra⟩
  | .dict entries => .ok ⟨clause, extra ++ entries⟩
  | v => .error (.notMapping clause v)

def get? (f : Fields) (name : String) : Option Value := Value.entry? name f.entries

def require (f : Fields) (name : String) : Except Error Value :=
  match f.get? name with
  | some v => .ok v
  | none => .error (.missingField f.clause name)

end Fields

/-- What a statement is declared with, before its table is known. -/
structure Head where
  table : Value
  columns : Value
  duplicates : Value

namespace Head

def read (kind : StatementKind) (payload : Value) (extra : List (String × Value)) :
    Except Error Head := do
  let fields ← Fields.read kind.name payload extra
  let table ← fields.require "table"
  let columns ← if kind = .delete then .ok .null else fields.require "columns"
  return ⟨table, columns, (fields.get? "duplicates").getD .null⟩

def assignments (clause : String) : Value → Except Error (List (Value × Value))
  | .dict entries => .ok entries
  | _ => .error (.columnsNotMapping clause)

def statement (h : Head) (kind : StatementKind) (table : TableRef) : Except Error Statement :=
  match kind with
  | .select => .ok (.select table h.columns.asList)
  | .insert => (assignments kind.name h.columns).map fun columns =>
    .insert table columns (if h.duplicates.isTrue then h.duplicates.asList else [])
  | .update => (assignments kind.name h.columns).map (.update table)
  | .delete => .ok (.delete table)

end Head

end SqlDraft
