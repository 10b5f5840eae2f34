import SqlDraft.Error
import SqlDraft.OrderedMap
import SqlDraft.Schema.Record

/-!
Shapes of declarations. Checking a value against a shape gives the value in the form the shape
prefers: tuples as lists, numbers and words for a truth value as the truth value, and of a
mapping the given fields in the order of the shape. A field that is not given has a default.
-/
namespace SqlDraft.Schema

inductive Shape where
  | any
  | text
  | flag
  | limit
  | params
  | optional (inner : Shape)
  | list (item : Shape)
  | record (fields : List (String × Shape))

namespace Shape

def checkList (v : Value) : Checked (List Value) :=
  match listItems? v with
  | some items => .ok items
  | none => .fault .listType

/-- One of several alternatives; if none fits, the faults of all of them. -/
def alternative (name : String) (c : Checked Value) (next : Checked Value) : Checked Value :=
  match c with
  | .ok v => .ok v
  | .error faults => next.mapError (Fault.under [.name name] faults ++ ·)

def checkLimit (v : Value) : Checked Value :=
  match v with
  | .text s => .ok (.text s)
  | v =>
    alternative "int" ((checkInt v).map .int) <|
    alternative "str" ((checkText v).map .text) <|
    alternative "list[any]" ((checkList v).map .list) (.error [])

def checkNames (entries : List (Value × Value)) : Checked (List (String × Value)) :=
  Checked.all <| entries.map fun e =>
    match checkText e.1 with
    | .ok s => .ok (s, e.2)
    | .error faults => .error (Fault.under [Step.ofKey e.1, .name "[key]"] faults)

/-- Octets and a text of one name give one entry. -/
def checkMapping : Value → Checked (List (Value × Value))
  | .dict entries => (checkNames entries).map fun named =>
    (OrderedMap.ofList named).entries.map fun e => (.text e.1, e.2)
  | _ => .fault .dictType

def checkParams (v : Value) : Checked Value :=
  alternative "list[any]" ((checkList v).map .list) <|
  alternative "dict[str,any]" ((checkMapping v).map .dict) (.error [])

mutual

def check : Shape → Value → Checked Value
  | any, v => .ok v
  | text, v => (checkText v).map .text
  | flag, v => (checkFlag v).map .bool
  | limit, v => checkLimit v
  | params, v => checkParams v
  | optional inner, v => match v with
    | .null => .ok .null
    | v => check inner v
  | list item, v => match listItems? v with
    | some items => (Checked.items (items.map fun v => check item v)).map .list
    | none => .fault .listType
  | record fields, v => match v with
    | .dict entries =>
      (closed (fields.map Prod.fst) entries (checkFields fields entries)).map .dict
    | _ => .fault .modelType
termination_by structural s => s

/-- The fields that are given. -/
def checkFields : List (String × Shape) → List (Value × Value) → Checked (List (Value × Value))
  | [], _ => .ok []
  | (name, shape) :: rest, entries =>
    match Value.entry? name entries with
    | some v =>
      Checked.both (fun v others => (.text name, v) :: others)
        ((check shape v).under (.name name)) (checkFields rest entries)
    | none => checkFields rest entries
termination_by structural fields => fields

end

def default : Shape → Value
  | flag => .bool false
  | _ => .null

mutual

/-- A checked value with all fields, those that were not given by default. -/
def complete : Shape → Value → Value
  | optional inner, v => complete inner v
  | list item, v => match v with
    | .list items => .list (items.map fun v => complete item v)
    | v => v
  | record fields, v => match v with
    | .dict entries => .dict (completeFields fields entries)
    | v => v
  | _, v => v
termination_by structural s => s

def completeFields : List (String × Shape) → List (Value × Value) → List (Value × Value)
  | [], _ => []
  | (name, shape) :: rest, entries =>
    let v := match Value.entry? name entries with
      | some v => complete shape v
      | none => shape.default
    (.text name, v) :: completeFields rest entries
termination_by structural fields => fields

end

def fieldNames : Shape → List String
  | record fields => fields.map Prod.fst
  | _ => []

/-- Sets one field to null, whether it was given or not. -/
def clear (shape : Shape) (owner name : String) (entries : List (Value × Value)) :
    Except Error (List (Value × Value)) :=
  if name ∈ shape.fieldNames then
    .ok (entries.filter (fun e => !e.1.isText name) ++ [(.text name, .null)])
  else .error (.unknownField owner name)

def statement : Shape :=
  record [("table", any), ("columns", any), ("duplicates", optional (list text))]

def join : Shape := record [("type", any), ("table", any), ("conditions", any)]

def query : Shape := record [
  ("select", optional statement),
  ("insert", optional statement),
  ("update", optional statement),
  ("delete", optional statement),
  ("joins", optional (list join)),
  ("where", optional (list any)),
  ("having", optional (list any)),
  ("order", optional (list any)),
  ("group", optional (list any)),
  ("limit", optional limit),
  ("params", optional params)]

def config : Shape := record [("strict", flag)]

end Shape

end SqlDraft.Schema
