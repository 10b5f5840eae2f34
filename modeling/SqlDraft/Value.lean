import SqlDraft.Number.Decimal

/-!
The values a caller may hand over: scalars, texts, octets, lists, tuples, mappings with keys of
any kind, and conditions. A condition is a comparison of a column, a combination of conditions
by AND or OR, or a piece of SQL to be taken as it stands. The value of a comparison may be left
unset; it then counts as null wherever a value is asked for.
-/
namespace SqlDraft

inductive Combinator where
  | and
  | or
deriving DecidableEq, Repr

def Combinator.keyword : Combinator → String
  | .and => "AND"
  | .or => "OR"

def Combinator.ofKeyword? : String → Option Combinator
  | "AND" => some .and
  | "OR" => some .or
  | _ => none

mutual

inductive Value where
  | null
  | bool (b : Bool)
  | int (n : Int)
  | float (x : Double)
  | decimal (d : Decimal)
  | text (s : String)
  | octets (bytes : List UInt8)
  | list (items : List Value)
  | tuple (items : List Value)
  | dict (entries : List (Value × Value))
  | condition (c : Condition)

inductive Condition where
  | leaf (column operator : Value) (value : Option Value)
  | group (combinator : Combinator) (children : List Condition)
  | raw (sql : String)

end

instance : Inhabited Value := ⟨.null⟩

instance : Inhabited Condition := ⟨.raw ""⟩

instance : CoeOut (Option Value) Value := ⟨fun v => v.getD .null⟩

namespace Condition

def typeName : Condition → String
  | leaf .. => "Leaf"
  | group .. => "Group"
  | raw .. => "Raw"

/-- The named parts, in order. -/
def fields : Condition → List (String × Value)
  | leaf column operator value =>
    [("column", column), ("operator", operator), ("value", (value : Value))]
  | group combinator children =>
    [("combinator", .text combinator.keyword), ("children", .list (children.map .condition))]
  | raw sql => [("sql", .text sql)]

end Condition

namespace Value

def typeName : Value → String
  | null => "NoneType"
  | bool _ => "bool"
  | int _ => "int"
  | float _ => "float"
  | decimal _ => "Decimal"
  | text _ => "str"
  | octets _ => "bytes"
  | list _ => "list"
  | tuple _ => "tuple"
  | dict _ => "dict"
  | condition c => c.typeName

/-- The type name in messages that give it in full. -/
def fullTypeName : Value → String
  | decimal _ => "decimal.Decimal"
  | v => v.typeName

def isTrue : Value → Bool
  | null => false
  | bool b => b
  | int n => n ≠ 0
  | float x => !x.isZero
  | decimal d => !d.isZero
  | text s => s ≠ ""
  | octets bytes => !bytes.isEmpty
  | list items => !items.isEmpty
  | tuple items => !items.isEmpty
  | dict entries => !entries.isEmpty
  | condition _ => true

/-- What the value yields one by one: the characters of a text, the numbers of octets, the keys
of a mapping, the named parts of a condition. -/
def elements? : Value → Option (List Value)
  | text s => some (s.toList.map fun c => text (String.singleton c))
  | octets bytes => some (bytes.map fun b => int b.toNat)
  | list items => some items
  | tuple items => some items
  | dict entries => some (entries.map Prod.fst)
  | condition c => some (c.fields.map fun f => tuple [text f.1, f.2])
  | _ => none

/-- The items of a list or a tuple. -/
def items? : Value → Option (List Value)
  | list items => some items
  | tuple items => some items
  | _ => none

def isText (s : String) : Value → Bool
  | text t => t = s
  | _ => false

/-- What stands under a text among the entries of a mapping. -/
def entry? (name : String) : List (Value × Value) → Option Value
  | [] => none
  | (text key, v) :: rest => if key = name then some v else entry? name rest
  | _ :: rest => entry? name rest

/-- One value is a list of its own; anything else that yields elements is the list of them. -/
def asList (v : Value) : List Value :=
  match v with
  | text _ => [v]
  | dict _ => [v]
  | _ => v.elements?.getD [v]

end Value

end SqlDraft
