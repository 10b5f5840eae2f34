import SqlDraft.Number.Numeral
import SqlDraft.Value
import SqlDraft.Text.Join
import SqlDraft.Text.Quoted

/-!
Values written out. `quoted` is the form in messages and inside containers, in which texts
stand in quotes; `asText` is a text itself, and for anything else the form that stands alone.
Neither form is ever written of a value with an integer inside that has too many digits: `write`
fails on it, as `Numeral.write` does on the integer.
-/
namespace SqlDraft

open Text

def tupleOf (parts : List String) : String :=
  match parts with
  | [part] => "(" ++ part ++ ",)"
  | parts => "(" ++ joinWith ", " parts ++ ")"

def called (name : String) (parts : List String) : String :=
  name ++ "(" ++ joinWith ", " parts ++ ")"

mutual

def Value.quoted : Value → String
  | .null => "None"
  | .bool b => if b then "True" else "False"
  | .int n => toString n
  | .float x => x.render
  | .decimal d => "Decimal('" ++ d.render ++ "')"
  | .text s => Text.quoted s
  | .octets bytes => quotedOctets bytes
  | .list items => "[" ++ joinWith ", " (Value.quotedAll items) ++ "]"
  | .tuple items => tupleOf (Value.quotedAll items)
  | .dict entries => "\x7b" ++ joinWith ", " (Value.quotedEntries entries) ++ "\x7d"
  | .condition c => called c.typeName (Condition.quotedFields c)
termination_by structural v => v

def Value.quotedAll : List Value → List String
  | [] => []
  | v :: rest => Value.quoted v :: Value.quotedAll rest
termination_by structural vs => vs

def Value.quotedEntries : List (Value × Value) → List String
  | [] => []
  | (k, v) :: rest => (Value.quoted k ++ ": " ++ Value.quoted v) :: Value.quotedEntries rest
termination_by structural es => es

def Condition.quotedFields : Condition → List String
  | .leaf column operator none =>
    ["column=" ++ Value.quoted column, "operator=" ++ Value.quoted operator, "value=None"]
  | .leaf column operator (some value) =>
    ["column=" ++ Value.quoted column, "operator=" ++ Value.quoted operator,
      "value=" ++ Value.quoted value]
  | .group combinator children =>
    ["combinator=" ++ Text.quoted combinator.keyword,
      "children=[" ++ joinWith ", " (Condition.quotedAll children) ++ "]"]
  | .raw sql => ["sql=" ++ Text.quoted sql]
termination_by structural c => c

def Condition.quotedAll : List Condition → List String
  | [] => []
  | c :: rest => called c.typeName (Condition.quotedFields c) :: Condition.quotedAll rest
termination_by structural cs => cs

end

def Condition.quoted (c : Condition) : String := called c.typeName c.quotedFields

def Value.asText : Value → String
  | .text s => s
  | .decimal d => d.render
  | .condition c => joinWith " " c.quotedFields
  | v => v.quoted

mutual

/-- Whether every integer inside can be written. -/
def Value.isWritable : Value → Bool
  | .int n => Numeral.isWritable n
  | .list items => Value.isWritableAll items
  | .tuple items => Value.isWritableAll items
  | .dict entries => Value.isWritableEntries entries
  | .condition c => Condition.isWritable c
  | _ => true
termination_by structural v => v

def Value.isWritableAll : List Value → Bool
  | [] => true
  | v :: rest => Value.isWritable v && Value.isWritableAll rest
termination_by structural vs => vs

def Value.isWritableEntries : List (Value × Value) → Bool
  | [] => true
  | (k, v) :: rest => Value.isWritable k && Value.isWritable v && Value.isWritableEntries rest
termination_by structural es => es

def Condition.isWritable : Condition → Bool
  | .leaf column operator none => Value.isWritable column && Value.isWritable operator
  | .leaf column operator (some value) =>
    Value.isWritable column && Value.isWritable operator && Value.isWritable value
  | .group _ children => Condition.isWritableAll children
  | .raw _ => true
termination_by structural c => c

def Condition.isWritableAll : List Condition → Bool
  | [] => true
  | c :: rest => Condition.isWritable c && Condition.isWritableAll rest
termination_by structural cs => cs

end

/-- The form that stands alone, unless an integer inside is too long. -/
def Value.write (v : Value) : Except NumeralFault String :=
  if v.isWritable then .ok v.asText else .error .unwritable

namespace Value

variable {v : Value}

theorem write_of_isWritable (h : v.isWritable = true) : v.write = .ok v.asText := if_pos h

theorem write_of_not_isWritable (h : v.isWritable = false) : v.write = .error .unwritable := by
  rw [write, h]
  rfl

theorem write_error_iff {fault : NumeralFault} :
    v.write = .error fault ↔ v.isWritable = false ∧ fault = .unwritable := by
  cases h : v.isWritable with
  | true => simp [write_of_isWritable h]
  | false => simp [write_of_not_isWritable h, eq_comm]

theorem write_ok_iff {text : String} :
    v.write = .ok text ↔ v.isWritable = true ∧ text = v.asText := by
  cases h : v.isWritable with
  | true => simp [write_of_isWritable h, eq_comm]
  | false => simp [write_of_not_isWritable h]

end Value

end SqlDraft
