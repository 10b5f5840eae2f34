import SqlDraft.Value.Display

/-!
Where and why a value does not have the shape it should have. A path leads from the outside to
the place of the fault by names and indices.
-/
namespace SqlDraft.Schema

inductive Step where
  | name (s : String)
  | index (n : Int)
deriving DecidableEq

inductive FaultKind where
  | missing
  | extraForbidden
  | invalidKey
  | listType
  | dictType
  | modelType
  | stringType
  | stringEncoding
  | boolType
  | boolReading
  | intType
  | intReading
  | intSize
  | intFromFraction
  | finiteNumber
  | literal
  | unionTag
  | frozen
deriving DecidableEq

def FaultKind.code : FaultKind → String
  | missing => "missing"
  | extraForbidden => "extra_forbidden"
  | invalidKey => "invalid_key"
  | listType => "list_type"
  | dictType => "dict_type"
  | modelType => "model_type"
  | stringType => "string_type"
  | stringEncoding => "string_unicode"
  | boolType => "bool_type"
  | boolReading => "bool_parsing"
  | intType => "int_type"
  | intReading => "int_parsing"
  | intSize => "int_parsing_size"
  | intFromFraction => "int_from_float"
  | finiteNumber => "finite_number"
  | literal => "literal_error"
  | unionTag => "union_tag_not_found"
  | frozen => "frozen_instance"

structure Fault where
  path : List Step
  kind : FaultKind
deriving DecidableEq

def Fault.at (kind : FaultKind) : List Fault := [⟨[], kind⟩]

def Fault.under (steps : List Step) (faults : List Fault) : List Fault :=
  faults.map fun f => { f with path := steps ++ f.path }

/-- Integers of 64 bits lie below it. -/
def wordBound : Int := twoTo 63

/-- Small integers are indices; a key of another type than text shows in quoted form. -/
def Step.ofKey : Value → Step
  | .text s => .name s
  | .bool b => .index (if b then 1 else 0)
  | .int n => if -wordBound ≤ n ∧ n < wordBound then .index n else .name (Value.quoted (.int n))
  | v => .name v.quoted

end SqlDraft.Schema
