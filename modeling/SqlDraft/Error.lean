import SqlDraft.Json.Reader
import SqlDraft.Report
import SqlDraft.Schema.Fault

/-!
Why a draft cannot be declared, read or built. Causes that concern the statement have a report;
the others are values that cannot be used where they were given. A message that shows a value is
written when the error is raised, so a value that cannot be written is at fault itself.
-/
namespace SqlDraft

inductive Error where
  | missingField (clause field : String)
  | notMapping (clause : String) (given : Value)
  | columnsNotMapping (clause : String)
  | emptyTable (clause : String)
  | noStatement
  | unknownOperator (operator : Value) (clause : Option String)
  | unrecognisedCondition (item : Value)
  | malformedOperand (column operator value : Value)
  | missingParameter (position : Nat)
  | malformedJson (fault : Json.Fault) (source : Value)
  | invalidPayload (faults : List Schema.Fault) (payload : Value)
  | invalidFields (faults : List Schema.Fault)
  | notIterable (given : Value)
  | notText (index : Nat) (given : Value)
  | notCondition (given : Value)
  | unhashable (given : Value)
  | unknownKey (key : Value)
  | unknownField (owner field : String)
  | numeral (fault : NumeralFault)
  | undecodable (fault : Text.EncodingFault)

def NumeralFault.message : NumeralFault → String
  | tooLong digits =>
    "Exceeds the limit (4300 digits) for integer string conversion: value has " ++
      toString digits ++ " digits; use sys.set_int_max_str_digits() to increase the limit"
  | notDecimal text =>
    "invalid literal for int() with base 10: " ++
      String.ofList ((Text.quoted text).toList.take 200)
  | unwritable =>
    "Exceeds the limit (4300 digits) for integer string conversion; " ++
      "use sys.set_int_max_str_digits() to increase the limit"

namespace Error

def optionalText : Option String → Value
  | some s => .text s
  | none => .null

/-- The values that the message has to be written with. -/
def shown : Error → List Value
  | unknownOperator operator _ => [operator]
  | unrecognisedCondition item => [item]
  | malformedOperand _ operator value => [operator, value]
  | _ => []

/-- What is raised for the error: it, or that its message cannot be written. -/
def raised (e : Error) : Error :=
  if e.shown.all Value.isWritable then e else .numeral .unwritable

theorem raised_cases (e : Error) : e.raised = e ∨ e.raised = .numeral .unwritable := by
  unfold raised
  split
  · exact Or.inl rfl
  · exact Or.inr rfl

/-- Apart from what cannot be written, only the error itself is raised for it. -/
theorem eq_of_raised {e e' : Error} (h : e.raised = e') (hne : e' ≠ .numeral .unwritable) :
    e = e' :=
  e.raised_cases.elim (fun he => he.symm.trans h) fun he => absurd (h.symm.trans he) hne

/-- A complaint about one clause, which opens the message in capitalized form. -/
def aboutClause (clause message : String) (field : Value) : Report :=
  .configuration (.text (Text.capitalize clause ++ ": " ++ message)) (.text clause) field

def report? : Error → Option Report
  | missingField clause field => some (.missingField clause (.text field))
  | notMapping clause given =>
    some (aboutClause clause ("Expected a mapping, got " ++ given.typeName) .null)
  | columnsNotMapping clause =>
    some (aboutClause clause "columns must map column names to values" (.text "columns"))
  | emptyTable clause => some (aboutClause clause "Empty table mapping" (.text "table"))
  | noStatement => some (.compilation (.text "Unknown query type") .null)
  | unknownOperator operator clause => some (.unknownOperator operator (optionalText clause))
  | unrecognisedCondition item =>
    some (.malformedCondition (.text ("Unrecognised condition: " ++ item.quoted)) item)
  | malformedOperand column operator value =>
    some (.malformedCondition
      (.text ("Operator " ++ operator.quoted ++ " needs a list value, got " ++ value.quoted))
      (.condition (.leaf column operator value)))
  | missingParameter position => some (.missingParameter (.text "?") (.int position))
  | malformedJson fault _ => some (.parsing (.text ("Invalid JSON: " ++ fault.message)))
  | invalidPayload _ _ => some (.parsing (.text "Query payload is invalid"))
  | _ => none

def message (e : Error) : String :=
  match e with
  | notIterable given => "'" ++ given.fullTypeName ++ "' object is not iterable"
  | notText index given =>
    "sequence item " ++ toString index ++ ": expected str instance, " ++ given.fullTypeName ++
      " found"
  | notCondition given => "Unsupported condition type: " ++ given.typeName
  | unhashable (.decimal _) => "Cannot hash a signaling NaN value."
  | unhashable given => "unhashable type: '" ++ given.fullTypeName ++ "'"
  | unknownKey key => key.quoted
  | unknownField owner field =>
    "\"" ++ owner ++ "\" object has no field \"" ++ field ++ "\""
  | numeral fault => fault.message
  | undecodable fault => fault.message
  | e => match e.report? with
    | some report => report.message
    | none => ""

/-- The faults of a value that does not have the shape it should have. -/
def faults? : Error → Option (List Schema.Fault)
  | invalidPayload faults _ => some faults
  | invalidFields faults => some faults
  | _ => none

/-- What was given to be read. -/
def source? : Error → Option Value
  | malformedJson _ source => some source
  | invalidPayload _ payload => some payload
  | _ => none

end Error

/-- Results can be tested for a value although errors cannot be told apart. -/
instance {α : Type} [DecidableEq α] (result : Except Error α) (a : α) :
    Decidable (result = .ok a) :=
  match result with
  | .ok b => decidable_of_iff (b = a) ⟨congrArg Except.ok, Except.ok.inj⟩
  | .error _ => .isFalse nofun

end SqlDraft
