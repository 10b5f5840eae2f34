import SqlDraft.Text.Case
import SqlDraft.Value.Display

/-!
Reports of what went wrong, for callers: a kind with its code and more general kinds, a message,
and details by name.
-/
namespace SqlDraft

inductive ErrorKind where
  | general
  | parsing
  | configuration
  | compilation
  | unknownOperator
  | malformedCondition
  | missingParameter
deriving DecidableEq

namespace ErrorKind

def code : ErrorKind → String
  | general => "SIMPLESQL_ERROR"
  | parsing => "PARSE_ERROR"
  | configuration => "CONFIGURATION_ERROR"
  | compilation => "COMPILATION_ERROR"
  | unknownOperator => "UNKNOWN_OPERATOR"
  | malformedCondition => "MALFORMED_CONDITION"
  | missingParameter => "MISSING_PARAM"

/-- The kind itself and the more general ones, the most general last. -/
def lineage : ErrorKind → List ErrorKind
  | general => [general]
  | parsing => [parsing, general]
  | configuration => [configuration, general]
  | compilation => [compilation, general]
  | unknownOperator => [unknownOperator, compilation, general]
  | malformedCondition => [malformedCondition, compilation, general]
  | missingParameter => [missingParameter, compilation, general]

end ErrorKind

structure Report where
  kind : ErrorKind
  message : String
  details : List (String × Value)

namespace Report

/-- No message, one value as text, or several in parentheses. -/
def general (parts : List Value) : Report :=
  let message := match parts with
    | [] => ""
    | [part] => part.asText
    | parts => tupleOf (Value.quotedAll parts)
  ⟨.general, message, []⟩

def parsing (message : Value) : Report := ⟨.parsing, message.asText, []⟩

def configuration (message clause field : Value) : Report :=
  ⟨.configuration, message.asText, [("clause", clause), ("field", field)]⟩

def missingField (clause : String) (field : Value) : Report :=
  ⟨.configuration, Text.capitalize clause ++ ": Missing " ++ field.asText,
    [("clause", .text clause), ("field", field)]⟩

def compilation (message clause : Value) : Report :=
  ⟨.compilation, message.asText, [("clause", clause)]⟩

def unknownOperator (operator clause : Value) : Report :=
  ⟨.unknownOperator, "Condition: Unknown operator " ++ operator.quoted,
    [("clause", clause), ("operator", operator)]⟩

def malformedCondition (message condition : Value) : Report :=
  ⟨.malformedCondition, message.asText, [("condition", .text condition.quoted)]⟩

def missingParameter (placeholder position : Value) : Report :=
  let place := match position with
    | .null => "."
    | v => " at position " ++ v.asText ++ "."
  ⟨.missingParameter, "No parameter supplied for placeholder '" ++ placeholder.asText ++ "'" ++
      place, [("placeholder", placeholder), ("position", position)]⟩

end Report

end SqlDraft
