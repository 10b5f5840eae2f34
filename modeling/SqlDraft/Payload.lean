import SqlDraft.Draft.Building
import SqlDraft.Schema.Shape
import SqlDraft.Value.Unfolding

/-!
A whole statement as one mapping from clauses to what is declared of them, given as such or as
JSON. The clauses that are there and not null are declared in a fixed order on an empty draft,
which is then built.
-/
namespace SqlDraft

namespace Payload

def decode (payload : Value) : Except Error Value :=
  let read (result : Except Json.ReadError Value) : Except Error Value := match result with
    | .ok v => .ok v
    | .error (.malformed fault) => .error (.malformedJson fault payload)
    | .error (.numeral fault) => .error (.numeral fault)
    | .error (.undecodable fault) => .error (.undecodable fault)
  match payload with
  | .text s => read (Json.read s)
  | .octets bytes => read (Json.readOctets bytes)
  | v => .ok v

def check (payload : Value) : Except Error (List (Value × Value)) :=
  match Schema.Shape.query.check payload with
  | .ok (.dict entries) => .ok entries
  | .ok _ => .ok []
  | .error faults => .error (.invalidPayload faults payload)

/-- What each clause declares, in the order of declaration. -/
def clauses : List (String × (Value → Declaration)) := [
  ("select", fun v => .statement .select v.unfolded []),
  ("insert", fun v => .statement .insert v.unfolded []),
  ("update", fun v => .statement .update v.unfolded []),
  ("delete", fun v => .statement .delete v.unfolded []),
  ("joins", fun v => .joins v.unfolded),
  ("where", .filter),
  ("having", .having),
  ("order", .order),
  ("group", .group),
  ("limit", .limit),
  ("params", .params)]

def declaration? (entries : List (Value × Value)) (clause : String × (Value → Declaration)) :
    Option Declaration :=
  match Value.entry? clause.1 entries with
  | none => none
  | some .null => none
  | some v => some (clause.2 v)

def declarations (entries : List (Value × Value)) : List Declaration :=
  clauses.filterMap (declaration? entries)

/-- Declares everything on an empty draft and builds it. -/
def run (strict : Bool) (operators : OperatorTable) (all : List Declaration) :
    Except Error String × List Notice :=
  let outcome := (Draft.empty strict).declareAll all
  match outcome.error with
  | some e => (.error e, outcome.notices)
  | none =>
    let (result, notices) := outcome.draft.build operators
    (result, outcome.notices ++ notices)

def build (strict : Bool) (operators : OperatorTable) (payload : Value) :
    Except Error String × List Notice :=
  match decode payload >>= check with
  | .ok entries => run strict operators (declarations entries)
  | .error e => (.error e, [])

end Payload

end SqlDraft
