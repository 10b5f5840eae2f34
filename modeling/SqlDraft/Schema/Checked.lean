import SqlDraft.Schema.Fault

/-!
Results of checking a value: what was accepted, or every fault in order. Parts are checked
independently of one another, and their faults follow each other.
-/
namespace SqlDraft.Schema

abbrev Checked (α : Type) := Except (List Fault) α

namespace Checked

variable {α β γ : Type}

def fault (kind : FaultKind) : Checked α := .error (Fault.at kind)

/-- Faults of a part, placed in the whole. -/
def under (step : Step) (c : Checked α) : Checked α := c.mapError (Fault.under [step])

/-- Both results, or the faults of either. -/
def both (f : α → β → γ) : Checked α → Checked β → Checked γ
  | .ok a, .ok b => .ok (f a b)
  | .ok _, .error faults => .error faults
  | .error faults, .ok _ => .error faults
  | .error faults, .error others => .error (faults ++ others)

def all : List (Checked α) → Checked (List α)
  | [] => .ok []
  | c :: rest => both List.cons c (all rest)

/-- Items from the index `n` on. -/
def numbered : Nat → List (Checked α) → List (Checked α)
  | _, [] => []
  | n, c :: rest => c.under (.index n) :: numbered (n + 1) rest

def items (l : List (Checked α)) : Checked (List α) := all (numbered 0 l)

end Checked

end SqlDraft.Schema
