import SqlDraft.Schema.Scalar

/-!
Mappings with known fields. The faults of the fields come first, in the order of the fields, and
those of other keys after them, in the order of the mapping. Only a text names a field.
-/
namespace SqlDraft.Schema

def otherKey (names : List String) (key : Value) : List Fault :=
  match key with
  | .text s => if s ∈ names then [] else [⟨[.name s], .extraForbidden⟩]
  | _ => [⟨[Step.ofKey key], .invalidKey⟩]

def otherKeys (names : List String) (entries : List (Value × Value)) : List Fault :=
  entries.flatMap fun e => otherKey names e.1

/-- Nothing but the fields may be there. -/
def closed {α : Type} (names : List String) (entries : List (Value × Value)) (c : Checked α) :
    Checked α :=
  let rest : Checked Unit := match otherKeys names entries with
    | [] => .ok ()
    | faults => .error faults
  Checked.both (fun a _ => a) c rest

def requiredField {α : Type} (name : String) : Option (Checked α) → Checked α
  | some c => c.under (.name name)
  | none => .error [⟨[.name name], .missing⟩]

end SqlDraft.Schema
