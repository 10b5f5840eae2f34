import SqlDraft.Error
import SqlDraft.Operand

/-!
Tables of a draft. A table is declared by its name, or by a mapping from its name to an alias, of
which the first entry counts. Names and aliases become identifiers before they are quoted, and a
name stays one where the alias behind it cannot be written.
-/
namespace SqlDraft

structure TableRef where
  name : String
  aliasName : Option String

namespace TableRef

/-- An empty alias is none. -/
def aliasName? (t : TableRef) : Option String :=
  t.aliasName.filter (· ≠ "")

def render (t : TableRef) : String :=
  match t.aliasName? with
  | some name => t.name ++ " AS " ++ name
  | none => t.name

/-- The identifiers after the declaration, and the table or why there is none. -/
def declare (ids : Identifiers) (clause : String) : Value → Identifiers × Except Error TableRef
  | .dict [] => (ids, .error (.emptyTable clause))
  | .dict ((name, other) :: _) =>
    match name.write with
    | .error fault => (ids, .error (.numeral fault))
    | .ok nameText =>
      let ids := ids.register nameText
      match other.write with
      | .error fault => (ids, .error (.numeral fault))
      | .ok otherText =>
        let ids := ids.register otherText
        (ids, .ok ⟨ids.quote nameText true, some (ids.quote otherText true)⟩)
  | v =>
    match v.write with
    | .error fault => (ids, .error (.numeral fault))
    | .ok text =>
      let ids := ids.register text
      (ids, .ok ⟨ids.quote text true, none⟩)

theorem declare_bare (ids : Identifiers) (clause : String) {v : Value}
    (hv : ∀ entries, v ≠ .dict entries) : declare ids clause v = match v.write with
      | .error fault => (ids, .error (.numeral fault))
      | .ok text => (ids.register text, .ok ⟨(ids.register text).quote text true, none⟩) := by
  cases v with
  | dict entries => exact absurd rfl (hv entries)
  | _ => rfl

end TableRef

end SqlDraft
