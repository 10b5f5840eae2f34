import SqlDraft.Value.Display

/-!
The table names and aliases that a statement introduces, each once, in order of first mention.
-/
namespace SqlDraft

structure Identifiers where
  names : List String
  nodup : names.Nodup

namespace Identifiers

def empty : Identifiers := ⟨[], List.nodup_nil⟩

instance : Inhabited Identifiers := ⟨empty⟩

def contains (ids : Identifiers) (name : String) : Bool := decide (name ∈ ids.names)

def register (ids : Identifiers) (name : String) : Identifiers :=
  if h : name ∈ ids.names then ids
  else ⟨ids.names ++ [name], List.nodup_append.mpr ⟨ids.nodup, by simp, by
    intro x hx y hy he
    rw [List.mem_singleton] at hy
    exact h (hy ▸ he ▸ hx)⟩⟩

theorem mem_register (ids : Identifiers) (name x : String) :
    x ∈ (ids.register name).names ↔ x ∈ ids.names ∨ x = name := by
  unfold register
  split
  · next h => exact ⟨Or.inl, fun hx => hx.elim id fun he => he ▸ h⟩
  · simp

end Identifiers

end SqlDraft
