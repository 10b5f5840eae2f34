import SqlDraft.Draft.Building
import SqlDraft.Proofs.Naming

/-!
What is left of a declaration that fails. Most declarations are read to their end before the draft
changes, and fail without a trace. A statement names its table before INSERT and UPDATE look at
their columns, a join names its own before it reads its conditions, and a table that is cut short
has its name registered before its alias is found to be at fault. Joins are stored one by one, and
those before the one at fault stay.
-/
namespace SqlDraft

namespace TableRef

end TableRef

namespace Draft

variable {d : Draft} {e : Error}

/-- Joins up to one that fails have been declared. -/
theorem declareEach_failed {specs : List Value} (h : (d.declareEach specs).error = some e) :
    ∃ before spec after, specs = before ++ spec :: after ∧
      (d.declareEach before).error = none ∧
      ((d.declareEach before).draft.declareJoin spec).error = some e ∧
      (d.declareEach specs).draft = ((d.declareEach before).draft.declareJoin spec).draft := by
  induction specs generalizing d with
  | nil => simp [declareEach, done] at h
  | cons spec rest ih =>
    simp only [declareEach] at h ⊢
    cases hfirst : (d.declareJoin spec).error with
    | some fault =>
      simp only [hfirst] at h
      exact ⟨[], spec, rest, rfl, rfl, hfirst.trans h, rfl⟩
    | none =>
      -- The first join stands, and the one at fault is found from the draft that it leaves.
      simp only [hfirst] at h
      obtain ⟨before, spec', after, hsplit, hdone, hfault, hleft⟩ := ih h
      refine ⟨spec :: before, spec', after, by rw [hsplit]; rfl, ?_, ?_, ?_⟩
      all_goals simp only [declareEach, hfirst]
      · exact hdone
      · exact hfault
      · exact hleft

end Draft

end SqlDraft
