import Mathlib.Logic.Relation
import SqlDraft.Proofs.Declaring

/-!
What declarations store. Whatever a declaration does, and whether it fails or not, it changes the
draft in a few ways only, one after the other, so a property of drafts that each change keeps is
kept by every run.
-/
namespace SqlDraft

namespace Draft

/-- One thing that is stored. The names of a table are stored before the table is, or without it,
and a table that cannot be named has brought what was written of it. -/
inductive Change (d : Draft) : Draft → Prop where
  | names {ids : Identifiers} {clause : String} {spec : Value} {declared : Except Error TableRef}
      (h : TableRef.declare d.identifiers clause spec = (ids, declared)) :
      Change d { d with identifiers := ids }
  | statement {ids : Identifiers} {clause : String} {spec : Value} {s : Statement}
      (h : TableRef.declare d.identifiers clause spec = (ids, .ok s.table)) :
      Change d { d with identifiers := ids, statement := some s }
  | join {ids : Identifiers} {clause : String} {spec : Value} {join : Join}
      (h : TableRef.declare d.identifiers clause spec = (ids, .ok join.table)) :
      Change d { d with identifiers := ids, joins := d.joins ++ [join] }
  | filter (cs : List Condition) : Change d { d with filter := d.filter ++ cs }
  | having (cs : List Condition) : Change d { d with having := d.having ++ cs }
  | grouping (items : List Value) : Change d { d with grouping := d.grouping ++ items }
  | ordering (items : List Value) : Change d { d with ordering := d.ordering ++ items }
  | limit (text : String) : Change d { d with limit := some text }
  | params (v : Value) : Change d { d with params := (d.params.merge v).1 }

abbrev Changes : Draft → Draft → Prop := Relation.ReflTransGen Change

open Relation.ReflTransGen

/-- Conditions that can be read are put in their place, and others change nothing. -/
theorem draft_withConditions (d : Draft) (v : Value) (add : List Condition → Draft) :
    (d.withConditions v add).draft = d ∨ ∃ cs, (d.withConditions v add).draft = add cs := by
  simp only [withConditions]
  split
  · exact Or.inr ⟨_, rfl⟩
  · exact Or.inl rfl

theorem changes_withConditions (d : Draft) (v : Value) {add : List Condition → Draft}
    (hadd : ∀ cs, Change d (add cs)) : Changes d (d.withConditions v add).draft := by
  rcases draft_withConditions d v add with hsame | ⟨cs, hadded⟩
  · rw [hsame]
  · rw [hadded]
    exact single (hadd cs)

theorem changes_declareJoin (d : Draft) (spec : Value) : Changes d (d.declareJoin spec).draft := by
  rcases declareJoin_cases d spec with ⟨e, _, hjoin⟩ |
    ⟨type, tableSpec, conditions, ids, _, ⟨e, hnamed, hjoin⟩ | ⟨table, hnamed, hjoin⟩⟩
  · rw [hjoin]
    exact refl
  · rw [hjoin]
    exact single (.names hnamed)
  · rw [hjoin]
    rcases draft_withConditions { d with identifiers := ids } conditions
      (fun cs => { d with identifiers := ids, joins := d.joins ++ [⟨type, table, cs⟩] }) with
      hsame | ⟨cs, hadded⟩
    · rw [hsame]
      exact single (.names hnamed)
    · rw [hadded]
      exact single (.join hnamed)

theorem changes_declareEach (d : Draft) (specs : List Value) :
    Changes d (d.declareEach specs).draft := by
  induction specs generalizing d with
  | nil => exact refl
  | cons spec rest ih =>
    simp only [declareEach]
    split
    · exact changes_declareJoin d spec
    · exact (changes_declareJoin d spec).trans (ih _)

theorem changes_declareStatement (d : Draft) (kind : StatementKind) (payload : Value)
    (fields : List (String × Value)) :
    Changes d (d.declareStatement kind payload fields).draft := by
  rcases declareStatement_cases d kind payload fields with ⟨e, _, hrefused⟩ |
    ⟨head, ids, _, ⟨e, hnamed, hrefused⟩ |
      ⟨table, hnamed, ⟨e, _, _, hrefused⟩ | ⟨s, _, hs, hdeclared⟩⟩⟩
  · rw [hrefused]
    exact refl
  · rw [hrefused]
    exact single (.names hnamed)
  · rw [hrefused]
    exact single (.names hnamed)
  · rw [hdeclared]
    rw [← hs] at hnamed
    exact single (.statement hnamed)

theorem changes_declare (d : Draft) (a : Declaration) : Changes d (d.declare a).draft := by
  cases a with
  | statement kind payload fields => exact changes_declareStatement d kind payload fields
  | joins specs =>
    simp only [declare, declareJoins]
    split
    · exact changes_declareEach d _
    · exact refl
  | filter v => exact changes_withConditions d v .filter
  | having v => exact changes_withConditions d v .having
  | group v => exact single (.grouping v.asList)
  | order v => exact single (.ordering v.asList)
  | limit v =>
    simp only [declare, declareLimit]
    split
    · exact single (.limit _)
    · exact refl
    · exact refl
  | params v => exact single (.params v)

theorem changes_declareAll (d : Draft) (l : List Declaration) :
    Changes d (d.declareAll l).draft := by
  induction l generalizing d with
  | nil => exact refl
  | cons a rest ih =>
    simp only [declareAll]
    split
    · exact changes_declare d a
    · exact (changes_declare d a).trans (ih _)

theorem changes_proceed (d : Draft) (calls : List Declaration) : Changes d (d.proceed calls) := by
  induction calls generalizing d with
  | nil => exact refl
  | cons a rest ih => exact (changes_declare d a).trans (ih _)

/-- What each change keeps is kept by all of them together. -/
theorem Changes.preserve {P : Draft → Prop} (hchange : ∀ {d d'}, Change d d' → P d → P d')
    {d d' : Draft} (h : Changes d d') (hd : P d) : P d' := by
  induction h with
  | refl => exact hd
  | tail _ hlast ih => exact hchange hlast ih

/-- Whether a draft is strict is settled when it is made. -/
theorem Changes.strict_eq {d d' : Draft} (h : Changes d d') : d'.strict = d.strict :=
  h.preserve (P := fun other => other.strict = d.strict)
    (fun hchange hsame => by cases hchange <;> exact hsame) rfl

theorem strict_declare (d : Draft) (a : Declaration) : (d.declare a).draft.strict = d.strict :=
  (changes_declare d a).strict_eq

end Draft

end SqlDraft
