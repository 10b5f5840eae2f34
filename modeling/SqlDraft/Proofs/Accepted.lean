import SqlDraft.Proofs.Failures
import SqlDraft.Proofs.Payload
import SqlDraft.Proofs.Reported
import SqlDraft.Proofs.SameButTables

/-!
What a payload that was accepted declares. Everything that is to be listed is, and the assignments
on duplicate keys are texts, also in the draft that the declarations lead to.
-/
namespace SqlDraft

def Head.duplicateList (head : Head) : List Value :=
  if head.duplicates.isTrue then head.duplicates.asList else []

/-- The assignments that a declaration brings. -/
def Declaration.duplicates : Declaration → List Value
  | statement kind payload fields =>
    match Head.read kind payload fields with
    | .ok head => head.duplicateList
    | .error _ => []
  | _ => []

theorem Head.duplicates_statement {head : Head} {kind : StatementKind} {table : TableRef}
    {s : Statement} (h : head.statement kind table = .ok s) :
    ∀ v ∈ s.duplicates, v ∈ head.duplicateList := by
  intro v hv
  cases kind with
  | insert =>
    dsimp only [statement] at h
    cases hcolumns : assignments StatementKind.insert.name head.columns with
    | error e =>
      rw [hcolumns] at h
      cases h
    | ok columns =>
      rw [hcolumns] at h
      cases h
      exact hv
  | update =>
    dsimp only [statement] at h
    cases hcolumns : assignments StatementKind.update.name head.columns with
    | error e =>
      rw [hcolumns] at h
      cases h
    | ok columns =>
      rw [hcolumns] at h
      cases h
      cases hv
  | _ =>
    cases h
    cases hv

namespace Draft

theorem duplicates_declare (d : Draft) (a : Declaration) :
    ∀ v ∈ (d.declare a).draft.duplicates, v ∈ d.duplicates ∨ v ∈ a.duplicates := by
  intro v hv
  have hsame (hstatement : (d.declare a).draft.statement = d.statement) :
      v ∈ d.duplicates ∨ v ∈ a.duplicates := by
    unfold duplicates at hv ⊢
    rw [hstatement] at hv
    exact Or.inl hv
  cases a with
  | statement kind payload fields =>
    simp only [declare] at hv hsame
    rcases declareStatement_cases d kind payload fields with
      ⟨e, _, hrefused⟩ | ⟨head, ids, hhead, ⟨e, _, hrefused⟩ |
        ⟨t, _, ⟨e, _, _, hrefused⟩ | ⟨s, hs, _, hdeclared⟩⟩⟩
    · exact hsame (by rw [hrefused]; rfl)
    · exact hsame (by rw [hrefused]; rfl)
    · exact hsame (by rw [hrefused]; rfl)
    · rw [hdeclared] at hv
      simp only [Declaration.duplicates, hhead]
      exact Or.inr (Head.duplicates_statement hs v hv)
  | joins specs => exact hsame (statement_declare_joins d specs)
  | _ => exact hsame (tables_declare d (by simp [Declaration.part])).2.1

theorem duplicates_declareAll (d : Draft) (all : List Declaration) :
    ∀ v ∈ (d.declareAll all).draft.duplicates,
      v ∈ d.duplicates ∨ ∃ a ∈ all, v ∈ a.duplicates := by
  induction all generalizing d with
  | nil =>
    intro v hv
    exact Or.inl hv
  | cons a rest ih =>
    intro v hv
    have hfirst := duplicates_declare d a v
    simp only [declareAll] at hv
    split at hv
    · exact (hfirst hv).imp_right fun ha => ⟨a, List.mem_cons_self, ha⟩
    · rcases ih (d.declare a).draft v hv with hv | ⟨b, hb, hv⟩
      · exact (hfirst hv).imp_right fun ha => ⟨a, List.mem_cons_self, ha⟩
      · exact Or.inr ⟨b, List.mem_cons_of_mem a hb, hv⟩

end Draft

namespace Schema.Shape

open Checked

theorem exists_list_of_check {item : Shape} {v w : Value} (h : (list item).check v = .ok w) :
    ∃ ws, w = .list ws ∧ ∀ u ∈ ws, ∃ x, item.check x = .ok u := by
  obtain ⟨items, ws, -, rfl, hws⟩ := check_list_eq_ok h
  refine ⟨ws, rfl, ?_⟩
  clear h
  induction hws with
  | nil => exact List.forall_mem_nil _
  | cons hfirst _ ih => exact List.forall_mem_cons.mpr ⟨⟨_, hfirst⟩, ih⟩

theorem check_optional_eq_ok {s : Shape} {v w : Value} (h : (optional s).check v = .ok w) :
    w = .null ∨ s.check v = .ok w := by
  cases v with
  | null =>
    cases h
    exact Or.inl rfl
  | _ => exact Or.inr h

/-- A list of texts that may be left out. -/
theorem texts_of_check {v w : Value} (h : (optional (list text)).check v = .ok w) :
    w = .null ∨ ∃ ws, w = .list ws ∧ ∀ u ∈ ws, ∃ s, u = .text s := by
  rcases check_optional_eq_ok h with hnull | hlist
  · exact Or.inl hnull
  · obtain ⟨ws, rfl, hws⟩ := exists_list_of_check hlist
    refine Or.inr ⟨ws, rfl, fun u hu => ?_⟩
    obtain ⟨x, hx⟩ := hws u hu
    obtain ⟨s, -, rfl⟩ := map_eq_ok hx
    exact ⟨s, rfl⟩

end Schema.Shape

theorem Value.unfoldedAll_of_texts {ws : List Value} (h : ∀ u ∈ ws, ∃ s, u = .text s) :
    unfoldedAll ws = ws := by
  induction ws with
  | nil => rfl
  | cons u rest ih =>
    obtain ⟨⟨s, rfl⟩, hrest⟩ := List.forall_mem_cons.mp h
    rw [unfoldedAll, ih hrest]
    rfl

open Schema

/-- What a declaration of an accepted payload is like. -/
structure Declaration.Sound (a : Declaration) : Prop where
  listed : a.Listed
  duplicates : ∀ v ∈ a.duplicates, ∃ s, v = .text s

theorem Declaration.Sound.of_duplicates_nil {a : Declaration} (hlisted : a.Listed)
    (h : a.duplicates = []) : a.Sound := by
  refine ⟨hlisted, ?_⟩
  rw [h]
  exact List.forall_mem_nil _

theorem Head.duplicates_of_read {kind : StatementKind} {entries : List (Value × Value)}
    {head : Head} (h : read kind (.dict entries) [] = .ok head) :
    head.duplicates = (Value.entry? "duplicates" entries).getD .null := by
  obtain ⟨f, hf, h⟩ := Json.bind_eq_ok h
  cases hf
  obtain ⟨table, -, h⟩ := Json.bind_eq_ok h
  dsimp only at h
  split at h
  · cases h
    rfl
  · obtain ⟨columns, -, h⟩ := Json.bind_eq_ok h
    cases h
    rfl

namespace Payload

open Shape

theorem sound_statement (kind : StatementKind) {v w : Value}
    (h : Shape.statement.check v = .ok w) : (Declaration.statement kind w.unfolded []).Sound := by
  obtain ⟨entries, checked, -, rfl, hfields⟩ := check_record_eq_ok h
  refine ⟨trivial, ?_⟩
  intro u hu
  simp only [Declaration.duplicates, Value.unfolded] at hu
  split at hu
  · next head hhead =>
    have hduplicates := Head.duplicates_of_read hhead
    rw [Value.entry?_unfoldedEntries] at hduplicates
    have htexts : head.duplicates = .null ∨
        ∃ ws, head.duplicates = .list ws ∧ ∀ u ∈ ws, ∃ s, u = .text s := by
      rcases entry?_checkFields (by decide) hfields (List.mem_cons_of_mem _
        (List.mem_cons_of_mem _ List.mem_cons_self)) with ⟨-, hnone⟩ | ⟨x, y, -, hcheck, hy⟩
      · rw [hnone] at hduplicates
        exact Or.inl hduplicates
      · rw [hy] at hduplicates
        rcases texts_of_check hcheck with rfl | ⟨ws, rfl, hws⟩
        · exact Or.inl hduplicates
        · refine Or.inr ⟨ws, ?_, hws⟩
          rw [hduplicates, Option.map_some, Option.getD_some, Value.unfolded,
            Value.unfoldedAll_of_texts hws]
    unfold Head.duplicateList at hu
    rcases htexts with hnull | ⟨ws, hlist, hws⟩
    · rw [hnull] at hu
      cases hu
    · rw [hlist] at hu
      split at hu
      · exact hws u hu
      · cases hu
  · cases hu

theorem sound_joins {v w : Value} (h : (list Shape.join).check v = .ok w) :
    (Declaration.joins w.unfolded).Sound := by
  obtain ⟨ws, rfl, -⟩ := exists_list_of_check h
  exact .of_duplicates_nil (Option.some_ne_none _) rfl

theorem sound_items {v w : Value} (h : (list any).check v = .ok w) :
    (Declaration.filter w).Sound ∧ (Declaration.having w).Sound ∧ (Declaration.order w).Sound ∧
      (Declaration.group w).Sound := by
  obtain ⟨ws, rfl, -⟩ := exists_list_of_check h
  have hlisted : Condition.listed? (.list ws) ≠ none := Option.some_ne_none _
  exact ⟨.of_duplicates_nil hlisted rfl, .of_duplicates_nil hlisted rfl,
    .of_duplicates_nil trivial rfl, .of_duplicates_nil trivial rfl⟩

theorem sound_params {v w : Value} (h : Shape.params.check v = .ok w) :
    (Declaration.params w).Sound := by
  rcases check_params_eq_ok h with ⟨ws, rfl⟩ | ⟨entries, rfl⟩
  · exact .of_duplicates_nil (Option.some_ne_none _) rfl
  · exact .of_duplicates_nil (Option.some_ne_none _) rfl

/-- What is declared was accepted in the shape of its clause. -/
theorem exists_check_of_declaration? {entries checked : List (Value × Value)}
    (h : checkFields Shape.query.fields entries = .ok checked) {name : String} {shape : Shape}
    {f : Value → Declaration} (hfield : (name, optional shape) ∈ Shape.query.fields)
    {a : Declaration} (ha : declaration? checked (name, f) = some a) :
    ∃ v w, shape.check v = .ok w ∧ a = f w := by
  obtain ⟨w, hw, hnull, rfl⟩ := declaration?_eq_some_iff.mp ha
  rcases checked_clause_cases h hfield with ⟨-, hnone⟩ | ⟨v, w', -, -, hcheck, hw'⟩
  · rw [hw] at hnone
    exact absurd hnone hnull
  · rw [hw'] at hw
    cases hw
    exact ⟨v, w, hcheck, rfl⟩

/-- What an accepted payload declares is listed where it is to be, and assigns texts on duplicate
keys. -/
theorem sound_of_mem {p : Value} {checked : List (Value × Value)} (h : check p = .ok checked) :
    ∀ a ∈ declarations checked, a.Sound := by
  obtain ⟨entries, -, hfields⟩ := check_eq_ok h
  intro a ha
  obtain ⟨clause, hclause, hdeclared⟩ := List.mem_filterMap.mp ha
  simp only [clauses, List.mem_cons, List.not_mem_nil, or_false] at hclause
  have hstatement {name : String} (kind : StatementKind)
      (hfield : (name, optional Shape.statement) ∈ Shape.query.fields)
      (hdeclared : declaration? checked (name, fun v => .statement kind v.unfolded []) = some a) :
      a.Sound := by
    obtain ⟨v, w, hcheck, rfl⟩ := exists_check_of_declaration? hfields hfield hdeclared
    exact sound_statement kind hcheck
  have hitems {name : String} {f : Value → Declaration}
      (hfield : (name, optional (list any)) ∈ Shape.query.fields)
      (hdeclared : declaration? checked (name, f) = some a) :
      ∃ w, a = f w ∧ (Declaration.filter w).Sound ∧ (Declaration.having w).Sound ∧
        (Declaration.order w).Sound ∧ (Declaration.group w).Sound := by
    obtain ⟨v, w, hcheck, rfl⟩ := exists_check_of_declaration? hfields hfield hdeclared
    exact ⟨w, rfl, sound_items hcheck⟩
  rcases hclause with rfl | rfl | rfl | rfl | rfl | rfl | rfl | rfl | rfl | rfl | rfl
  · exact hstatement .select (by simp [fields, Shape.query]) hdeclared
  · exact hstatement .insert (by simp [fields, Shape.query]) hdeclared
  · exact hstatement .update (by simp [fields, Shape.query]) hdeclared
  · exact hstatement .delete (by simp [fields, Shape.query]) hdeclared
  · have hfield : ("joins", optional (list Shape.join)) ∈ Shape.query.fields := by
      simp [fields, Shape.query]
    obtain ⟨v, w, hcheck, rfl⟩ := exists_check_of_declaration? hfields hfield hdeclared
    exact sound_joins hcheck
  · obtain ⟨w, rfl, hfilter, -, -, -⟩ := hitems (by simp [fields, Shape.query]) hdeclared
    exact hfilter
  · obtain ⟨w, rfl, -, hhaving, -, -⟩ := hitems (by simp [fields, Shape.query]) hdeclared
    exact hhaving
  · obtain ⟨w, rfl, -, -, horder, -⟩ := hitems (by simp [fields, Shape.query]) hdeclared
    exact horder
  · obtain ⟨w, rfl, -, -, -, hgroup⟩ := hitems (by simp [fields, Shape.query]) hdeclared
    exact hgroup
  · have hfield : ("limit", optional Shape.limit) ∈ Shape.query.fields := by
      simp [fields, Shape.query]
    obtain ⟨v, w, -, rfl⟩ := exists_check_of_declaration? hfields hfield hdeclared
    exact .of_duplicates_nil trivial rfl
  · have hfield : ("params", optional Shape.params) ∈ Shape.query.fields := by
      simp [fields, Shape.query]
    obtain ⟨v, w, hcheck, rfl⟩ := exists_check_of_declaration? hfields hfield hdeclared
    exact sound_params hcheck

end Payload

end SqlDraft
