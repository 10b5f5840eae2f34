import SqlDraft.Proofs.Accepted
import SqlDraft.Proofs.Interleaving
import SqlDraft.Proofs.Unfolding

/-!
The conditions that an accepted payload leaves in the draft. Those of WHERE and HAVING are read of
the items as they were given. A join is unfolded before its conditions are read, so what it keeps of
them is what is read of the unfolded items: conditions that are such already are left out.
-/
namespace SqlDraft

/-- What is read of a value as conditions: its items, or the value as the only one. -/
def Condition.given (v : Value) : List Value := (listed? v).getD []

theorem Condition.given_unfolded_iff (v : Value) :
    (readAll (given v.unfolded)).1 = (readAll (given v)).1 ↔ allKept (given v) = true := by
  cases v with
  | list items => exact (readAll_unfolded items).2
  | tuple items => exact (readAll_unfolded items).2
  | dict entries => exact (readAll_unfolded [.dict entries]).2
  | text s => exact (readAll_unfolded [.text s]).2
  | octets bytes =>
    have hsame : Value.unfoldedAll (given (.octets bytes)) = given (.octets bytes) := by
      refine Value.unfoldedAll_eq fun v hv => ?_
      obtain ⟨b, -, rfl⟩ := List.mem_map.mp hv
      rfl
    have hkept := (readAll_unfolded (given (.octets bytes))).2
    rwa [hsame] at hkept
  | condition c =>
    -- A condition alone is read by its named parts, none of which is a condition.
    have hunfolded : (readAll (given (Value.condition c).unfolded)).1 = [] := by
      change (read (Value.condition c).unfolded).1.toList ++ [] = []
      rw [read_unfolded_condition]
      rfl
    rw [hunfolded]
    cases c <;> exact iff_of_true rfl rfl
  | _ => exact iff_of_true rfl rfl

/-- The conditions that a join is given with. -/
def Payload.joinConditions (spec : Value) : Value :=
  (Value.entry? "conditions" (members spec)).getD .null

/-- The conditions of each of the joins that a declaration adds. -/
def Declaration.joinConditions : Declaration → List (List Condition)
  | joins v => ((Draft.joinSpecs? v).getD []).map fun spec =>
    (Condition.readAll (Condition.given (Payload.joinConditions spec))).1
  | _ => []

namespace Draft

theorem readJoin_conditions {spec type table conditions : Value}
    (h : readJoin spec = .ok (type, table, conditions)) :
    Payload.joinConditions spec = conditions := by
  obtain ⟨fields, hfields, h⟩ := Json.bind_eq_ok h
  obtain ⟨_, -, h⟩ := Json.bind_eq_ok h
  obtain ⟨_, -, h⟩ := Json.bind_eq_ok h
  obtain ⟨given, hgiven, h⟩ := Json.bind_eq_ok h
  cases h
  have hentries : fields.entries = Payload.members spec := by
    cases spec <;> cases hfields <;> rfl
  unfold Fields.require Fields.get? at hgiven
  rw [hentries] at hgiven
  unfold Payload.joinConditions
  cases hlookup : Value.entry? "conditions" (Payload.members spec) with
  | none =>
    rw [hlookup] at hgiven
    cases hgiven
  | some v =>
    rw [hlookup] at hgiven
    cases hgiven
    rfl

theorem declareJoin_conditions {d : Draft} {spec : Value} (h : (d.declareJoin spec).error = none) :
    (d.declareJoin spec).draft.joins.map Join.conditions = d.joins.map Join.conditions ++
      [(Condition.readAll (Condition.given (Payload.joinConditions spec))).1] := by
  rcases declareJoin_cases d spec with ⟨e, -, hjoin⟩ |
    ⟨type, _, conditions, ids, hspec, ⟨e, -, hjoin⟩ | ⟨table, -, hjoin⟩⟩
  · rw [hjoin] at h
    cases h
  · rw [hjoin] at h
    cases h
  · rw [hjoin] at h ⊢
    obtain ⟨items, hlisted, -, hadded⟩ := (withConditions_done_iff _ _ conditions _).mp ⟨h, rfl⟩
    have hgiven : Condition.given conditions = items := congrArg (Option.getD · []) hlisted
    rw [← hadded, readJoin_conditions hspec, hgiven, List.map_append]
    rfl

theorem declareEach_conditions {d : Draft} {specs : List Value}
    (h : (d.declareEach specs).error = none) :
    (d.declareEach specs).draft.joins.map Join.conditions = d.joins.map Join.conditions ++
      specs.map fun spec =>
        (Condition.readAll (Condition.given (Payload.joinConditions spec))).1 := by
  induction specs generalizing d with
  | nil => exact (List.append_nil _).symm
  | cons spec rest ih =>
    simp only [declareEach] at h ⊢
    cases hfirst : (d.declareJoin spec).error with
    | some e => simp [hfirst] at h
    | none =>
      simp only [hfirst] at h ⊢
      rw [ih h, declareJoin_conditions hfirst, List.append_assoc]
      rfl

/-- A declaration that does not fail puts its joins behind those that are there. -/
theorem declare_conditions {d : Draft} {a : Declaration} (h : (d.declare a).error = none) :
    (d.declare a).draft.joins.map Join.conditions =
      d.joins.map Join.conditions ++ a.joinConditions := by
  have hsame (hjoins : (d.declare a).draft.joins = d.joins) (hnone : a.joinConditions = []) :
      (d.declare a).draft.joins.map Join.conditions =
        d.joins.map Join.conditions ++ a.joinConditions := by
    rw [hjoins, hnone, List.append_nil]
  cases a with
  | statement kind payload fields =>
    obtain ⟨ids, s, hdraft⟩ := draft_declareStatement d kind payload fields
    have hjoins : (d.declareStatement kind payload fields).draft.joins = d.joins := by rw [hdraft]
    exact hsame hjoins rfl
  | joins v =>
    simp only [declare, declareJoins, Declaration.joinConditions] at h ⊢
    cases hspecs : joinSpecs? v with
    | none =>
      rw [hspecs] at h
      cases h
    | some specs =>
      rw [hspecs] at h
      exact declareEach_conditions h
  | _ => exact hsame (tables_declare d (by simp [Declaration.part])).2.2 rfl

namespace Run

variable {d d' : Draft} {calls : List Declaration}

theorem joins_conditions (h : d.Run calls d') :
    d'.joins.map Join.conditions =
      d.joins.map Join.conditions ++ calls.flatMap Declaration.joinConditions := by
  induction h with
  | nil d => exact (List.append_nil _).symm
  | cons hfirst _ ih =>
    rw [ih, declare_conditions hfirst, List.append_assoc]
    rfl

/-- A part that is a list of conditions has those that are read of all items declared for it. -/
theorem added (h : d.Run calls d') {part : Part} {call : Value → Declaration}
    (hcall : part.call? = some call) (add : Draft → List Condition → Draft)
    (hdeclare : ∀ (d : Draft) v, d.declare (call v) = d.withConditions v (add d)) :
    d'.only part = add (d.only part) (Condition.readAll (part.items calls)).1 := by
  have hone := (run_singleton_iff _ _ _).mp (h.gathered hcall)
  rw [hdeclare] at hone
  obtain ⟨items, hlisted, -, hadded⟩ := (withConditions_done_iff _ _ _ _).mp hone
  cases hlisted
  exact hadded.symm

theorem filter_eq (h : d.Run calls d') :
    d'.filter = d.filter ++ (Condition.readAll (Part.filter.items calls)).1 := by
  have hcall : Part.filter.call? = some .filter := rfl
  have hadded := h.added hcall (fun d cs => { d with filter := d.filter ++ cs }) fun _ _ => rfl
  exact congrArg Draft.filter hadded

theorem having_eq (h : d.Run calls d') :
    d'.having = d.having ++ (Condition.readAll (Part.having.items calls)).1 := by
  have hcall : Part.having.call? = some .having := rfl
  have hadded := h.added hcall (fun d cs => { d with having := d.having ++ cs }) fun _ _ => rfl
  exact congrArg Draft.having hadded

end Run

end Draft

theorem Part.items_eq_flatMap (part : Part) (calls : List Declaration) :
    part.items calls = calls.flatMap fun a => if a.part = part then a.items else [] := by
  unfold items
  induction calls with
  | nil => rfl
  | cons a rest ih =>
    rw [List.flatMap_cons, ← ih]
    by_cases hpart : a.part = part
    · subst hpart
      rw [of_cons_self, if_pos rfl, List.flatMap_cons]
    · rw [of_cons_of_ne hpart, if_neg hpart, List.nil_append]

namespace Payload

open Schema Shape

/-- The items of what stands under a name. -/
def items (name : String) (p : Value) : List Value :=
  ((Value.entry? name (members p)).bind listItems?).getD []

/-- Where only the declarations of one clause add something, they add all of it. -/
theorem flatMap_declarations {β : Type} (g : Declaration → List β)
    (before : List (String × (Value → Declaration))) (clause : String × (Value → Declaration))
    (after : List (String × (Value → Declaration))) (hclauses : clauses = before ++ clause :: after)
    (hbefore : ∀ other ∈ before, ∀ v, g (other.2 v) = [])
    (hafter : ∀ other ∈ after, ∀ v, g (other.2 v) = []) (entries : List (Value × Value)) :
    (declarations entries).flatMap g = (declaration? entries clause).toList.flatMap g := by
  have hnone (l : List (String × (Value → Declaration)))
      (hl : ∀ other ∈ l, ∀ v, g (other.2 v) = []) :
      (l.filterMap (declaration? entries)).flatMap g = [] := by
    rw [List.flatMap_eq_nil_iff]
    intro a ha
    obtain ⟨other, hother, hdeclared⟩ := List.mem_filterMap.mp ha
    obtain ⟨v, -, -, rfl⟩ := declaration?_eq_some_iff.mp hdeclared
    exact hl other hother v
  unfold declarations
  rw [hclauses, List.filterMap_append, List.flatMap_append, hnone before hbefore, List.nil_append,
    List.filterMap_cons]
  cases declaration? entries clause with
  | none => exact hnone after hafter
  | some a =>
    rw [Option.toList_some, List.flatMap_cons, hnone after hafter]
    rfl

section

variable {p : Value} {checked : List (Value × Value)} (h : check p = .ok checked)

include h

/-- A list that was accepted is declared with its items checked one by one. -/
theorem declaration?_list {name : String} {item : Shape} (f : Value → Declaration)
    (hfield : (name, optional (list item)) ∈ Shape.query.fields) :
    (items name p = [] ∧ declaration? checked (name, f) = none) ∨
      ∃ ws, List.Forall₂ (fun v w => item.check v = .ok w) (items name p) ws ∧
        declaration? checked (name, f) = some (f (.list ws)) := by
  obtain ⟨entries, rfl, hfields⟩ := check_eq_ok h
  unfold items members
  rcases checked_clause_cases hfields hfield with ⟨hnull, hnull'⟩ | ⟨v, w, hv, -, hcheck, hw⟩
  · refine Or.inl ⟨?_, declaration?_of_null hnull' f⟩
    cases hv : Value.entry? name entries with
    | none => rfl
    | some v =>
      rw [hv, Option.getD_some] at hnull
      rw [hnull]
      rfl
  · obtain ⟨given, ws, hgiven, rfl, hws⟩ := check_list_eq_ok hcheck
    refine Or.inr ⟨ws, ?_, declaration?_of_lookup f hw (by simp)⟩
    rw [hv, Option.bind_some, hgiven]
    exact hws

/-- A list of anything is declared as it is. -/
theorem flatMap_items {name : String} {f : Value → Declaration} (g : Declaration → List Value)
    (hfield : (name, optional (list any)) ∈ Shape.query.fields)
    (hg : ∀ ws, g (f (.list ws)) = ws) :
    (declaration? checked (name, f)).toList.flatMap g = items name p := by
  rcases declaration?_list h f hfield with ⟨hnone, hdeclared⟩ | ⟨ws, hws, hdeclared⟩
  · rw [hdeclared, hnone]
    rfl
  · have hsame : items name p = ws :=
      List.forall₂_eq_eq_eq ▸ hws.imp fun _ _ hcheck => Except.ok.inj hcheck
    rw [hdeclared, hsame, Option.toList_some, List.flatMap_singleton, hg]

/-- Joins are declared with everything in them unfolded. -/
theorem flatMap_joins :
    (declaration? checked ("joins", fun v => .joins v.unfolded)).toList.flatMap
        Declaration.joinConditions =
      (items "joins" p).map fun spec =>
        (Condition.readAll (Condition.given (joinConditions spec).unfolded)).1 := by
  have hfield : ("joins", optional (list Shape.join)) ∈ Shape.query.fields := by
    simp [fields, Shape.query]
  rcases declaration?_list h (fun v => .joins v.unfolded) hfield with
    ⟨hnone, hdeclared⟩ | ⟨ws, hws, hdeclared⟩
  · rw [hdeclared, hnone]
    rfl
  · rw [hdeclared, Option.toList_some, List.flatMap_singleton]
    change (Value.unfoldedAll ws).map _ = _
    clear hdeclared
    generalize items "joins" p = specs at hws
    induction hws with
    | nil => rfl
    | @cons spec w specs ws hspec _ ih =>
      have hconditions : joinConditions w.unfolded = (joinConditions spec).unfolded := by
        obtain ⟨entries, given, rfl, rfl, hfields⟩ := check_record_eq_ok hspec
        have hany : ("conditions", any) ∈ Shape.join.fields := by simp [fields, Shape.join]
        have hlookup : Value.entry? "conditions" given = Value.entry? "conditions" entries := by
          rcases entry?_checkFields (by decide) hfields hany with
            ⟨hnone, hnone'⟩ | ⟨v, v', hv, hcheck, hv'⟩
          · rw [hnone, hnone']
          · cases hcheck
            rw [hv, hv']
        simp only [joinConditions, Value.unfolded, members, Value.entry?_unfoldedEntries, hlookup]
        cases Value.entry? "conditions" entries <;> rfl
      rw [Value.unfoldedAll, List.map_cons, List.map_cons, ih, hconditions]

end

/-- An accepted payload leaves the conditions that are read of WHERE and HAVING as they were given,
and those that are read of each join once it is unfolded. These are the ones that were given with
the joins exactly if each item of theirs is kept. -/
theorem stored_conditions (strict : Bool) {p : Value} {checked : List (Value × Value)}
    (hcheck : check p = .ok checked)
    (hdone : ((Draft.empty strict).declareAll (declarations checked)).error = none) :
    let d := ((Draft.empty strict).declareAll (declarations checked)).draft
    d.filter = (Condition.readAll (items "where" p)).1 ∧
      d.having = (Condition.readAll (items "having" p)).1 ∧
      d.joins.map Join.conditions = (items "joins" p).map (fun spec =>
        (Condition.readAll (Condition.given (joinConditions spec).unfolded)).1) ∧
      (d.joins.map Join.conditions = (items "joins" p).map (fun spec =>
          (Condition.readAll (Condition.given (joinConditions spec))).1) ↔
        ∀ spec ∈ items "joins" p,
          Condition.allKept (Condition.given (joinConditions spec)) = true) := by
  intro d
  have hrun : (Draft.empty strict).Run (declarations checked) d :=
    (Draft.run_iff _ _ _).mpr ⟨hdone, rfl⟩
  have hfilter : Part.filter.items (declarations checked) = items "where" p := by
    rw [Part.items_eq_flatMap, flatMap_declarations _ (clauses.take 5) ("where", .filter)
      (clauses.drop 6) rfl (by simp [clauses, Declaration.part])
      (by simp [clauses, Declaration.part])]
    exact flatMap_items hcheck _ (by simp [fields, Shape.query]) fun _ => rfl
  have hhaving : Part.having.items (declarations checked) = items "having" p := by
    rw [Part.items_eq_flatMap, flatMap_declarations _ (clauses.take 6) ("having", .having)
      (clauses.drop 7) rfl (by simp [clauses, Declaration.part])
      (by simp [clauses, Declaration.part])]
    exact flatMap_items hcheck _ (by simp [fields, Shape.query]) fun _ => rfl
  have hjoins : d.joins.map Join.conditions = (items "joins" p).map (fun spec =>
      (Condition.readAll (Condition.given (joinConditions spec).unfolded)).1) := by
    rw [hrun.joins_conditions, flatMap_declarations _ (clauses.take 4)
      ("joins", fun v => .joins v.unfolded) (clauses.drop 5) rfl
      (by simp [clauses, Declaration.joinConditions])
      (by simp [clauses, Declaration.joinConditions]), flatMap_joins hcheck]
    rfl
  refine ⟨?_, ?_, hjoins, ?_⟩
  · rw [hrun.filter_eq, hfilter]
    rfl
  · rw [hrun.having_eq, hhaving]
    rfl
  · rw [hjoins, List.map_inj_left]
    exact forall₂_congr fun spec _ => Condition.given_unfolded_iff (joinConditions spec)

/-- One comparison, given as a condition to a join and to WHERE. -/
def typedJoin : Value :=
  let sameUser : Condition := .leaf (.text "order.user_id") (.text "=") (some (.text "user.id"))
  .dict [(.text "select", .dict [(.text "table", .text "user"),
      (.text "columns", .list [.text "*"])]),
    (.text "joins", .list [.dict [(.text "type", .text "left"), (.text "table", .text "order"),
      (.text "conditions", .list [.condition sameUser])]]),
    (.text "where", .list [.condition sameUser])]

/-- The join is left with no condition, and WHERE with the one it was given. -/
theorem stored_conditions_typedJoin :
    let sameUser : Condition := .leaf (.text "order.user_id") (.text "=") (some (.text "user.id"))
    ∃ checked, check typedJoin = .ok checked ∧
      ((Draft.empty false).declareAll (declarations checked)).error = none ∧
      ((Draft.empty false).declareAll (declarations checked)).draft.filter = [sameUser] ∧
      ((Draft.empty false).declareAll (declarations checked)).draft.joins.map Join.conditions =
        [[]] ∧
      (items "joins" typedJoin).map (fun spec =>
        (Condition.readAll (Condition.given (joinConditions spec))).1) = [[sameUser]] ∧
      (build false .standard typedJoin).1 = .ok ("SELECT *\nFROM `user`\nLEFT JOIN `order`\n" ++
        "ON \nWHERE `order`.`user_id` = `user`.`id`\n") := by
  intro sameUser
  obtain ⟨checked, hcheck, hdeclared⟩ : ∃ checked, check typedJoin = .ok checked ∧
      ((Draft.empty false).declareAll (declarations checked)).error = none :=
    ⟨_, rfl, by decide +kernel⟩
  obtain ⟨hfilter, -, hjoins, -⟩ := stored_conditions false hcheck hdeclared
  exact ⟨checked, hcheck, hdeclared, hfilter, hjoins, rfl, by decide +kernel⟩

end Payload

end SqlDraft
