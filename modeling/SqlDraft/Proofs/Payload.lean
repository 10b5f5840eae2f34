import SqlDraft.Payload
import SqlDraft.Proofs.Declaring
import SqlDraft.Proofs.Execution
import SqlDraft.Proofs.Rejected
import SqlDraft.Proofs.Schema.Keeping

/-!
A payload beside the declarations it stands for. Checked clauses do what the clauses of the decoded
object do when these are declared as they are, with one exception: a limit of `true` is no limit
when it is declared, but checking turns it into the number one.
-/
namespace SqlDraft

namespace Payload

/-- What each clause declares of a decoded value as it is, in the order of declaration. -/
def directClauses : List (String × (Value → Declaration)) := [
  ("select", fun v => .statement .select v []),
  ("insert", fun v => .statement .insert v []),
  ("update", fun v => .statement .update v []),
  ("delete", fun v => .statement .delete v []),
  ("joins", .joins),
  ("where", .filter),
  ("having", .having),
  ("order", .order),
  ("group", .group),
  ("limit", .limit),
  ("params", .params)]

def members : Value → List (Value × Value)
  | .dict entries => entries
  | _ => []

/-- The clauses of a decoded value that are not null, declared as they are. -/
def direct (p : Value) : List Declaration := directClauses.filterMap (declaration? (members p))

end Payload

open Schema

namespace Declaration

theorem same_statement {kind : StatementKind} {entries entries' : List (Value × Value)}
    (h : ∀ name ∈ ["table", "columns", "duplicates"],
      Value.entry? name entries = Value.entry? name entries') :
    Same (.statement kind (.dict entries) []) (.statement kind (.dict entries') []) := by
  have htable := h "table" (by simp)
  have hcolumns := h "columns" (by simp)
  have hduplicates := h "duplicates" (by simp)
  have hread : Head.read kind (.dict entries) [] = Head.read kind (.dict entries') [] := by
    simp only [Head.read, Fields.read, List.map_nil, List.nil_append, Fields.require, Fields.get?,
      htable, hcolumns, hduplicates, bind, Except.bind]
  intro d
  simp only [Draft.declare, Draft.declareStatement, hread]

theorem same_joins {specs specs' : List Value}
    (h : List.Forall₂ (fun spec spec' => Draft.readJoin spec = Draft.readJoin spec') specs specs') :
    Same (.joins (.list specs)) (.joins (.list specs')) := by
  intro d
  change d.declareEach specs = d.declareEach specs'
  induction h generalizing d with
  | nil => rfl
  | @cons spec spec' specs specs' hread _ ih =>
    have hfirst : d.declareJoin spec = d.declareJoin spec' := by
      simp only [Draft.declareJoin, hread]
    simp only [Draft.declareEach, hfirst, ih]

theorem same_limit {v w : Value} (h : Limit.format v = Limit.format w) :
    Same (.limit v) (.limit w) := by
  intro d
  simp only [Draft.declare, Draft.declareLimit, h]

end Declaration

theorem Draft.readJoin_dict {entries entries' : List (Value × Value)}
    (h : ∀ name ∈ ["type", "table", "conditions"],
      Value.entry? name entries = Value.entry? name entries') :
    readJoin (.dict entries) = readJoin (.dict entries') := by
  have htype := h "type" (by simp)
  have htable := h "table" (by simp)
  have hconditions := h "conditions" (by simp)
  simp only [readJoin, Fields.read, List.map_nil, List.nil_append, Fields.require, Fields.get?,
    htype, htable, hconditions, bind, Except.bind]

namespace Payload

open Declaration Shape

/-- A checked statement declares what the object declares that it was given as. -/
theorem statement_same {kind : StatementKind} {v w : Value} (hv : v.IsJson)
    (h : Shape.statement.check v = .ok w) :
    w ≠ .null ∧ Same (.statement kind w.unfolded []) (.statement kind v []) := by
  have hkeeps : ∀ field ∈ Shape.statement.fields, Keeps field.2 := by
    simp only [fields, Shape.statement, List.forall_mem_cons]
    exact ⟨keeps_any, keeps_any, keeps_optional (keeps_list keeps_text), by simp⟩
  obtain ⟨entries, unfolded, rfl, hunfolded, hnull, hlookup⟩ :=
    unfolded_record (by decide) hkeeps hv h
  rw [hunfolded]
  exact ⟨hnull, same_statement hlookup⟩

theorem joins_same {v w : Value} (hv : v.IsJson)
    (h : (list Shape.join).check v = .ok w) :
    w ≠ .null ∧ Same (.joins w.unfolded) (.joins v) := by
  have hkeeps : ∀ field ∈ Shape.join.fields, Keeps field.2 := by
    simp only [fields, Shape.join, List.forall_mem_cons]
    exact ⟨keeps_any, keeps_any, keeps_any, by simp⟩
  cases hv with
  | list items hitems =>
    obtain ⟨_, ws, hlist, rfl, hws⟩ := check_list_eq_ok h
    cases hlist
    refine ⟨by simp, same_joins ?_⟩
    clear h
    induction hws with
    | nil => exact .nil
    | @cons spec checked rest others hfirst _ ih =>
      have hrest : ∀ u ∈ rest, u.IsJson := fun u hu => hitems u (List.mem_cons_of_mem spec hu)
      obtain ⟨entries, unfolded, rfl, hunfolded, -, hlookup⟩ :=
        unfolded_record (by decide) hkeeps (hitems spec List.mem_cons_self) hfirst
      rw [Value.unfoldedAll, hunfolded]
      exact .cons (Draft.readJoin_dict hlookup) (ih hrest)
  | _ => cases h

/-- A clause declares what stands under its name, unless that is null. -/
theorem declaration?_eq_some_iff {entries : List (Value × Value)}
    {clause : String × (Value → Declaration)} {a : Declaration} :
    declaration? entries clause = some a ↔
      ∃ v, Value.entry? clause.1 entries = some v ∧ v ≠ .null ∧ clause.2 v = a := by
  unfold declaration?
  cases Value.entry? clause.1 entries with
  | none => simp
  | some v => cases v <;> simp

theorem declaration?_of_lookup {entries : List (Value × Value)} {name : String} {v : Value}
    (f : Value → Declaration) (hv : Value.entry? name entries = some v) (hnull : v ≠ .null) :
    declaration? entries (name, f) = some (f v) :=
  declaration?_eq_some_iff.mpr ⟨v, hv, hnull, rfl⟩

theorem declaration?_of_null {entries : List (Value × Value)} {name : String}
    (h : (Value.entry? name entries).getD .null = .null) (f : Value → Declaration) :
    declaration? entries (name, f) = none := by
  unfold declaration?
  cases hv : Value.entry? name entries with
  | none => rfl
  | some v =>
    rw [hv, Option.getD_some] at h
    rw [h]

/-- A clause that may be left out is null or missing, or there with its value checked. -/
theorem checked_clause_cases {entries checked : List (Value × Value)}
    (h : checkFields Shape.query.fields entries = .ok checked) {name : String} {shape : Shape}
    (hfield : (name, optional shape) ∈ Shape.query.fields) :
    ((Value.entry? name entries).getD .null = .null ∧
      (Value.entry? name checked).getD .null = .null) ∨
    ∃ v w, Value.entry? name entries = some v ∧ v ≠ .null ∧ shape.check v = .ok w ∧
      Value.entry? name checked = some w := by
  have hnodup : (Shape.query.fields.map Prod.fst).Nodup := by decide
  rcases entry?_checkFields hnodup h hfield with ⟨hnone, hnone'⟩ | ⟨v, w, hv, hcheck, hw⟩
  · rw [hnone, hnone']
    exact Or.inl ⟨rfl, rfl⟩
  · by_cases hnull : v = .null
    · subst hnull
      cases hcheck
      rw [hv, hw]
      exact Or.inl ⟨rfl, rfl⟩
    · have hinner : shape.check v = .ok w := by
        cases v with
        | null => exact absurd rfl hnull
        | _ => exact hcheck
      exact Or.inr ⟨v, w, hv, hnull, hinner, hw⟩

/-- Clauses that do the same one by one do the same together. -/
theorem filterMap_same {entries checked : List (Value × Value)}
    {l m : List (String × (Value → Declaration))}
    (h : List.Forall₂ (fun clause clause' =>
      Option.Rel Same (declaration? checked clause) (declaration? entries clause')) l m) :
    List.Forall₂ Same (l.filterMap (declaration? checked)) (m.filterMap (declaration? entries)) :=
  List.rel_filterMap (fun _ _ hclause => hclause) h

section

variable {entries checked : List (Value × Value)} (hjson : (Value.dict entries).IsJson)
  (h : checkFields Shape.query.fields entries = .ok checked)

include hjson h

theorem declaration_rel {name : String} {shape : Shape} {f g : Value → Declaration}
    (hfield : (name, optional shape) ∈ Shape.query.fields)
    (hsame : ∀ v w, Value.entry? name entries = some v → v ≠ .null → v.IsJson →
      shape.check v = .ok w → w ≠ .null ∧ Same (f w) (g v)) :
    Option.Rel Same (declaration? checked (name, f)) (declaration? entries (name, g)) := by
  rcases checked_clause_cases h hfield with ⟨hnull, hnull'⟩ | ⟨v, w, hv, hnull, hcheck, hw⟩
  · rw [declaration?_of_null hnull g, declaration?_of_null hnull' f]
    exact .none
  · obtain ⟨hw', hfg⟩ := hsame v w hv hnull (hjson.of_lookup hv) hcheck
    rw [declaration?_of_lookup f hw hw', declaration?_of_lookup g hv hnull]
    exact .some hfg

theorem declaration_kept {name : String} {shape : Shape} (f : Value → Declaration)
    (hfield : (name, optional shape) ∈ Shape.query.fields) (hkeeps : Keeps shape) :
    Option.Rel Same (declaration? checked (name, f)) (declaration? entries (name, f)) := by
  refine declaration_rel hjson h hfield fun v w _ hnull hv hcheck => ?_
  obtain rfl := hkeeps v w hv hcheck
  exact ⟨hnull, fun _ => rfl⟩

/-- The clauses before the limit. -/
theorem declarations_same :
    List.Forall₂ Same ((clauses.take 9).filterMap (declaration? checked))
      ((directClauses.take 9).filterMap (declaration? entries)) := by
  have hstatement {name : String} (kind : StatementKind)
      (hfield : (name, optional Shape.statement) ∈ Shape.query.fields) :
      Option.Rel Same (declaration? checked (name, fun v => .statement kind v.unfolded []))
        (declaration? entries (name, fun v => .statement kind v [])) :=
    declaration_rel hjson h hfield fun _ _ _ _ hv hcheck => statement_same hv hcheck
  have hjoins : Option.Rel Same (declaration? checked ("joins", fun v => .joins v.unfolded))
      (declaration? entries ("joins", .joins)) :=
    have hfield : ("joins", optional (list Shape.join)) ∈ Shape.query.fields := by
      simp [fields, Shape.query]
    declaration_rel hjson h hfield fun _ _ _ _ hv hcheck => joins_same hv hcheck
  have hlist {name : String} (f : Value → Declaration)
      (hfield : (name, optional (list any)) ∈ Shape.query.fields) :
      Option.Rel Same (declaration? checked (name, f)) (declaration? entries (name, f)) :=
    declaration_kept hjson h f hfield (keeps_list keeps_any)
  refine filterMap_same ?_
  refine .cons (hstatement .select ?_) <| .cons (hstatement .insert ?_) <|
    .cons (hstatement .update ?_) <| .cons (hstatement .delete ?_) <| .cons hjoins <|
    .cons (hlist .filter ?_) <| .cons (hlist .having ?_) <| .cons (hlist .order ?_) <|
    .cons (hlist .group ?_) .nil
  all_goals simp [fields, Shape.query]

theorem params_same :
    List.Forall₂ Same ([("params", Declaration.params)].filterMap (declaration? checked))
      ([("params", Declaration.params)].filterMap (declaration? entries)) :=
  filterMap_same <|
    .cons (declaration_kept hjson h .params (by simp [fields, Shape.query]) keeps_params) .nil

/-- A limit does the same once it is checked, or is `true` and becomes the number one. -/
theorem limit_cases :
    (Value.entry? "limit" entries ≠ some (.bool true) ∧
      Option.Rel Same (declaration? checked ("limit", .limit))
        (declaration? entries ("limit", .limit))) ∨
    (Value.entry? "limit" entries = some (.bool true) ∧
      declaration? checked ("limit", .limit) = some (.limit (.int 1)) ∧
      declaration? entries ("limit", .limit) = some (.limit (.bool true))) := by
  have hfield : ("limit", optional limit) ∈ Shape.query.fields := by simp [fields, Shape.query]
  by_cases htrue : Value.entry? "limit" entries = some (.bool true)
  · have hnodup : (Shape.query.fields.map Prod.fst).Nodup := by decide
    rcases entry?_checkFields hnodup h hfield with ⟨hnone, -⟩ | ⟨v, w, hv, hcheck, hw⟩
    · rw [hnone] at htrue
      cases htrue
    · rw [hv] at htrue
      cases htrue
      cases hcheck
      exact Or.inr ⟨hv, declaration?_of_lookup .limit hw (by simp),
        declaration?_of_lookup .limit hv (by simp)⟩
  · refine Or.inl ⟨htrue, declaration_rel hjson h hfield fun v w hlookup _ hv hcheck => ?_⟩
    rcases checkLimit_cases hv hcheck with ⟨rfl, -⟩ | ⟨-, hnull, hformat⟩
    · exact absurd hlookup htrue
    · exact ⟨hnull, same_limit hformat⟩

end

theorem run_congr (strict : Bool) (operators : OperatorTable) {l m : List Declaration}
    (h : List.Forall₂ Same l m) : run strict operators l = run strict operators m := by
  simp only [run, Draft.declareAll_congr h]

/-- The result of a run, without what it notes. -/
theorem run_fst (strict : Bool) (operators : OperatorTable) (l : List Declaration) :
    (run strict operators l).1 = match ((Draft.empty strict).declareAll l).error with
      | some e => .error e
      | none => (((Draft.empty strict).declareAll l).draft.run operators).1 := by
  unfold run
  cases herror : ((Draft.empty strict).declareAll l).error with
  | some e => simp only [herror]
  | none => simp only [herror, Draft.build_eq_run]

/-- A limit that is written ends the text, wherever in the declarations it stands. -/
theorem run_limit (strict : Bool) (operators : OperatorTable) {before after : List Declaration}
    (hbefore : ∀ a ∈ before, ∀ v, a ≠ .limit v) (hafter : ∀ a ∈ after, ∀ v, a ≠ .limit v)
    {v w : Value} {text : String} (hv : Limit.format v = .ok (some text))
    (hw : Limit.format w = .ok none) :
    (run strict operators (before ++ .limit v :: after)).1 =
      (run strict operators (before ++ .limit w :: after)).1.map fun sql => sql ++ text := by
  have hempty : (Draft.empty strict).declareAll before =
      ((Draft.empty strict).declareAll before).withLimit none :=
    Draft.declareAll_withLimit (Draft.empty strict) none hbefore
  rw [run_fst, run_fst, Draft.declareAll_append, Draft.declareAll_append]
  generalize (Draft.empty strict).declareAll before = first at hempty ⊢
  have hdeclare (limit : Option String) (u : Value) (hu : Limit.format u = .ok limit) :
      first.draft.declareAll (.limit u :: after) =
        (first.draft.declareAll after).withLimit limit := by
    have hnone : first.draft = first.draft.withLimit none := congrArg Outcome.draft hempty
    have hfirst : first.draft.declare (.limit u) = (first.draft.withLimit limit).done [] := by
      simp only [Draft.declare, Draft.declareLimit, hu]
      cases limit with
      | none => rw [← hnone]
      | some text => rfl
    simp only [Draft.declareAll, hfirst, Draft.done,
      Draft.declareAll_withLimit first.draft limit hafter]
    rfl
  rw [hdeclare (some text) v hv, hdeclare none w hw]
  cases herror : first.error with
  | some e => simp [herror, Except.map]
  | none =>
    simp only [Outcome.withLimit]
    cases hafterError : (first.draft.declareAll after).error with
    | some e => rfl
    | none => exact Draft.run_withLimit _ operators text

/-- Texts and octets are decoded to JSON. -/
theorem decode_isJson {payload p : Value}
    (hpayload : (∃ s, payload = .text s) ∨ ∃ bytes, payload = .octets bytes)
    (h : decode payload = .ok p) : p.IsJson := by
  rcases hpayload with ⟨s, rfl⟩ | ⟨bytes, rfl⟩
  · simp only [decode] at h
    split at h
    · next v hv =>
      cases h
      exact Json.read_isJson hv
    all_goals cases h
  · simp only [decode] at h
    split at h
    · next v hv =>
      cases h
      exact Json.readOctets_isJson hv
    all_goals cases h

theorem check_eq_ok {p : Value} {checked : List (Value × Value)} (h : check p = .ok checked) :
    ∃ entries, p = .dict entries ∧
      checkFields Shape.query.fields entries = .ok checked := by
  unfold check at h
  cases hcheck : Shape.query.check p with
  | error faults => simp [hcheck] at h
  | ok w =>
    obtain ⟨entries, fields, rfl, rfl, hfields⟩ := check_record_eq_ok hcheck
    rw [hcheck] at h
    cases h
    exact ⟨entries, rfl, hfields⟩

theorem notLimit_of_mem {table : List (String × (Value → Declaration))}
    (htable : ∀ clause ∈ table, ∀ u v, clause.2 u ≠ .limit v) (entries : List (Value × Value)) :
    ∀ a ∈ table.filterMap (declaration? entries), ∀ v, a ≠ .limit v := by
  intro a ha v
  obtain ⟨clause, hclause, hdeclared⟩ := List.mem_filterMap.mp ha
  obtain ⟨u, -, -, rfl⟩ := declaration?_eq_some_iff.mp hdeclared
  exact htable clause hclause u v

/-- Both tables of clauses end in the limit and the parameters. -/
theorem filterMap_clauses (table : List (String × (Value → Declaration)))
    (htable : table = table.take 9 ++ [("limit", .limit)] ++ [("params", .params)])
    (entries : List (Value × Value)) :
    table.filterMap (declaration? entries) =
      (table.take 9).filterMap (declaration? entries) ++
        ([("limit", Declaration.limit)].filterMap (declaration? entries) ++
          [("params", Declaration.params)].filterMap (declaration? entries)) := by
  rw [← List.append_assoc, ← List.filterMap_append, ← List.filterMap_append, ← htable]

theorem format_one : Limit.format (.int 1) = .ok (some "LIMIT 1\n") := by
  have hwritable : Numeral.isWritable 1 = true := Numeral.isWritable_digit (by decide)
  have hwrite : Numeral.write 1 = .ok "1" := by
    rw [Numeral.write, hwritable]
    rfl
  simp only [Limit.format, Value.items?, Limit.read, Limit.clause, hwrite, bind, Except.bind]
  rfl

/-- A payload in JSON text does what its clauses do when they are declared as they are, unless its
limit is `true` and these make a statement: that statement then gets a limit of one row. -/
theorem build_eq_direct_iff (strict : Bool) (operators : OperatorTable) {payload p : Value}
    {checked : List (Value × Value)}
    (hpayload : (∃ s, payload = .text s) ∨ ∃ bytes, payload = .octets bytes)
    (hdecode : decode payload = .ok p) (hcheck : check p = .ok checked) :
    ((build strict operators payload).1 = (run strict operators (direct p)).1 ↔
      ¬(Value.entry? "limit" (members p) = some (.bool true) ∧
        ∃ sql, (run strict operators (direct p)).1 = .ok sql)) ∧
    (Value.entry? "limit" (members p) = some (.bool true) →
      (build strict operators payload).1 =
        (run strict operators (direct p)).1.map fun sql => sql ++ "LIMIT 1\n") := by
  have hjson : p.IsJson := decode_isJson hpayload hdecode
  have hbuild : build strict operators payload = run strict operators (declarations checked) := by
    simp only [build, hdecode, bind, Except.bind, hcheck]
  obtain ⟨entries, rfl, hfields⟩ := check_eq_ok hcheck
  have hfront := declarations_same hjson hfields
  have hparams := params_same hjson hfields
  have hchecked := filterMap_clauses clauses rfl checked
  have hdirect := filterMap_clauses directClauses rfl entries
  rw [hbuild, declarations, direct, members]
  rcases limit_cases hjson hfields with ⟨hlimit, hsame⟩ | ⟨hlimit, hone, htrue⟩
  · have hall : List.Forall₂ Same (clauses.filterMap (declaration? checked))
        (directClauses.filterMap (declaration? entries)) := by
      rw [hchecked, hdirect]
      exact List.rel_append hfront
        (List.rel_append (filterMap_same (.cons hsame .nil)) hparams)
    rw [run_congr strict operators hall]
    exact ⟨by simp [hlimit], fun h => absurd h hlimit⟩
  · rw [List.filterMap_cons_some hone, List.filterMap_nil, List.singleton_append] at hchecked
    rw [List.filterMap_cons_some htrue, List.filterMap_nil, List.singleton_append] at hdirect
    have hclauses : ∀ clause ∈ clauses.take 9, ∀ u v, clause.2 u ≠ .limit v := by
      simp [clauses]
    have hend : ∀ clause ∈ [("params", Declaration.params)], ∀ u v, clause.2 u ≠ .limit v := by
      simp
    have hrun : (run strict operators (clauses.filterMap (declaration? checked))).1 =
        (run strict operators (directClauses.filterMap (declaration? entries))).1.map
          fun sql => sql ++ "LIMIT 1\n" := by
      rw [hdirect, ← run_congr strict operators
        (List.rel_append hfront (.cons (fun _ => rfl) hparams)), hchecked]
      exact run_limit strict operators (notLimit_of_mem hclauses checked)
        (notLimit_of_mem hend checked) format_one rfl
    rw [hrun]
    refine ⟨⟨?_, ?_⟩, fun _ => rfl⟩
    · rintro heq ⟨-, sql, hsql⟩
      rw [hsql] at heq
      have hlength := congrArg String.length (Except.ok.inj heq)
      rw [String.length_append] at hlength
      have hpositive : 0 < "LIMIT 1\n".length := by decide
      omega
    · intro hfails
      cases hdone : (run strict operators (directClauses.filterMap (declaration? entries))).1 with
      | error e => rfl
      | ok sql => exact absurd ⟨hlimit, sql, hdone⟩ hfails

/-- The decoded form of a listing with a limit of `true`. -/
def listing : Value :=
  .dict [(.text "select", .dict [(.text "table", .text "user"), (.text "columns",
    .list [.text "*"])]), (.text "limit", .bool true)]

theorem build_listing :
    let payload : Value :=
      .text "\x7b\"select\": \x7b\"table\": \"user\", \"columns\": [\"*\"]\x7d, \"limit\": true\x7d"
    decode payload = .ok listing ∧
      (run false .standard (direct listing)).1 = .ok "SELECT *\nFROM `user`\n" ∧
      (build false .standard payload).1 = .ok "SELECT *\nFROM `user`\nLIMIT 1\n" := by
  intro payload
  have hdecode : decode payload = .ok listing := (decode_of_unmarked (by decide)).trans rfl
  have hcheck : ∃ checked, check listing = .ok checked := ⟨_, rfl⟩
  have hdirect : (run false .standard (direct listing)).1 = .ok "SELECT *\nFROM `user`\n" := by
    decide +kernel
  obtain ⟨checked, hchecked⟩ := hcheck
  have hlimit := (build_eq_direct_iff false .standard (Or.inl ⟨_, rfl⟩) hdecode hchecked).2 rfl
  refine ⟨hdecode, hdirect, ?_⟩
  rw [hlimit, hdirect]
  rfl

end Payload

end SqlDraft
