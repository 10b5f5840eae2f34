import SqlDraft.Proofs.Changes

/-!
Declarations by the part of the draft that they change. A declaration reads no other part, only
whether the draft is strict, so a run does to each part what the declarations of that part do to it
alone. Runs with the same declarations of each part end in the same draft, however these are mixed,
and declarations that add to one list may be gathered in one.
-/
namespace SqlDraft

/-- What declarations change independently of one another. Statements and joins belong together:
the table of each is quoted with the names that the others have brought. -/
inductive Part where
  | tables
  | filter
  | having
  | grouping
  | ordering
  | limit
  | params
deriving DecidableEq

def Declaration.part : Declaration → Part
  | statement .. => .tables
  | joins _ => .tables
  | filter _ => .filter
  | having _ => .having
  | group _ => .grouping
  | order _ => .ordering
  | limit _ => .limit
  | params _ => .params

/-- The declarations of one part. -/
def Part.of (part : Part) (calls : List Declaration) : List Declaration :=
  calls.filter fun a => a.part = part

theorem Part.of_cons_self (a : Declaration) (rest : List Declaration) :
    a.part.of (a :: rest) = a :: a.part.of rest := by
  simp [of]

theorem Part.of_cons_of_ne {part : Part} {a : Declaration} (h : a.part ≠ part)
    (rest : List Declaration) : part.of (a :: rest) = part.of rest := by
  simp [of, h]

/-- One part of the draft, and nothing else declared. -/
def Draft.only (d : Draft) : Part → Draft
  | .tables => { empty d.strict with
      identifiers := d.identifiers, statement := d.statement, joins := d.joins }
  | .filter => { empty d.strict with filter := d.filter }
  | .having => { empty d.strict with having := d.having }
  | .grouping => { empty d.strict with grouping := d.grouping }
  | .ordering => { empty d.strict with ordering := d.ordering }
  | .limit => { empty d.strict with limit := d.limit }
  | .params => { empty d.strict with params := d.params }

/-- The draft with one part of another. -/
def Draft.put (d : Draft) (part : Part) (other : Draft) : Draft :=
  match part with
  | .tables => { d with
      identifiers := other.identifiers, statement := other.statement, joins := other.joins }
  | .filter => { d with filter := other.filter }
  | .having => { d with having := other.having }
  | .grouping => { d with grouping := other.grouping }
  | .ordering => { d with ordering := other.ordering }
  | .limit => { d with limit := other.limit }
  | .params => { d with params := other.params }

def Outcome.only (o : Outcome) (part : Part) : Outcome := { o with draft := o.draft.only part }

namespace Draft

theorem strict_only (d : Draft) (part : Part) : (d.only part).strict = d.strict := by
  cases part <;> rfl

/-- The parts make up the draft. -/
theorem eq_of_only {d e : Draft} (h : ∀ part, d.only part = e.only part) : d = e := by
  have htables := h .tables
  have hfilter := h .filter
  have hhaving := h .having
  have hgrouping := h .grouping
  have hordering := h .ordering
  have hlimit := h .limit
  have hparams := h .params
  cases d
  cases e
  simp_all [only, empty]

theorem withConditions_only (d : Draft) (part : Part) (v : Value) (add : List Condition → Draft)
    {add' : List Condition → Draft} (hadd : ∀ cs, add' cs = (add cs).only part) :
    (d.only part).withConditions v add' = (d.withConditions v add).only part := by
  simp only [withConditions, strict_only]
  cases (ConditionList.ofClause d.strict v).error with
  | none => simp only [hadd, Outcome.only]
  | some fault => rfl

theorem declareJoin_only (d : Draft) (spec : Value) :
    (d.only .tables).declareJoin spec = (d.declareJoin spec).only .tables := by
  unfold declareJoin
  cases readJoin spec with
  | error e => rfl
  | ok fields =>
    obtain ⟨type, tableSpec, conditions⟩ := fields
    rcases htable : TableRef.declare d.identifiers "joins" tableSpec with ⟨ids, e | table⟩
    · simp only [only, htable]
      rfl
    · simp only [only, htable]
      exact withConditions_only { d with identifiers := ids } .tables conditions _ fun _ => rfl

theorem declareEach_only (d : Draft) (specs : List Value) :
    (d.only .tables).declareEach specs = (d.declareEach specs).only .tables := by
  induction specs generalizing d with
  | nil => rfl
  | cons spec rest ih =>
    simp only [declareEach, declareJoin_only]
    cases hfirst : (d.declareJoin spec).error with
    | some e => simp [Outcome.only, hfirst]
    | none => simp [Outcome.only, hfirst, ih]

theorem declareStatement_only (d : Draft) (kind : StatementKind) (payload : Value)
    (fields : List (String × Value)) :
    (d.only .tables).declareStatement kind payload fields =
      (d.declareStatement kind payload fields).only .tables := by
  unfold declareStatement
  cases Head.read kind payload fields with
  | error e => rfl
  | ok head =>
    rcases htable : TableRef.declare d.identifiers kind.name head.table with ⟨ids, declared⟩
    simp only [only, htable]
    cases declared >>= head.statement kind <;> rfl

/-- A declaration does to its part what it does to that part alone. -/
theorem declare_only (d : Draft) (a : Declaration) :
    (d.only a.part).declare a = (d.declare a).only a.part := by
  cases a with
  | statement kind payload fields => exact declareStatement_only d kind payload fields
  | joins specs =>
    simp only [Declaration.part, declare, declareJoins]
    cases joinSpecs? specs with
    | some items => exact declareEach_only d items
    | none => rfl
  | filter v =>
    have hadd (cs : List Condition) : { d.only .filter with filter := d.filter ++ cs } =
        ({ d with filter := d.filter ++ cs } : Draft).only .filter := rfl
    exact withConditions_only d .filter v _ hadd
  | having v =>
    have hadd (cs : List Condition) : { d.only .having with having := d.having ++ cs } =
        ({ d with having := d.having ++ cs } : Draft).only .having := rfl
    exact withConditions_only d .having v _ hadd
  | group v => rfl
  | order v => rfl
  | limit v =>
    simp only [Declaration.part, declare, declareLimit]
    split <;> rfl
  | params v => rfl

theorem put_self (d : Draft) (part : Part) : d.put part d = d := by
  cases part <;> rfl

theorem draft_withConditions_put {d : Draft} (part : Part) (v : Value)
    {add : List Condition → Draft} (hadd : ∀ cs, add cs = d.put part (add cs)) :
    (d.withConditions v add).draft = d.put part (d.withConditions v add).draft := by
  rcases draft_withConditions d v add with hsame | ⟨cs, hadded⟩
  · rw [hsame, put_self]
  · rw [hadded]
    exact hadd cs

/-- A join brings names and is put behind the others, or is not. -/
theorem draft_declareJoin (d : Draft) (spec : Value) :
    ∃ ids new, (d.declareJoin spec).draft =
      { d with identifiers := ids, joins := d.joins ++ new } := by
  rcases declareJoin_cases d spec with ⟨e, _, hjoin⟩ |
    ⟨type, _, conditions, ids, _, ⟨e, _, hjoin⟩ | ⟨table, _, hjoin⟩⟩
  · refine ⟨d.identifiers, [], ?_⟩
    rw [hjoin, List.append_nil]
    rfl
  · refine ⟨ids, [], ?_⟩
    rw [hjoin, List.append_nil]
    rfl
  · rw [hjoin]
    rcases draft_withConditions { d with identifiers := ids } conditions
      (fun cs => { d with identifiers := ids, joins := d.joins ++ [⟨type, table, cs⟩] }) with
      hsame | ⟨cs, hadded⟩
    · refine ⟨ids, [], ?_⟩
      rw [hsame, List.append_nil]
    · exact ⟨ids, [⟨type, table, cs⟩], hadded⟩

theorem draft_declareEach (d : Draft) (specs : List Value) :
    ∃ ids new, (d.declareEach specs).draft =
      { d with identifiers := ids, joins := d.joins ++ new } := by
  induction specs generalizing d with
  | nil => exact ⟨d.identifiers, [], by rw [List.append_nil]; rfl⟩
  | cons spec rest ih =>
    obtain ⟨ids, new, hfirst⟩ := draft_declareJoin d spec
    simp only [declareEach]
    split
    · exact ⟨ids, new, hfirst⟩
    · obtain ⟨ids', new', hrest⟩ := ih (d.declareJoin spec).draft
      refine ⟨ids', new ++ new', hrest.trans ?_⟩
      simp only [hfirst, List.append_assoc]

theorem draft_declareStatement (d : Draft) (kind : StatementKind) (payload : Value)
    (fields : List (String × Value)) :
    ∃ ids s, (d.declareStatement kind payload fields).draft =
      { d with identifiers := ids, statement := s } := by
  rcases declareStatement_cases d kind payload fields with ⟨e, _, hrefused⟩ |
    ⟨_, ids, _, ⟨e, _, hrefused⟩ | ⟨_, _, ⟨e, _, _, hrefused⟩ | ⟨s, _, _, hdeclared⟩⟩⟩
  · exact ⟨d.identifiers, d.statement, congrArg Outcome.draft hrefused⟩
  · exact ⟨ids, d.statement, congrArg Outcome.draft hrefused⟩
  · exact ⟨ids, d.statement, congrArg Outcome.draft hrefused⟩
  · exact ⟨ids, some s, congrArg Outcome.draft hdeclared⟩

/-- A declaration changes its part and no other. -/
theorem draft_declare (d : Draft) (a : Declaration) :
    (d.declare a).draft = d.put a.part (d.declare a).draft := by
  cases a with
  | statement kind payload fields =>
    obtain ⟨ids, s, hdraft⟩ := draft_declareStatement d kind payload fields
    rw [declare, hdraft]
    rfl
  | joins specs =>
    simp only [declare, declareJoins]
    cases joinSpecs? specs with
    | some items =>
      obtain ⟨ids, new, hdraft⟩ := draft_declareEach d items
      simp only [hdraft]
      rfl
    | none => rfl
  | filter v => exact draft_withConditions_put .filter v fun _ => rfl
  | having v => exact draft_withConditions_put .having v fun _ => rfl
  | group v => rfl
  | order v => rfl
  | limit v =>
    simp only [declare, declareLimit]
    split <;> rfl
  | params v => rfl

theorem only_put_of_ne {part part' : Part} (h : part ≠ part') (d e : Draft) :
    (d.put part e).only part' = d.only part' := by
  cases part <;> cases part' <;> first | exact absurd rfl h | rfl

theorem declare_only_of_ne (d : Draft) {a : Declaration} {part : Part} (h : a.part ≠ part) :
    (d.declare a).draft.only part = d.only part := by
  rw [draft_declare, only_put_of_ne h]

/-- A run in which no declaration fails, and the draft that it ends in. -/
inductive Run : Draft → List Declaration → Draft → Prop where
  | nil (d : Draft) : Run d [] d
  | cons {d d' : Draft} {a : Declaration} {rest : List Declaration}
      (hfirst : (d.declare a).error = none) (hrest : Run (d.declare a).draft rest d') :
      Run d (a :: rest) d'

theorem run_iff (d d' : Draft) (calls : List Declaration) :
    d.Run calls d' ↔ (d.declareAll calls).error = none ∧ (d.declareAll calls).draft = d' := by
  constructor
  · intro h
    induction h with
    | nil d => exact ⟨rfl, rfl⟩
    | cons hfirst _ ih => simpa only [declareAll, hfirst] using ih
  · rintro ⟨hdone, rfl⟩
    induction calls generalizing d with
    | nil => exact .nil d
    | cons a rest ih =>
      simp only [declareAll] at hdone ⊢
      cases hfirst : (d.declare a).error with
      | some e => simp [hfirst] at hdone
      | none =>
        simp only [hfirst] at hdone ⊢
        exact .cons hfirst (ih (d.declare a).draft hdone)

/-- What a run does to a part is what the declarations of that part do to it alone. -/
theorem Run.only {d d' : Draft} {calls : List Declaration} (h : d.Run calls d') (part : Part) :
    (d.only part).Run (part.of calls) (d'.only part) := by
  induction h with
  | nil d => exact .nil _
  | @cons d d' a rest hfirst _ ih =>
    by_cases hpart : a.part = part
    · subst hpart
      have hsame := declare_only d a
      rw [Part.of_cons_self]
      refine .cons ?_ ?_
      · rw [hsame]
        exact hfirst
      · rw [hsame]
        exact ih
    · rw [Part.of_cons_of_ne hpart, ← declare_only_of_ne d hpart]
      exact ih

/-- Declarations that can be run part by part can be run together. -/
theorem exists_run {d : Draft} {calls : List Declaration}
    (h : ∀ part : Part, ∃ e, (d.only part).Run (part.of calls) e) : ∃ d', d.Run calls d' := by
  induction calls generalizing d with
  | nil => exact ⟨d, .nil d⟩
  | cons a rest ih =>
    obtain ⟨e, hown⟩ := h a.part
    rw [Part.of_cons_self] at hown
    cases hown with
    | cons hfirst hown =>
      rw [declare_only] at hfirst hown
      have hrest : ∀ part : Part, ∃ e, ((d.declare a).draft.only part).Run (part.of rest) e := by
        intro part
        by_cases hpart : a.part = part
        · exact ⟨e, hpart ▸ hown⟩
        · rw [declare_only_of_ne d hpart, ← Part.of_cons_of_ne hpart]
          exact h part
      obtain ⟨d', hd'⟩ := ih hrest
      exact ⟨d', .cons hfirst hd'⟩

theorem Run.unique {d d' d'' : Draft} {calls : List Declaration} (h : d.Run calls d')
    (h' : d.Run calls d'') : d' = d'' :=
  ((run_iff d d' calls).mp h).2.symm.trans ((run_iff d d'' calls).mp h').2

/-- Runs that do the same to each part do the same. -/
theorem Run.of_parts {d d' : Draft} {calls calls' : List Declaration} (h : d.Run calls d')
    (hparts : ∀ part : Part, (d.only part).Run (part.of calls) (d'.only part) →
      (d.only part).Run (part.of calls') (d'.only part)) : d.Run calls' d' := by
  obtain ⟨d'', h'⟩ := exists_run fun part => ⟨_, hparts part (h.only part)⟩
  have hsame : d' = d'' :=
    eq_of_only fun part => (hparts part (h.only part)).unique (h'.only part)
  exact hsame ▸ h'

end Draft

namespace Condition

/-- Whether a draft accepts the items as conditions. -/
def Readable (strict : Bool) (items : List Value) : Prop := strict = true → (readAll items).2 = []

theorem readable_append {strict : Bool} {l m : List Value} (hl : Readable strict l)
    (hm : Readable strict m) : Readable strict (l ++ m) := by
  intro hstrict
  rw [readAll_append, hl hstrict, hm hstrict]
  rfl

end Condition

namespace Declaration

/-- What a declaration adds to its list. -/
def items : Declaration → List Value
  | filter v => (Condition.listed? v).getD []
  | having v => (Condition.listed? v).getD []
  | group v => v.asList
  | order v => v.asList
  | _ => []

/-- Declarations whose lists may be put together. -/
structure Gathers (call : Value → Declaration) : Prop where
  none (d : Draft) : d.Run [call (.list [])] d
  two {d d' : Draft} {v : Value} {others : List Value}
    (h : d.Run [call v, call (.list others)] d') :
    d.Run [call (.list ((call v).items ++ others))] d'

/-- However many declarations there are, one does for all of them. -/
theorem Gathers.run {call : Value → Declaration} (hcall : Gathers call) {d d' : Draft}
    {calls : List Declaration} (hcalls : ∀ a ∈ calls, ∃ v, a = call v) (h : d.Run calls d') :
    d.Run [call (.list (calls.flatMap items))] d' := by
  induction h with
  | nil d => exact hcall.none d
  | @cons d d' a rest hfirst _ ih =>
    have hrest : ∀ b ∈ rest, ∃ v, b = call v := fun b hb => hcalls b (List.mem_cons_of_mem a hb)
    obtain ⟨v, rfl⟩ := hcalls a List.mem_cons_self
    exact hcall.two (.cons hfirst (ih hrest))

end Declaration

namespace Draft

open Declaration

/-- Conditions are put in their place exactly if all of their items are read. -/
theorem withConditions_done_iff (d d' : Draft) (v : Value) (add : List Condition → Draft) :
    (d.withConditions v add).error = none ∧ (d.withConditions v add).draft = d' ↔
      ∃ items, Condition.listed? v = some items ∧ Condition.Readable d.strict items ∧
        add (Condition.readAll items).1 = d' := by
  simp only [withConditions, ConditionList.ofClause]
  cases Condition.listed? v with
  | none => simp
  | some items =>
    simp only [ConditionList.ofItems, Option.some.injEq, exists_eq_left', Condition.Readable]
    cases d.strict with
    | false => simp [Condition.accept]
    | true => cases (Condition.readAll items).2 <;> simp [Condition.accept]

theorem run_singleton_iff (d d' : Draft) (a : Declaration) :
    d.Run [a] d' ↔ (d.declare a).error = none ∧ (d.declare a).draft = d' := by
  rw [run_iff]
  simp only [declareAll]
  cases hfirst : (d.declare a).error with
  | some e => simp [hfirst]
  | none => simp [done]

/-- Calls that put conditions behind those already there. -/
theorem gathers_conditions {call : Value → Declaration} (add : Draft → List Condition → Draft)
    (hcall : ∀ (d : Draft) v, d.declare (call v) = d.withConditions v (add d))
    (hitems : ∀ v, (call v).items = (Condition.listed? v).getD [])
    (hstrict : ∀ d cs, (add d cs).strict = d.strict) (hnil : ∀ d, add d [] = d)
    (hadd : ∀ d cs cs', add (add d cs) cs' = add d (cs ++ cs')) : Gathers call where
  none d := by
    rw [run_singleton_iff, hcall, withConditions_done_iff]
    exact ⟨[], rfl, fun _ => rfl, hnil d⟩
  two {d d' v others} h := by
    cases h with
    | cons hfirst hothers =>
      rw [run_singleton_iff, hcall, withConditions_done_iff] at hothers
      obtain ⟨items', hlist', hread', hadded'⟩ := hothers
      rw [hcall] at hfirst hread' hadded'
      obtain ⟨items, hlist, hread, hadded⟩ :=
        (withConditions_done_iff d _ v (add d)).mp ⟨hfirst, rfl⟩
      cases hlist'
      rw [← hadded] at hread' hadded'
      rw [hstrict] at hread'
      rw [run_singleton_iff, hcall, withConditions_done_iff]
      refine ⟨items ++ others, by rw [hitems, hlist]; rfl, ?_, ?_⟩
      · exact Condition.readable_append hread hread'
      · rw [Condition.readAll_append, ← hadded', hadd]

theorem gathers_filter : Gathers .filter :=
  gathers_conditions (fun d cs => { d with filter := d.filter ++ cs })
    (fun _ _ => rfl) (fun _ => rfl) (fun _ _ => rfl)
    (fun _ => by simp only [List.append_nil]) (fun _ _ _ => by simp only [List.append_assoc])

theorem gathers_having : Gathers .having :=
  gathers_conditions (fun d cs => { d with having := d.having ++ cs })
    (fun _ _ => rfl) (fun _ => rfl) (fun _ _ => rfl)
    (fun _ => by simp only [List.append_nil]) (fun _ _ _ => by simp only [List.append_assoc])

/-- Calls that put columns behind those already there. -/
theorem gathers_columns {call : Value → Declaration} (add : Draft → List Value → Draft)
    (hcall : ∀ (d : Draft) v, d.declare (call v) = (add d v.asList).done [])
    (hitems : ∀ v, (call v).items = v.asList) (hnil : ∀ d, add d [] = d)
    (hadd : ∀ d items items', add (add d items) items' = add d (items ++ items')) :
    Gathers call where
  none d := by
    rw [run_singleton_iff, hcall]
    exact ⟨rfl, hnil d⟩
  two {d d' v others} h := by
    cases h with
    | cons hfirst hothers =>
      rw [run_singleton_iff, hcall, hcall] at hothers
      rw [run_singleton_iff, hcall, hitems]
      exact ⟨rfl, (hadd d v.asList others).symm.trans hothers.2⟩

theorem gathers_group : Gathers .group :=
  gathers_columns (fun d items => { d with grouping := d.grouping ++ items })
    (fun _ _ => rfl) (fun _ => rfl)
    (fun _ => by simp only [List.append_nil]) (fun _ _ _ => by simp only [List.append_assoc])

theorem gathers_order : Gathers .order :=
  gathers_columns (fun d items => { d with ordering := d.ordering ++ items })
    (fun _ _ => rfl) (fun _ => rfl)
    (fun _ => by simp only [List.append_nil]) (fun _ _ _ => by simp only [List.append_assoc])

end Draft

namespace Part

/-- How items are added to a part that is a list. -/
def call? : Part → Option (Value → Declaration)
  | filter => some .filter
  | having => some .having
  | grouping => some .group
  | ordering => some .order
  | _ => none

theorem exists_eq_call {part : Part} {call : Value → Declaration} (h : part.call? = some call)
    {a : Declaration} (ha : a.part = part) : ∃ v, a = call v := by
  subst ha
  cases a <;> cases h
  all_goals exact ⟨_, rfl⟩

theorem gathers {part : Part} {call : Value → Declaration} (h : part.call? = some call) :
    Declaration.Gathers call := by
  cases part <;> cases h
  · exact Draft.gathers_filter
  · exact Draft.gathers_having
  · exact Draft.gathers_group
  · exact Draft.gathers_order

/-- The items that all declarations of a part add. -/
def items (part : Part) (calls : List Declaration) : List Value :=
  (part.of calls).flatMap Declaration.items

end Part

/-- The same declarations with the statements and joins first, then one for each list of conditions
or columns, then the limits and the parameters. -/
def Declaration.arranged (calls : List Declaration) : List Declaration :=
  Part.tables.of calls ++
    [.filter (.list (Part.filter.items calls)), .having (.list (Part.having.items calls)),
      .group (.list (Part.grouping.items calls)), .order (.list (Part.ordering.items calls))] ++
    Part.limit.of calls ++ Part.params.of calls

namespace Part

theorem of_append (part : Part) (l m : List Declaration) :
    part.of (l ++ m) = part.of l ++ part.of m :=
  List.filter_append l m

theorem part_of_mem {part : Part} {a : Declaration} {calls : List Declaration}
    (h : a ∈ part.of calls) : a.part = part := by
  simpa using (List.mem_filter.mp h).2

theorem of_of_self (part : Part) (calls : List Declaration) :
    part.of (part.of calls) = part.of calls :=
  List.filter_eq_self.mpr fun a ha => by simpa using part_of_mem ha

theorem of_of_ne {part other : Part} (h : part ≠ other) (calls : List Declaration) :
    part.of (other.of calls) = [] :=
  List.filter_eq_nil_iff.mpr fun a ha => by simpa [part_of_mem ha] using h.symm

/-- Of the arranged declarations, a part has its own as they were, or gathered in one. -/
theorem of_arranged (part : Part) (calls : List Declaration) :
    part.of (Declaration.arranged calls) = match part.call? with
      | some call => [call (.list (part.items calls))]
      | none => part.of calls := by
  simp only [Declaration.arranged, of_append]
  cases part
  all_goals
    simp only [of_of_self, of_of_ne, ne_eq, reduceCtorEq, not_false_eq_true, List.nil_append,
      List.append_nil]
    simp [of, call?, Declaration.part]

end Part

namespace Draft

open Declaration

/-- A part that is a list is what one declaration of all its items leaves. -/
theorem Run.gathered {d d' : Draft} {calls : List Declaration} (h : d.Run calls d') {part : Part}
    {call : Value → Declaration} (hcall : part.call? = some call) :
    (d.only part).Run [call (.list (part.items calls))] (d'.only part) :=
  have hown : ∀ a ∈ part.of calls, ∃ v, a = call v :=
    fun _ ha => Part.exists_eq_call hcall (Part.part_of_mem ha)
  (Part.gathers hcall).run hown (h.only part)

/-- Arranged declarations do what they do as they are mixed. -/
theorem Run.arranged {d d' : Draft} {calls : List Declaration} (h : d.Run calls d') :
    d.Run (Declaration.arranged calls) d' := by
  refine h.of_parts fun part hpart => ?_
  rw [Part.of_arranged]
  cases hcall : part.call? with
  | some call => exact h.gathered hcall
  | none => exact hpart

/-- However declarations are mixed, the build is that of the same declarations arranged by part, and
of every run that has the same ones of each part. -/
theorem build_arranged (d : Draft) (calls : List Declaration) (operators : OperatorTable)
    (hdone : (d.declareAll calls).error = none) :
    ((d.declareAll (Declaration.arranged calls)).error = none ∧
      (d.declareAll (Declaration.arranged calls)).draft.build operators =
        (d.declareAll calls).draft.build operators) ∧
    ∀ calls' : List Declaration, (∀ part : Part, part.of calls' = part.of calls) →
      (d.declareAll calls').error = none ∧
        (d.declareAll calls').draft.build operators =
          (d.declareAll calls).draft.build operators := by
  have hrun : d.Run calls (d.declareAll calls).draft := (run_iff d _ calls).mpr ⟨hdone, rfl⟩
  have hsame {calls' : List Declaration} (h : d.Run calls' (d.declareAll calls).draft) :
      (d.declareAll calls').error = none ∧
        (d.declareAll calls').draft.build operators =
          (d.declareAll calls).draft.build operators := by
    obtain ⟨hdone', hdraft⟩ := (run_iff d _ calls').mp h
    exact ⟨hdone', by rw [hdraft]⟩
  refine ⟨hsame hrun.arranged, fun calls' hparts => hsame (hrun.of_parts fun part hpart => ?_)⟩
  rw [hparts part]
  exact hpart

/-- A search whose parameters and conditions are declared before its table, in pieces. -/
def mixedSearch : List Declaration := [
  .params (.list [.int 18]),
  .filter (.list [.list [.text "u.age", .text ">", .text "?"]]),
  .order (.list [.text "u.name"]),
  .statement .select .null [("table", .dict [(.text "user", .text "u")]),
    ("columns", .list [.text "u.id"])],
  .filter (.list [.text "u.active"]),
  .order (.list [.dict [(.text "u.id", .text "desc")]])]

theorem build_arranged_search :
    ((Draft.empty true).declareAll mixedSearch).error = none ∧
      (((Draft.empty true).declareAll (Declaration.arranged mixedSearch)).draft.build .standard).1 =
        .ok ("SELECT `u`.`id`\nFROM `user` AS `u`\nWHERE `u`.`age` > 18\nAND u.active\n" ++
          "ORDER BY `u`.`name`,\n`u`.`id` DESC\n") := by
  have hdone : ((Draft.empty true).declareAll mixedSearch).error = none := by decide +kernel
  refine ⟨hdone, ?_⟩
  rw [(build_arranged (Draft.empty true) mixedSearch .standard hdone).1.2]
  decide +kernel

end Draft

end SqlDraft
