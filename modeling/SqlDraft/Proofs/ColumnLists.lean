import SqlDraft.Proofs.Execution
import SqlDraft.Proofs.Interleaving

/-!
The columns of GROUP BY and ORDER BY. What is declared for such a clause gives entries, a mapping
one for each column whose direction is ASC or DESC and anything else one, and the clause lists the
entries of all declarations in order. Declarations that give no entry at all leave the keyword of
the clause behind; a clause that nothing was declared for is left out.
-/
namespace SqlDraft

/-- A stretch of the text, and what was consumed and noted up to its end. -/
structure Passage where
  text : String
  after : Progress

def Render.Yields (m : Render String) (p : Progress) (c : Passage) : Prop :=
  m.exec p = (.ok c.text, c.after)

open Render

namespace Clause

/-- One place of a column list. -/
inductive Entry where
  | token (v : Value)
  | directed (column : Value) (direction : String)

namespace Entry

/-- The direction as text in upper case is one of the two keywords. -/
def isDirection (v : Value) : Bool := Text.upper v.asText ∈ ["ASC", "DESC"]

def ofItem : Value → List Entry
  | .dict pairs =>
    (pairs.filter fun e => isDirection e.2).map fun e => directed e.1 (Text.upper e.2.asText)
  | v => [token v]

def render (scope : Scope) : Entry → Render String
  | token v => Operand.resolve scope v true
  | directed column direction => do
    let name ← Operand.renderIdentifier scope column true
    return name ++ " " ++ direction

end Entry

def entries (items : List Value) : List Entry := items.flatMap Entry.ofItem

/-- Columns are declared, and none of them gives an entry. -/
def Bare (items : List Value) : Prop := items ≠ [] ∧ entries items = []

instance (items : List Value) : Decidable (Bare items) :=
  decidable_of_iff (items.isEmpty = false ∧ (entries items).isEmpty = true) (by simp [Bare])

/-- What gives no entry is a mapping without a direction. -/
theorem bare_iff (items : List Value) :
    Bare items ↔ items ≠ [] ∧
      ∀ v ∈ items, ∃ pairs, v = .dict pairs ∧ ∀ e ∈ pairs, Entry.isDirection e.2 = false := by
  refine and_congr_right fun _ => ?_
  rw [entries, List.flatMap_eq_nil_iff]
  refine forall₂_congr fun v _ => ?_
  cases v with
  | dict pairs => simp [Entry.ofItem]
  | _ => simp [Entry.ofItem]

theorem keyword_ofValue? (v : Value) :
    (Direction.ofValue? v).map Direction.keyword =
      if Entry.isDirection v then some (Text.upper v.asText) else none := by
  unfold Direction.ofValue? Direction.ofKeyword? Entry.isDirection
  split
  · next h => simp [h, Direction.keyword]
  · next h => simp [h, Direction.keyword]
  · next hasc hdesc =>
    have hneither : Text.upper v.asText ∉ ["ASC", "DESC"] := by
      simpa using ⟨hasc, hdesc⟩
    simp [hneither]

variable (scope : Scope)

variable {p q : Progress} {texts : List String}

/-- A mapping that is rendered has its directions written as well, the unknown ones among them. -/
theorem directed_ok {pairs : List (Value × Value)}
    (h : (directed scope pairs).exec p = (.ok texts, q)) :
    ((Entry.ofItem (.dict pairs)).mapM (Entry.render scope)).exec p = (.ok texts, q) := by
  induction pairs generalizing texts p with
  | nil => exact h
  | cons pair rest ih =>
    obtain ⟨column, v⟩ := pair
    rw [directed, exec_bind_ok_iff] at h
    obtain ⟨_, p', hdemand, h⟩ := h
    obtain rfl : p = p' := congrArg Prod.snd ((Operand.exec_demand v p).symm.trans hdemand)
    have hkeyword := keyword_ofValue? v
    cases hdirection : Direction.ofValue? v with
    | none =>
      -- The direction is not known, and the entry is that of the rest.
      have hnot : Entry.isDirection v = false := by
        cases hv : Entry.isDirection v with
        | false => rfl
        | true => simp [hdirection, hv] at hkeyword
      rw [hdirection] at h
      simpa [Entry.ofItem, hnot] using ih h
    | some direction =>
      have hkeeps : Entry.isDirection v = true ∧ direction.keyword = Text.upper v.asText := by
        cases hv : Entry.isDirection v with
        | false => simp [hdirection, hv] at hkeyword
        | true => simpa [hdirection, hv] using hkeyword
      simp only [hdirection, exec_bind_ok_iff, exec_pure, Prod.mk.injEq, Except.ok.injEq] at h
      obtain ⟨name, p', hname, others, q', hothers, rfl, rfl⟩ := h
      have hrest := ih hothers
      simp only [Entry.ofItem] at hrest
      simp only [Entry.ofItem, hkeeps.1, List.filter_cons_of_pos, List.map_cons, List.mapM_cons,
        Entry.render, exec_bind_ok_iff, exec_pure, Prod.mk.injEq, Except.ok.injEq]
      exact ⟨_, p', ⟨name, p', hname, rfl, rfl⟩, others, q', hrest, by rw [hkeeps.2], rfl⟩

theorem columnEntries_ok {v : Value} (h : (columnEntries scope v).exec p = (.ok texts, q)) :
    ((Entry.ofItem v).mapM (Entry.render scope)).exec p = (.ok texts, q) := by
  cases v with
  | dict pairs => exact directed_ok scope h
  | _ =>
    simpa only [columnEntries, Entry.ofItem, List.mapM_cons, List.mapM_nil, Entry.render,
      pure_bind] using h

/-- A column list is rendered entry by entry. -/
theorem columnList_ok {items : List Value}
    (h : (columnList scope items).exec p = (.ok texts, q)) :
    ((entries items).mapM (Entry.render scope)).exec p = (.ok texts, q) := by
  induction items generalizing texts p with
  | nil => exact h
  | cons v rest ih =>
    simp only [columnList, exec_bind_ok_iff, exec_pure, Prod.mk.injEq, Except.ok.injEq] at h
    obtain ⟨first, p', hfirst, others, q', hothers, rfl, rfl⟩ := h
    simp only [entries, List.flatMap_cons, List.mapM_append, exec_bind_ok_iff, exec_pure,
      Prod.mk.injEq, Except.ok.injEq]
    exact ⟨first, p', columnEntries_ok scope hfirst, others, q', ih hothers, rfl, rfl⟩

/-- What becomes of a clause with these entries: there is none, or it lists them all in order. -/
inductive Lists (keyword : String) (p : Progress) : List Entry → Passage → Prop where
  | nothing : Lists keyword p [] ⟨"", p⟩
  | listed {l : List Entry} {texts : List String} {q : Progress} (hsome : l ≠ [])
      (htexts : (l.mapM (Entry.render scope)).exec p = (.ok texts, q)) :
      Lists keyword p l ⟨keyword ++ " " ++ Text.joinWith ",\n" texts ++ "\n", q⟩

theorem lists_nil_iff (keyword : String) (p : Progress) (c : Passage) :
    Lists scope keyword p [] c ↔ c = ⟨"", p⟩ := by
  constructor
  · rintro (_ | ⟨hsome, _⟩)
    · rfl
    · exact absurd rfl hsome
  · rintro rfl
    exact .nothing

/-- Once something is declared the keyword is written, and behind it whatever entries there are. -/
theorem columns_cons_ok {keyword : String} {v : Value} {rest : List Value} {c : Passage}
    (h : (columns scope keyword (v :: rest)).Yields p c) :
    ∃ texts, ((entries (v :: rest)).mapM (Entry.render scope)).exec p = (.ok texts, c.after) ∧
      c.text = keyword ++ " " ++ Text.joinWith ",\n" texts ++ "\n" := by
  simp only [Yields, columns, List.isEmpty_cons, Bool.false_eq_true, if_false,
    exec_bind_ok_iff, exec_pure, Prod.mk.injEq, Except.ok.injEq, separator] at h
  obtain ⟨texts, _, htexts, htext, rfl⟩ := h
  exact ⟨texts, columnList_ok scope htexts, htext.symm⟩

/-- A clause that was declared with no entry at all is its keyword; any other is as it should be. -/
theorem columns_ok {keyword : String} {items : List Value} {c : Passage}
    (h : (columns scope keyword items).Yields p c) :
    if Bare items then c = ⟨keyword ++ " \n", p⟩
    else Lists scope keyword p (entries items) c := by
  obtain ⟨text, q⟩ := c
  cases items with
  | nil =>
    rw [if_neg fun hbare => hbare.1 rfl, show entries [] = [] from rfl, lists_nil_iff]
    simpa [Yields, columns, eq_comm] using h
  | cons v rest =>
    obtain ⟨texts, htexts, rfl⟩ := columns_cons_ok scope h
    cases hentries : entries (v :: rest) with
    | nil =>
      have hbare : keyword ++ " " ++ Text.joinWith ",\n" [] ++ "\n" = keyword ++ " \n" := by
        rw [show Text.joinWith ",\n" [] = "" from rfl, String.append_empty, String.append_assoc]
        rfl
      rw [if_pos ⟨List.cons_ne_nil v rest, hentries⟩]
      rw [hentries] at htexts
      cases htexts
      exact congrArg (Passage.mk · q) hbare
    | cons first others =>
      rw [hentries] at htexts
      rw [if_neg fun hbare => List.cons_ne_nil first others (hentries.symm.trans hbare.2)]
      exact .listed (List.cons_ne_nil first others) htexts

end Clause

/-- The two clauses that list columns. -/
inductive ColumnClause where
  | grouping
  | ordering

namespace ColumnClause

def keyword : ColumnClause → String
  | grouping => "GROUP BY"
  | ordering => "ORDER BY"

def part : ColumnClause → Part
  | grouping => .grouping
  | ordering => .ordering

/-- What was declared for the clause. -/
def items : ColumnClause → Draft → List Value
  | grouping, d => d.grouping
  | ordering, d => d.ordering

/-- A declaration adds its columns to its own clause. -/
theorem items_declare (clause : ColumnClause) (d : Draft) (a : Declaration) :
    clause.items (d.declare a).draft =
      clause.items d ++ if a.part = clause.part then a.items else [] := by
  by_cases hpart : a.part = clause.part
  · rw [if_pos hpart]
    cases clause with
    | grouping =>
      obtain ⟨v, rfl⟩ := Part.exists_eq_call (show Part.grouping.call? = some .group from rfl) hpart
      rfl
    | ordering =>
      obtain ⟨v, rfl⟩ := Part.exists_eq_call (show Part.ordering.call? = some .order from rfl) hpart
      rfl
  · rw [if_neg hpart, List.append_nil, Draft.draft_declare]
    cases clause <;> cases hother : a.part <;> first
      | rfl
      | exact absurd hother hpart

/-- The columns of several calls stand in the order of the calls. -/
theorem items_proceed (clause : ColumnClause) (d : Draft) (calls : List Declaration) :
    clause.items (d.proceed calls) = clause.items d ++ clause.part.items calls := by
  induction calls generalizing d with
  | nil => exact (List.append_nil _).symm
  | cons a rest ih =>
    rw [Draft.proceed, ih, items_declare, List.append_assoc]
    by_cases hpart : a.part = clause.part
    · simp [hpart, Part.items, Part.of]
    · simp [hpart, Part.items, Part.of_cons_of_ne hpart]

end ColumnClause

namespace Draft

/-- The clauses of a build in front of the limit. -/
structure Clauses where
  head : Passage
  filter : Passage
  grouping : Passage
  having : Passage
  ordering : Passage

namespace Clauses

def text (c : Clauses) : String :=
  c.head.text ++ c.filter.text ++ c.grouping.text ++ c.having.text ++ c.ordering.text

/-- Where a list of columns begins. -/
def before (c : Clauses) : ColumnClause → Progress
  | .grouping => c.filter.after
  | .ordering => c.having.after

def columns (c : Clauses) : ColumnClause → Passage
  | .grouping => c.grouping
  | .ordering => c.ordering

end Clauses

/-- The clauses that a build writes, each behind the one before. -/
structure Writes (d : Draft) (operators : OperatorTable) (c : Clauses) : Prop where
  head : ∃ s, d.statement = some s ∧
    (s.render d.scope (Join.renderAll (d.context operators "on") d.joins)).Yields .start c.head
  filter : (Clause.allOfAny (d.context operators "where") "WHERE" d.filter).Yields
    c.head.after c.filter
  having : (Clause.allOfAny (d.context operators "having") "HAVING" d.having).Yields
    c.grouping.after c.having
  columns : ∀ clause : ColumnClause,
    (Clause.columns d.scope clause.keyword (clause.items d)).Yields (c.before clause)
      (c.columns clause)

/-- The text of a build is that of its clauses and the limit. -/
theorem exists_writes {d : Draft} {operators : OperatorTable} {text : String}
    (h : (d.build operators).1 = .ok text) :
    ∃ c, d.Writes operators c ∧ text = c.text ++ d.limit.getD "" := by
  rw [build_eq_run, run] at h
  obtain ⟨q, hrun⟩ : ∃ q, (d.render operators).exec .start = (.ok text, q) :=
    ⟨_, Prod.ext h rfl⟩
  unfold render at hrun
  cases hstatement : d.statement with
  | none =>
    rw [hstatement] at hrun
    cases hrun
  | some s =>
    simp only [hstatement, exec_bind_ok_iff] at hrun
    obtain ⟨head, p₀, hhead, filter, p₁, hfilter, grouping, p₂, hgrouping, having, p₃, hhaving,
      ordering, p₄, hordering, _, _, _, _, _, _, hpure⟩ := hrun
    cases hpure
    refine ⟨⟨⟨head, p₀⟩, ⟨filter, p₁⟩, ⟨grouping, p₂⟩, ⟨having, p₃⟩, ⟨ordering, p₄⟩⟩,
      ⟨⟨s, hstatement, hhead⟩, hfilter, hhaving, ?_⟩, rfl⟩
    rintro (_ | _)
    · exact hgrouping
    · exact hordering

/-- GROUP BY and ORDER BY list the entries of what was declared for them, in order, and are left
out where there are none, except where columns were declared and none of them gives an entry: then
all of them are mappings without a direction, and the clause is its keyword with nothing behind
it. -/
theorem column_clauses (d : Draft) (calls : List Declaration) (operators : OperatorTable)
    {text : String} (h : ((d.proceed calls).build operators).1 = .ok text) :
    ∃ c : Clauses, (d.proceed calls).Writes operators c ∧
      text = c.text ++ (d.proceed calls).limit.getD "" ∧
      ∀ clause : ColumnClause,
        let items := clause.items d ++ clause.part.items calls
        (Clause.Lists (d.proceed calls).scope clause.keyword (c.before clause)
          (Clause.entries items) (c.columns clause) ↔ ¬Clause.Bare items) ∧
        (Clause.Bare items →
          (∀ v ∈ items, ∃ pairs, v = .dict pairs ∧
            ∀ e ∈ pairs, Clause.Entry.isDirection e.2 = false) ∧
          c.columns clause = ⟨clause.keyword ++ " \n", c.before clause⟩) := by
  obtain ⟨c, hwrites, htext⟩ := exists_writes h
  refine ⟨c, hwrites, htext, fun clause => ?_⟩
  have hyields := hwrites.columns clause
  rw [ColumnClause.items_proceed] at hyields
  have hcolumns := Clause.columns_ok _ hyields
  intro items
  by_cases hbare : Clause.Bare items
  · rw [if_pos hbare] at hcolumns
    have hmappings := ((Clause.bare_iff items).mp hbare).2
    refine ⟨⟨fun hlists => ?_, fun hsome => absurd hbare hsome⟩, fun _ => ⟨hmappings, hcolumns⟩⟩
    rw [hbare.2, Clause.lists_nil_iff, hcolumns] at hlists
    have hlength := congrArg (fun c => c.text.length) hlists
    simp at hlength
  · rw [if_neg hbare] at hcolumns
    exact ⟨⟨fun _ => hbare, fun _ => hcolumns⟩, fun h => absurd h hbare⟩

/-- A direction other than the two, on the only column of ORDER BY. -/
def sidewaysOrder : List Declaration := [
  .statement .select .null [("table", .text "user"), ("columns", .list [.text "*"])],
  .order (.list [.dict [(.text "u.age", .text "sideways")]])]

theorem column_clauses_sideways :
    let d := (empty false).proceed sidewaysOrder
    let declared := ColumnClause.ordering.part.items sidewaysOrder
    (d.build .standard).1 = .ok "SELECT *\nFROM `user`\nORDER BY \n" ∧
      Clause.Bare declared ∧
      ∃ c, d.Writes .standard c ∧ c.ordering = ⟨"ORDER BY \n", c.having.after⟩ ∧
        ¬Clause.Lists d.scope "ORDER BY" c.having.after (Clause.entries declared) c.ordering := by
  intro d declared
  have hbuild : (d.build .standard).1 = .ok "SELECT *\nFROM `user`\nORDER BY \n" := by
    decide +kernel
  have hbare : Clause.Bare declared := by decide
  obtain ⟨c, hwrites, -, hclauses⟩ := column_clauses (empty false) sidewaysOrder .standard hbuild
  obtain ⟨hlists, hkeyword⟩ := hclauses .ordering
  exact ⟨hbuild, hbare, c, hwrites, (hkeyword hbare).2, fun h => hlists.mp h hbare⟩

end Draft

end SqlDraft
