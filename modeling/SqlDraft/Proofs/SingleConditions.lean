import SqlDraft.Proofs.Interleaving
import SqlDraft.Proofs.Logic.Conditions
import SqlDraft.Proofs.PlainForms
import SqlDraft.Proofs.WrappedNames

/-!
One condition declared without a list around it. A text and a mapping are taken for lists of their
own, so they do what they do in a list and stand in the clause that is built. A condition that is
one already is taken for the list of its named parts, none of which is read as a condition: a
lenient draft declares nothing, and a strict one refuses the first part.
-/
namespace SqlDraft

/-- Where conditions are declared: for rows, for groups, and for a join of a table. -/
inductive ConditionClause where
  | filter
  | having
  | on (type table : Value)

namespace ConditionClause

def name : ConditionClause → String
  | filter => "where"
  | having => "having"
  | on .. => "on"

def keyword : ConditionClause → String
  | filter => "WHERE"
  | having => "HAVING"
  | on .. => "ON"

def declaration : ConditionClause → Value → Declaration
  | filter, v => .filter v
  | having, v => .having v
  | on type table, v => .joins (Join.specOf type table v)

/-- The lists of conditions of a draft that are written as such a clause. -/
def lists : ConditionClause → Draft → List (List Condition)
  | filter, d => [d.filter]
  | having, d => [d.having]
  | on .., d => d.joins.map Join.conditions

/-- The clause is of a join that names no table, or one that cannot be written. -/
def Untabled (clause : ConditionClause) : Prop :=
  ∃ type table, clause = on type table ∧ ¬(table ≠ .dict [] ∧ TableRef.isWritable table)

/-- The text has such a clause, and in it what the condition is written as. -/
def Shows (clause : ConditionClause) (scope : Scope) (operators : OperatorTable) (c : Condition)
    (text : String) : Prop :=
  ∃ (before after : List String) (fragment : String) (p q : Progress),
    (c.render ⟨scope, operators, some clause.name⟩).exec p = (.ok fragment, q) ∧
    Text.Within (clause.keyword ++ " " ++ Text.joinWith "\nAND " (before ++ fragment :: after) ++
      "\n") text

/-- What is declared of the clause goes behind what was, or into a join of its own. -/
structure Takes (clause : ConditionClause) (d base : Draft) (add : List Condition → Draft) :
    Prop where
  strict : base.strict = d.strict
  declare : ∀ v, d.declare (clause.declaration v) = base.withConditions v add
  injective : Function.Injective add
  stored : ∀ cs, ∃ front, front ++ cs ∈ clause.lists (add cs)

end ConditionClause

open Render Condition ConditionClause

namespace Layout

/-- What a layout inside of another writes stands in the text of the other. -/
theorem within_run {scope : Scope} {l whole : Layout} (h : l <:+: whole) {p q : Progress}
    {text : String} (hrun : (whole.run scope).exec p = (.ok text, q)) :
    ∃ part p' q', (l.run scope).exec p' = (.ok part, q') ∧ Text.Within part text := by
  obtain ⟨front, back, rfl⟩ := h
  simp only [run_append, exec_bind_ok_iff, exec_pure, Prod.mk.injEq, Except.ok.injEq] at hrun
  obtain ⟨_, _, ⟨first, p', -, part, q', hpart, rfl, rfl⟩, last, _, -, rfl, -⟩ := hrun
  exact ⟨part, p', q', hpart, first, last, rfl⟩

end Layout

/-- The joins of a statement are written together. -/
theorem Statement.joins_infix_layout (joins : Layout) (s : Statement) :
    joins <:+: s.layout joins := by
  cases s with
  | select table columns =>
    exact ((List.suffix_cons _ joins).trans (List.suffix_append _ _)).isInfix
  | insert table columns duplicates => exact (List.suffix_append _ joins).isInfix
  | update table columns =>
    refine List.IsInfix.trans ?_ (List.prefix_append _ _).isInfix
    exact (List.suffix_cons _ joins).isInfix.trans (List.prefix_append _ _).isInfix
  | delete table => exact (List.suffix_cons _ joins).isInfix

namespace ConditionClause

variable {d : Draft} {operators : OperatorTable}

theorem allOfAny_layout {clause keyword : String} {cs : List Condition} (h : cs ≠ []) :
    Clause.allOfAnyLayout operators clause keyword cs =
      Clause.allOfLayout operators clause keyword cs := by
  rw [Clause.allOfAnyLayout, if_neg (by simpa using h)]

/-- Each list of conditions is written as one clause. -/
theorem infix_layout (clause : ConditionClause) {s : Statement} (hs : d.statement = some s)
    {cs : List Condition} (hcs : cs ∈ clause.lists d) (hsome : cs ≠ []) :
    Clause.allOfLayout operators clause.name clause.keyword cs <:+: d.layout operators := by
  simp only [Draft.layout, hs, List.append_assoc]
  cases clause with
  | filter =>
    obtain rfl : cs = d.filter := List.mem_singleton.mp hcs
    rw [name, keyword, ← allOfAny_layout hsome]
    exact List.infix_append' _ _ _
  | having =>
    obtain rfl : cs = d.having := List.mem_singleton.mp hcs
    rw [name, keyword, ← allOfAny_layout hsome]
    refine List.IsInfix.trans ?_ (List.suffix_append _ _).isInfix
    refine List.IsInfix.trans ?_ (List.suffix_append _ _).isInfix
    exact List.infix_append' _ _ _
  | on type table =>
    obtain ⟨join, hjoin, rfl⟩ := List.mem_map.mp hcs
    obtain ⟨front, back, hsplit⟩ := List.append_of_mem hjoin
    have hown : Clause.allOfLayout operators "on" "ON" join.conditions <:+:
        Join.layout operators join :=
      ((List.suffix_cons _ _).trans (List.suffix_cons _ _)).isInfix
    have hjoins : Clause.allOfLayout operators "on" "ON" join.conditions <:+:
        d.joins.flatMap (Join.layout operators) := by
      rw [hsplit, List.flatMap_append, List.flatMap_cons]
      exact hown.trans (List.infix_append' _ _ _)
    exact (hjoins.trans (Statement.joins_infix_layout _ s)).trans (List.prefix_append _ _).isInfix

end ConditionClause

/-- Each condition of a list has its own part of what is written. -/
theorem Condition.exists_part {ctx : RenderContext} {c : Condition} {cs : List Condition}
    (hc : c ∈ cs) {p q : Progress} {parts : List String}
    (h : (renderAll ctx cs).exec p = (.ok parts, q)) :
    ∃ before fragment after p' q', parts = before ++ fragment :: after ∧
      (render ctx c).exec p' = (.ok fragment, q') := by
  obtain ⟨front, back, rfl⟩ := List.append_of_mem hc
  simp only [renderAll_append, renderAll, bind_assoc, pure_bind, exec_bind_ok_iff, exec_pure,
    Prod.mk.injEq, Except.ok.injEq] at h
  obtain ⟨before, p', -, fragment, q', hfragment, after, _, -, rfl, -⟩ := h
  exact ⟨before, fragment, after, p', q', rfl, hfragment⟩

namespace ConditionClause

/-- What is stored for a clause stands in every text that is built of the draft. -/
theorem shows_of_mem (clause : ConditionClause) {d : Draft} {operators : OperatorTable}
    {cs : List Condition} (hcs : cs ∈ clause.lists d) {c : Condition} (hc : c ∈ cs) {text : String}
    (h : (d.build operators).1 = .ok text) : clause.Shows d.scope operators c text := by
  obtain ⟨s, hs⟩ := Draft.statement_of_build_ok h
  rw [Draft.build_fst] at h
  have hinfix : Clause.allOfLayout operators clause.name clause.keyword cs <:+:
      d.layout operators := clause.infix_layout hs hcs (List.ne_nil_of_mem hc)
  obtain ⟨part, p, q, hpart, hwithin⟩ := Layout.within_run hinfix (Prod.ext h rfl)
  rw [← Clause.allOf_eq_run, Clause.allOf] at hpart
  simp only [exec_bind_ok_iff, exec_pure, Prod.mk.injEq, Except.ok.injEq] at hpart
  obtain ⟨parts, _, hparts, rfl, -⟩ := hpart
  obtain ⟨before, fragment, after, p', q', rfl, hfragment⟩ := exists_part hc hparts
  exact ⟨before, after, fragment, p', q', hfragment, hwithin⟩

/-- What is stored later goes behind the conditions that are there, or into other joins. -/
theorem exists_longer (clause : ConditionClause) {d d' : Draft} (h : Draft.Change d d')
    {cs : List Condition} (hcs : cs ∈ clause.lists d) : ∃ more, cs ++ more ∈ clause.lists d' := by
  cases clause with
  | filter =>
    obtain rfl : cs = d.filter := List.mem_singleton.mp hcs
    cases h with
    | filter more => exact ⟨more, List.mem_singleton.mpr rfl⟩
    | _ => exact ⟨[], List.mem_singleton.mpr (List.append_nil _)⟩
  | having =>
    obtain rfl : cs = d.having := List.mem_singleton.mp hcs
    cases h with
    | having more => exact ⟨more, List.mem_singleton.mpr rfl⟩
    | _ => exact ⟨[], List.mem_singleton.mpr (List.append_nil _)⟩
  | on type table =>
    refine ⟨[], ?_⟩
    rw [List.append_nil]
    cases h with
    | join =>
      rw [lists, List.map_append]
      exact List.mem_append_left _ hcs
    | _ => exact hcs

theorem mem_lists_proceed (clause : ConditionClause) {d : Draft} {c : Condition}
    (h : ∃ cs ∈ clause.lists d, c ∈ cs) (calls : List Declaration) :
    ∃ cs ∈ clause.lists (d.proceed calls), c ∈ cs := by
  refine (Draft.changes_proceed d calls).preserve
    (P := fun other => ∃ cs ∈ clause.lists other, c ∈ cs) (fun hchange hd => ?_) h
  obtain ⟨cs, hcs, hc⟩ := hd
  obtain ⟨more, hmore⟩ := clause.exists_longer hchange hcs
  exact ⟨cs ++ more, hmore, List.mem_append_left more hc⟩

end ConditionClause

namespace Draft

theorem declareEach_singleton (d : Draft) (spec : Value) :
    d.declareEach [spec] = d.declareJoin spec := by
  rcases h : d.declareJoin spec with ⟨draft, notices, _ | e⟩ <;>
    simp [declareEach, h, done]

/-- Joins that do the same on every draft may take each other's place among others. -/
theorem declareEach_replace {spec spec' : Value}
    (h : ∀ d : Draft, d.declareJoin spec = d.declareJoin spec') (before after : List Value)
    (d : Draft) :
    d.declareEach (before ++ spec :: after) = d.declareEach (before ++ spec' :: after) := by
  induction before generalizing d with
  | nil => simp only [List.nil_append, declareEach, h]
  | cons first rest ih => simp only [List.cons_append, declareEach, ih]

end Draft

/-- A join whose table is at fault is refused whatever its conditions are; any other declaration of
conditions puts them in their place. -/
theorem ConditionClause.exists_takes (clause : ConditionClause) (d : Draft) :
    (clause.Untabled ∧ ∃ (base : Draft) (e : Error), ∀ v,
      d.declare (clause.declaration v) = base.refuse e) ∨
      ¬clause.Untabled ∧ ∃ base add, clause.Takes d base add := by
  have hfree (hclause : ∀ type table, clause ≠ on type table) : ¬clause.Untabled := by
    rintro ⟨type, table, heq, -⟩
    exact hclause type table heq
  cases clause with
  | filter =>
    refine Or.inr ⟨hfree nofun, d, fun cs => { d with filter := d.filter ++ cs }, rfl, fun _ => rfl,
      ?_, fun cs => ⟨d.filter, List.mem_singleton.mpr rfl⟩⟩
    exact fun cs ds h => List.append_cancel_left (congrArg Draft.filter h)
  | having =>
    refine Or.inr ⟨hfree nofun, d, fun cs => { d with having := d.having ++ cs }, rfl, fun _ => rfl,
      ?_, fun cs => ⟨d.having, List.mem_singleton.mpr rfl⟩⟩
    exact fun cs ds h => List.append_cancel_left (congrArg Draft.having h)
  | on type table =>
    have hsingle (v : Value) : d.declare ((on type table).declaration v) =
        d.declareJoin (Join.specOf type table v) := d.declareEach_singleton _
    have hread (v : Value) : Draft.readJoin (Join.specOf type table v) = .ok (type, table, v) := rfl
    have hok := TableRef.declare_ok_iff d.identifiers "joins" table
    rcases htable : TableRef.declare d.identifiers "joins" table with ⟨ids, e | named⟩
    · refine Or.inl ⟨⟨type, table, rfl, ?_⟩, { d with identifiers := ids }, e, fun v => ?_⟩
      · rw [← hok, htable]
        simp
      · simp only [hsingle, Draft.declareJoin, hread, htable]
    · refine Or.inr ⟨?_, { d with identifiers := ids },
        fun cs => { d with identifiers := ids, joins := d.joins ++ [⟨type, named, cs⟩] },
        rfl, fun v => ?_, fun cs ds h => ?_, fun cs => ⟨[], ?_⟩⟩
      · rintro ⟨_, _, heq, hnot⟩
        cases heq
        rw [← hok, htable] at hnot
        exact hnot ⟨named, rfl⟩
      · simp only [hsingle, Draft.declareJoin, hread, htable]
      · have hjoins := List.append_cancel_left (congrArg Draft.joins h)
        simpa using hjoins
      · simp [lists]

namespace Condition

/-- The named parts of a condition, as it is taken for a list. -/
def parts (c : Condition) : List Value := c.fields.map fun f => .tuple [.text f.1, f.2]

theorem readAll_parts (c : Condition) : readAll c.parts = ([], c.parts) := by
  cases c <;> rfl

theorem parts_ne_nil (c : Condition) : c.parts ≠ [] := by
  cases c <;> exact List.cons_ne_nil _ _

end Condition

namespace ConditionList

theorem ofClause_listed (strict : Bool) {x : Value} (hx : isRecognised x = true)
    (hsingle : x.items? = none) (hplain : ∀ c, x ≠ .condition c) :
    ofClause strict x = ofClause strict (.list [x]) := by
  cases x with
  | text s => rfl
  | dict entries => rfl
  | condition c => exact absurd rfl (hplain c)
  | list items => cases hsingle
  | tuple items => cases hsingle
  | _ => cases hx

theorem ofClause_condition (c : Condition) :
    ofClause false (.condition c) = ⟨[], c.parts.map .skipped, none⟩ ∧
      ∃ part ∈ c.parts,
        ofClause true (.condition c) =
          ⟨[], [], some (Error.unrecognisedCondition part).raised⟩ := by
  have hitems (strict : Bool) : ofClause strict (.condition c) = ofItems strict c.parts := rfl
  simp only [hitems, ofItems, readAll_parts]
  obtain ⟨part, rest, hparts⟩ := List.exists_cons_of_ne_nil c.parts_ne_nil
  rw [hparts]
  exact ⟨rfl, part, List.mem_cons_self, rfl⟩

theorem ofClause_singleton (strict : Bool) (c : Condition) :
    ofClause strict (.list [.condition c]) = ⟨[c], [], none⟩ := by
  cases strict <;> rfl

end ConditionList

open ConditionList

namespace ConditionClause

variable {clause : ConditionClause} {d base : Draft} {add : List Condition → Draft}

/-- A condition that stands alone is passed over by a lenient draft and refused by a strict one. -/
theorem Takes.declare_condition (h : clause.Takes d base add) (c : Condition) :
    (d.strict = false → d.declare (clause.declaration (.condition c)) =
      ⟨add [], c.parts.map .skipped, none⟩) ∧
    (d.strict = true → ∃ part ∈ c.parts, d.declare (clause.declaration (.condition c)) =
      ⟨base, [], some (Error.unrecognisedCondition part).raised⟩) := by
  obtain ⟨hlenient, part, hpart, hstrict⟩ := ofClause_condition c
  simp only [h.declare, Draft.withConditions, h.strict]
  constructor
  · intro hd
    simp only [hd, hlenient]
  · intro hd
    exact ⟨part, hpart, by simp only [hd, hstrict]⟩

theorem Takes.declare_listed (h : clause.Takes d base add) (c : Condition) :
    d.declare (clause.declaration (.list [.condition c])) = ⟨add [c], [], none⟩ := by
  simp only [h.declare, Draft.withConditions, ofClause_singleton]

/-- So it never does what it does in a list. -/
theorem Takes.declare_condition_ne (h : clause.Takes d base add) (c : Condition) :
    d.declare (clause.declaration (.condition c)) ≠
      d.declare (clause.declaration (.list [.condition c])) := by
  rw [h.declare_listed c]
  intro heq
  obtain ⟨hlenient, hstrict⟩ := h.declare_condition c
  cases hd : d.strict with
  | false =>
    rw [hlenient hd] at heq
    exact List.cons_ne_nil c [] (h.injective (congrArg Outcome.draft heq)).symm
  | true =>
    obtain ⟨part, -, hrefused⟩ := hstrict hd
    rw [hrefused] at heq
    cases congrArg Outcome.error heq

theorem Takes.declare_empty (h : clause.Takes d base add) :
    d.declare (clause.declaration (.list [])) = ⟨add [], [], none⟩ := by
  rw [h.declare, Draft.withConditions]
  cases base.strict <;> rfl

/-- The list of one condition is declared unless a strict draft finds fault with what is inside. -/
theorem Takes.declare_singleton_iff (h : clause.Takes d base add) {x : Value} :
    (d.declare (clause.declaration (.list [x]))).error = none ↔
      (d.strict = true → (read x).2 = []) := by
  have hinside : (readAll [x]).2 = (read x).2 := List.append_nil _
  rw [h.declare, ← h.strict, ← hinside]
  constructor
  · intro hdone
    obtain ⟨items, hlisted, hreadable, -⟩ :=
      (Draft.withConditions_done_iff base _ (.list [x]) add).mp ⟨hdone, rfl⟩
    cases hlisted
    exact hreadable
  · intro hreadable
    exact ((Draft.withConditions_done_iff base _ _ add).mpr ⟨[x], rfl, hreadable, rfl⟩).1

/-- A condition that is read of a list without an error is stored. -/
theorem Takes.mem_lists (h : clause.Takes d base add) {x : Value} {c : Condition}
    (hread : (read x).1 = some c)
    (hdone : (d.declare (clause.declaration (.list [x]))).error = none) :
    ∃ cs ∈ clause.lists (d.declare (clause.declaration (.list [x]))).draft, c ∈ cs := by
  rw [h.declare] at hdone ⊢
  obtain ⟨items, hlisted, -, hadded⟩ :=
    (Draft.withConditions_done_iff base _ (.list [x]) add).mp ⟨hdone, rfl⟩
  cases hlisted
  obtain ⟨front, hfront⟩ := h.stored (readAll [x]).1
  rw [← hadded]
  exact ⟨_, hfront, List.mem_append_right front (by simp [readAll, hread])⟩

/-- A recognised item does alone what it does in a list unless it is a condition already. -/
theorem declare_eq_listed_iff (clause : ConditionClause) (d : Draft) {x : Value}
    (hx : isRecognised x = true) (hsingle : x.items? = none) :
    d.declare (clause.declaration x) = d.declare (clause.declaration (.list [x])) ↔
      (∀ c, x ≠ .condition c) ∨ clause.Untabled := by
  rcases clause.exists_takes d with ⟨huntabled, _, e, hrefused⟩ | ⟨htabled, base, add, htakes⟩
  · rw [hrefused, hrefused]
    exact iff_of_true rfl (Or.inr huntabled)
  · constructor
    · refine fun hsame => Or.inl ?_
      rintro c rfl
      exact htakes.declare_condition_ne c hsame
    · intro hplain
      rw [htakes.declare, htakes.declare]
      refine base.withConditions_congr add (ofClause_listed base.strict hx hsingle ?_)
      exact hplain.resolve_right htabled

/-- A condition that stands alone leaves a lenient draft as an empty list does. -/
theorem declare_condition (clause : ConditionClause) (d : Draft) (c : Condition) :
    (d.strict = false → (d.declare (clause.declaration (.condition c))).draft =
      (d.declare (clause.declaration (.list []))).draft) ∧
    (d.strict = true → ¬clause.Untabled → ∃ part ∈ c.parts,
      (d.declare (clause.declaration (.condition c))).error =
        some (Error.unrecognisedCondition part).raised) := by
  rcases clause.exists_takes d with ⟨huntabled, _, e, hrefused⟩ | ⟨-, base, add, htakes⟩
  · exact ⟨fun _ => by rw [hrefused, hrefused], fun _ htabled => absurd huntabled htabled⟩
  · obtain ⟨hlenient, hstrict⟩ := htakes.declare_condition c
    constructor
    · intro hd
      rw [hlenient hd, htakes.declare_empty]
    · intro hd _
      obtain ⟨part, hpart, hrefused⟩ := hstrict hd
      exact ⟨part, hpart, by rw [hrefused]⟩

theorem declare_singleton_done_iff (clause : ConditionClause) (d : Draft) (x : Value) :
    (d.declare (clause.declaration (.list [x]))).error = none ↔
      ¬clause.Untabled ∧ (d.strict = true → (read x).2 = []) := by
  rcases clause.exists_takes d with ⟨huntabled, _, e, hrefused⟩ | ⟨htabled, base, add, htakes⟩
  · rw [hrefused]
    exact iff_of_false (Option.some_ne_none e) fun h => h.1 huntabled
  · rw [htakes.declare_singleton_iff, and_iff_right htabled]

/-- A condition that is declared in a list stands in every text that is built later. -/
theorem shows_of_declare (clause : ConditionClause) (d : Draft) {x : Value} {c : Condition}
    (hread : (read x).1 = some c)
    (hdone : (d.declare (clause.declaration (.list [x]))).error = none)
    (calls : List Declaration) {operators : OperatorTable} {text : String}
    (hbuilt : (((d.declare (clause.declaration (.list [x]))).draft.proceed calls).build
      operators).1 = .ok text) :
    clause.Shows ((d.declare (clause.declaration (.list [x]))).draft.proceed calls).scope
      operators c text := by
  rcases clause.exists_takes d with ⟨-, _, e, hrefused⟩ | ⟨-, base, add, htakes⟩
  · rw [hrefused] at hdone
    cases hdone
  · obtain ⟨cs, hcs, hc⟩ := clause.mem_lists_proceed (htakes.mem_lists hread hdone) calls
    exact clause.shows_of_mem hcs hc hbuilt

end ConditionClause

namespace Draft

/-- What is recognised as one condition, and is no list, does what it does in a list exactly if it
is a text or a mapping; a join whose table is at fault is refused either way. A condition that is
one already is lost: a lenient draft is left as by an empty list, and a strict one refuses a part of
it. In a list it is declared, unless a strict draft finds fault with what is inside, and then it
stands in the clause in every text that is built later. -/
theorem single_conditions (d : Draft) (clause : ConditionClause) {x : Value}
    (hx : isRecognised x = true) (hsingle : x.items? = none) :
    (d.declare (clause.declaration x) = d.declare (clause.declaration (.list [x])) ↔
      (∀ c, x ≠ .condition c) ∨ clause.Untabled) ∧
    ((∀ c, x ≠ .condition c) → ∀ type table before after,
      d.declare (.joins (.list (before ++ Join.specOf type table x :: after))) =
        d.declare (.joins (.list (before ++ Join.specOf type table (.list [x]) :: after)))) ∧
    (∀ c, x = .condition c →
      (d.strict = false → (d.declare (clause.declaration x)).draft =
        (d.declare (clause.declaration (.list []))).draft) ∧
      (d.strict = true → ¬clause.Untabled → ∃ part ∈ c.parts,
        (d.declare (clause.declaration x)).error =
          some (Error.unrecognisedCondition part).raised)) ∧
    ∃ c, (read x).1 = some c ∧
      let outcome := d.declare (clause.declaration (.list [x]))
      (outcome.error = none ↔ ¬clause.Untabled ∧ (d.strict = true → (read x).2 = [])) ∧
      (outcome.error = none → ∀ calls operators text,
        ((outcome.draft.proceed calls).build operators).1 = .ok text →
        clause.Shows (outcome.draft.proceed calls).scope operators c text) := by
  obtain ⟨c, hread⟩ : ∃ c, (read x).1 = some c := by
    cases read_cases x with
    | skipped hshape => simp [hshape] at hx
    | single _ _ _ hread => exact ⟨_, congrArg Prod.fst hread⟩
    | combination _ _ _ hread => exact ⟨_, congrArg Prod.fst hread⟩
  refine ⟨clause.declare_eq_listed_iff d hx hsingle, fun hplain type table before after => ?_, ?_,
    c, hread, clause.declare_singleton_done_iff d x, ?_⟩
  · have hjoin (d : Draft) := d.declareJoin_congr type table
      (ofClause_listed d.strict hx hsingle hplain)
    exact declareEach_replace hjoin before after d
  · rintro c rfl
    exact clause.declare_condition d c
  · intro hdone calls operators text hbuilt
    exact clause.shows_of_declare d hread hdone calls hbuilt

/-- A comparison alone, as a condition and as a text, on a draft that deletes. -/
theorem single_conditions_deleted :
    let d := (empty false).proceed [.statement .delete .null [("table", .text "user")]]
    let typed : Value := .condition (.leaf (.text "user.id") (.text "=") (some (.int 1)))
    let plain : Value := .text "id = 1"
    let filtered (v : Value) : Draft := (d.declare (.filter v)).draft
    (isRecognised typed = true ∧ typed.items? = none) ∧
      (isRecognised plain = true ∧ plain.items? = none) ∧
      d.declare (.filter typed) ≠ d.declare (.filter (.list [typed])) ∧
      ((filtered typed).build .standard).1 = .ok "DELETE\nFROM `user`\n" ∧
      ((filtered (.list [typed])).build .standard).1 =
        .ok "DELETE\nFROM `user`\nWHERE `user`.`id` = 1\n" ∧
      d.declare (.filter plain) = d.declare (.filter (.list [plain])) ∧
      ConditionClause.filter.Shows (filtered plain).scope .standard (.raw "id = 1")
        "DELETE\nFROM `user`\nWHERE id = 1\n" := by
  intro d typed plain filtered
  obtain ⟨htyped, -⟩ := single_conditions d .filter (x := typed) rfl rfl
  obtain ⟨hplain, -, -, c, hread, hdone, hshows⟩ := single_conditions d .filter (x := plain) rfl rfl
  cases hread
  have htabled : ¬ConditionClause.filter.Untabled := by
    rintro ⟨_, _, heq, -⟩
    cases heq
  have hlenient : d.strict ≠ true := nofun
  have hdeclared := hdone.mpr ⟨htabled, fun hstrict => absurd hstrict hlenient⟩
  refine ⟨⟨rfl, rfl⟩, ⟨rfl, rfl⟩, ?_, by decide +kernel, by decide +kernel,
    hplain.mpr (Or.inl nofun), ?_⟩
  · intro hsame
    rcases htyped.mp hsame with hnone | huntabled
    · exact hnone _ rfl
    · exact htabled huntabled
  · exact hshows hdeclared [] .standard _ (by decide +kernel)

end Draft

end SqlDraft
