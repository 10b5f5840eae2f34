import Mathlib.Data.List.Forall2
import SqlDraft.Proofs.Execution

/-!
Declarations by the point they get to, and lists of them. Declarations that do the same on every
draft may take each other's place, and the limit of a draft has no part in any declaration but that
of a limit; what a build writes of it stands at the end of the text.
-/
namespace SqlDraft

/-- The same outcome on every draft. -/
def Declaration.Same (a b : Declaration) : Prop := ∀ d : Draft, d.declare a = d.declare b

/-- A statement is of the table it is given. It can only lack columns, if it assigns to them. -/
theorem Head.statement_cases (head : Head) (kind : StatementKind) (table : TableRef) :
    (∃ e, head.statement kind table = .error e ∧ assignments kind.name head.columns = .error e ∧
      (kind = .insert ∨ kind = .update)) ∨
    ∃ s, head.statement kind table = .ok s ∧ s.table = table := by
  cases kind with
  | select => exact Or.inr ⟨_, rfl, rfl⟩
  | delete => exact Or.inr ⟨_, rfl, rfl⟩
  | insert =>
    dsimp only [statement]
    cases assignments StatementKind.insert.name head.columns with
    | error e => exact Or.inl ⟨e, rfl, rfl, Or.inl rfl⟩
    | ok columns => exact Or.inr ⟨_, rfl, rfl⟩
  | update =>
    dsimp only [statement]
    cases assignments StatementKind.update.name head.columns with
    | error e => exact Or.inl ⟨e, rfl, rfl, Or.inr rfl⟩
    | ok columns => exact Or.inr ⟨_, rfl, rfl⟩

namespace TableRef

/-- The values that become names of the table. -/
def parts : Value → List Value
  | .dict [] => []
  | .dict ((name, other) :: _) => [name, other]
  | v => [v]

def isWritable (spec : Value) : Bool := (parts spec).all Value.isWritable

theorem outcome_bare (ids : Identifiers) (clause : String) {v : Value}
    (hv : ∀ entries, v ≠ .dict entries) :
    (isWritable v = false ∧ (declare ids clause v).2 = .error (.numeral .unwritable)) ∨
    (v ≠ .dict [] ∧ isWritable v ∧ ∃ t, (declare ids clause v).2 = .ok t) := by
  have hparts : isWritable v = v.isWritable := by
    cases v with
    | dict entries => exact absurd rfl (hv entries)
    | _ => simp [isWritable, parts]
  rw [hparts, declare_bare ids clause hv]
  cases hwritable : v.isWritable with
  | false =>
    rw [Value.write_of_not_isWritable hwritable]
    exact Or.inl ⟨rfl, rfl⟩
  | true =>
    rw [Value.write_of_isWritable hwritable]
    exact Or.inr ⟨hv [], rfl, _, rfl⟩

/-- A table can be declared unless it is empty or has a part that cannot be written. -/
theorem declare_outcome (ids : Identifiers) (clause : String) (spec : Value) :
    (spec = .dict [] ∧ (declare ids clause spec).2 = .error (.emptyTable clause)) ∨
    (isWritable spec = false ∧ (declare ids clause spec).2 = .error (.numeral .unwritable)) ∨
    (spec ≠ .dict [] ∧ isWritable spec ∧ ∃ t, (declare ids clause spec).2 = .ok t) := by
  cases spec with
  | dict entries =>
    cases entries with
    | nil => exact Or.inl ⟨rfl, rfl⟩
    | cons entry rest =>
      obtain ⟨name, other⟩ := entry
      cases hname : name.isWritable with
      | false =>
        have hwrite := Value.write_of_not_isWritable hname
        exact Or.inr (Or.inl ⟨by simp [isWritable, parts, hname], by simp only [declare, hwrite]⟩)
      | true =>
        have hwrite := Value.write_of_isWritable hname
        cases hother : other.isWritable with
        | false =>
          have hwrite' := Value.write_of_not_isWritable hother
          exact Or.inr (Or.inl ⟨by simp [isWritable, parts, hother],
            by simp only [declare, hwrite, hwrite']⟩)
        | true =>
          have hwrite' := Value.write_of_isWritable hother
          exact Or.inr (Or.inr ⟨by simp, by simp [isWritable, parts, hname, hother],
            by simp only [declare, hwrite, hwrite']; exact ⟨_, rfl⟩⟩)
  | _ => exact Or.inr (outcome_bare ids clause fun entries heq => by cases heq)

/-- Whether a table can be declared does not depend on the identifiers that are there. -/
theorem declare_ok_iff (ids : Identifiers) (clause : String) (spec : Value) :
    (∃ t, (declare ids clause spec).2 = .ok t) ↔ spec ≠ .dict [] ∧ isWritable spec := by
  rcases declare_outcome ids clause spec with ⟨rfl, hfailed⟩ | ⟨hnot, hfailed⟩ | ⟨hne, hall, hok⟩
  · simp [hfailed]
  · simp [hfailed, hnot]
  · simp [hok, hne, hall]

end TableRef

namespace Draft

/-- A join is read, then its table is named, then its conditions decide. Where the table cannot be
named, the identifiers that it has brought until then stay. -/
theorem declareJoin_cases (d : Draft) (spec : Value) :
    (∃ e, readJoin spec = .error e ∧ d.declareJoin spec = d.refuse e) ∨
    ∃ type tableSpec conditions ids, readJoin spec = .ok (type, tableSpec, conditions) ∧
      ((∃ e, TableRef.declare d.identifiers "joins" tableSpec = (ids, .error e) ∧
          d.declareJoin spec = { d with identifiers := ids }.refuse e) ∨
        ∃ table, TableRef.declare d.identifiers "joins" tableSpec = (ids, .ok table) ∧
          d.declareJoin spec = ({ d with identifiers := ids } : Draft).withConditions conditions
            fun cs => { d with identifiers := ids, joins := d.joins ++ [⟨type, table, cs⟩] }) := by
  unfold declareJoin
  cases hspec : readJoin spec with
  | error e => exact Or.inl ⟨e, rfl, rfl⟩
  | ok fields =>
    obtain ⟨type, tableSpec, conditions⟩ := fields
    rcases htable : TableRef.declare d.identifiers "joins" tableSpec with ⟨ids, e | table⟩
    · exact Or.inr ⟨type, tableSpec, conditions, ids, rfl,
        Or.inl ⟨e, htable, by simp only [htable]⟩⟩
    · exact Or.inr ⟨type, tableSpec, conditions, ids, rfl,
        Or.inr ⟨table, htable, by simp only [htable]⟩⟩

/-- A statement is read, then its table is named, then only its columns can be at fault. -/
theorem declareStatement_cases (d : Draft) (kind : StatementKind) (payload : Value)
    (fields : List (String × Value)) :
    (∃ e, Head.read kind payload fields = .error e ∧
      d.declareStatement kind payload fields = d.refuse e) ∨
    ∃ head ids, Head.read kind payload fields = .ok head ∧
      ((∃ e, TableRef.declare d.identifiers kind.name head.table = (ids, .error e) ∧
          d.declareStatement kind payload fields = { d with identifiers := ids }.refuse e) ∨
        ∃ table, TableRef.declare d.identifiers kind.name head.table = (ids, .ok table) ∧
          ((∃ e, Head.assignments kind.name head.columns = .error e ∧
              (kind = .insert ∨ kind = .update) ∧
              d.declareStatement kind payload fields = { d with identifiers := ids }.refuse e) ∨
            ∃ s, head.statement kind table = .ok s ∧ s.table = table ∧
              d.declareStatement kind payload fields =
                { d with identifiers := ids, statement := some s }.done
                  [d.statementNotice s])) := by
  unfold declareStatement
  cases hhead : Head.read kind payload fields with
  | error e => exact Or.inl ⟨e, rfl, rfl⟩
  | ok head =>
    rcases htable : TableRef.declare d.identifiers kind.name head.table with ⟨ids, e | table⟩
    · exact Or.inr ⟨head, ids, rfl,
        Or.inl ⟨e, htable, by simp only [htable, bind, Except.bind]⟩⟩
    · refine Or.inr ⟨head, ids, rfl, Or.inr ⟨table, htable, ?_⟩⟩
      rcases Head.statement_cases head kind table with
        ⟨e, hfailed, hcolumns, hkind⟩ | ⟨s, hstatement, hs⟩
      · exact Or.inl ⟨e, hcolumns, hkind, by simp only [htable, bind, Except.bind, hfailed]⟩
      · exact Or.inr ⟨s, hstatement, hs, by simp only [htable, bind, Except.bind, hstatement]⟩

theorem declareAll_congr {l m : List Declaration} (h : List.Forall₂ Declaration.Same l m)
    (d : Draft) : d.declareAll l = d.declareAll m := by
  induction h generalizing d with
  | nil => rfl
  | cons hfirst _ ih => simp only [declareAll, hfirst d, ih]

/-- What follows a list is declared on the draft it leaves, unless it failed. -/
theorem declareAll_append (d : Draft) (l m : List Declaration) :
    d.declareAll (l ++ m) = match (d.declareAll l).error with
      | some _ => d.declareAll l
      | none =>
        let others := (d.declareAll l).draft.declareAll m
        { others with notices := (d.declareAll l).notices ++ others.notices } := by
  induction l generalizing d with
  | nil => rfl
  | cons a rest ih =>
    simp only [List.cons_append, declareAll]
    cases hfirst : (d.declare a).error with
    | some e => simp [hfirst]
    | none =>
      simp only [ih]
      cases hrest : ((d.declare a).draft.declareAll rest).error with
      | some e => simp [hrest]
      | none => simp [List.append_assoc]

/-- The draft after calls one after another, whether they fail or not. -/
def proceed (d : Draft) : List Declaration → Draft
  | [] => d
  | a :: rest => (d.declare a).draft.proceed rest

def withLimit (d : Draft) (limit : Option String) : Draft := { d with limit := limit }

end Draft

def Outcome.withLimit (o : Outcome) (limit : Option String) : Outcome :=
  { o with draft := o.draft.withLimit limit }

namespace Draft

variable (d : Draft) (limit : Option String)

theorem withConditions_withLimit (v : Value) (add : List Condition → Draft)
    {add' : List Condition → Draft} (h : ∀ cs, add' cs = (add cs).withLimit limit) :
    (d.withLimit limit).withConditions v add' = (d.withConditions v add).withLimit limit := by
  simp only [withConditions, withLimit]
  split
  · simp only [h]
    rfl
  · rfl

theorem declareJoin_withLimit (spec : Value) :
    (d.withLimit limit).declareJoin spec = (d.declareJoin spec).withLimit limit := by
  unfold declareJoin
  cases readJoin spec with
  | error e => rfl
  | ok fields =>
    obtain ⟨type, tableSpec, conditions⟩ := fields
    rcases htable : TableRef.declare d.identifiers "joins" tableSpec with ⟨ids, e | table⟩
    · simp only [withLimit, htable]
      rfl
    · simp only [withLimit, htable]
      exact withConditions_withLimit { d with identifiers := ids } limit conditions _ fun _ => rfl

theorem declareEach_withLimit (specs : List Value) :
    (d.withLimit limit).declareEach specs = (d.declareEach specs).withLimit limit := by
  induction specs generalizing d with
  | nil => rfl
  | cons spec rest ih =>
    simp only [declareEach, declareJoin_withLimit]
    cases hfirst : (d.declareJoin spec).error with
    | some e => simp [Outcome.withLimit, hfirst]
    | none => simp [Outcome.withLimit, hfirst, ih]

theorem declareStatement_withLimit (kind : StatementKind) (payload : Value)
    (fields : List (String × Value)) :
    (d.withLimit limit).declareStatement kind payload fields =
      (d.declareStatement kind payload fields).withLimit limit := by
  unfold declareStatement
  cases Head.read kind payload fields with
  | error e => rfl
  | ok head =>
    rcases htable : TableRef.declare d.identifiers kind.name head.table with ⟨ids, declared⟩
    simp only [withLimit, htable]
    cases declared >>= head.statement kind <;> rfl

/-- No declaration but that of a limit reads or writes the limit. -/
theorem declare_withLimit {a : Declaration} (ha : ∀ v, a ≠ .limit v) :
    (d.withLimit limit).declare a = (d.declare a).withLimit limit := by
  cases a with
  | statement kind payload fields => exact declareStatement_withLimit d limit kind payload fields
  | joins specs =>
    simp only [declare, declareJoins]
    cases joinSpecs? specs with
    | some items => exact declareEach_withLimit d limit items
    | none => rfl
  | filter v =>
    exact withConditions_withLimit d limit v (fun cs => { d with filter := d.filter ++ cs })
      fun _ => rfl
  | having v =>
    exact withConditions_withLimit d limit v (fun cs => { d with having := d.having ++ cs })
      fun _ => rfl
  | group v => rfl
  | order v => rfl
  | limit v => exact absurd rfl (ha v)
  | params v => rfl

theorem declareAll_withLimit {l : List Declaration} (hl : ∀ a ∈ l, ∀ v, a ≠ .limit v) :
    (d.withLimit limit).declareAll l = (d.declareAll l).withLimit limit := by
  induction l generalizing d with
  | nil => rfl
  | cons a rest ih =>
    have hrest : ∀ b ∈ rest, ∀ v, b ≠ .limit v := fun b hb => hl b (List.mem_cons_of_mem a hb)
    simp only [declareAll, declare_withLimit d limit (hl a List.mem_cons_self)]
    cases hfirst : (d.declare a).error with
    | some e => simp [Outcome.withLimit, hfirst]
    | none => simp [Outcome.withLimit, hfirst, ih (d.declare a).draft hrest]

/-- The clause of a limit ends the text. -/
theorem render_withLimit (operators : OperatorTable) (text : String) :
    (d.withLimit (some text)).render operators =
      ((d.withLimit none).render operators >>= fun sql => pure (sql ++ text)) := by
  unfold render
  cases hs : d.statement with
  | none => simp only [withLimit, hs]; rfl
  | some s =>
    simp only [withLimit, hs, scope, context, Option.getD_some, Option.getD_none, bind_assoc,
      pure_bind, String.append_empty]

/-- A build with a limit gives the text without it and the clause of the limit. -/
theorem run_withLimit (operators : OperatorTable) (text : String) :
    ((d.withLimit (some text)).run operators).1 =
      ((d.withLimit none).run operators).1.map fun sql => sql ++ text := by
  rw [run, render_withLimit, Render.exec_bind, run]
  rcases ((d.withLimit none).render operators).exec .start with ⟨_ | sql, p⟩ <;> rfl

end Draft

end SqlDraft
