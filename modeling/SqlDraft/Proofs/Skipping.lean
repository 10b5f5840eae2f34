import SqlDraft.Proofs.Changes

/-!
Items that are left out when conditions are read. Which ones these are depends on the declaration
alone. A lenient draft notes each of them and a strict one fails; a declaration that leaves nothing
out does the same on both.
-/
namespace SqlDraft

namespace Notice

/-- Whether something was passed over that a strict draft fails on. -/
def isDegradation : Notice → Bool
  | skipped _ => true
  | malformedOperand .. => true
  | unresolved _ => true
  | _ => false

def degradations (l : List Notice) : List Notice := l.filter isDegradation

@[simp] theorem degradations_nil : degradations [] = [] := rfl

@[simp] theorem degradations_append (l m : List Notice) :
    degradations (l ++ m) = degradations l ++ degradations m := List.filter_append l m

theorem degradations_skipped (items : List Value) :
    degradations (items.map .skipped) = items.map .skipped :=
  List.filter_eq_self.mpr (by simp [isDegradation])

end Notice

open Notice

/-- The items of a clause, at any depth, that are no conditions. -/
def Condition.skipped (v : Value) : List Value := (readAll ((listed? v).getD [])).2

def Join.skipped (spec : Value) : List Value :=
  match Draft.readJoin spec with
  | .ok (_, _, conditions) => Condition.skipped conditions
  | .error _ => []

def Declaration.skipped : Declaration → List Value
  | joins specs => ((Draft.joinSpecs? specs).getD []).flatMap Join.skipped
  | filter v => Condition.skipped v
  | having v => Condition.skipped v
  | _ => []

namespace ConditionList

theorem ofClause_of_skipped_nil {v : Value} (h : Condition.skipped v = []) (strict strict' : Bool) :
    ofClause strict v = ofClause strict' v := by
  unfold Condition.skipped at h
  unfold ofClause
  cases hitems : Condition.listed? v with
  | none => rfl
  | some items =>
    rw [hitems, Option.getD_some] at h
    simp [ofItems, h, Condition.accept]

theorem ofClause_strict {v : Value} (h : Condition.skipped v ≠ []) :
    (ofClause true v).error ≠ none := by
  unfold Condition.skipped at h
  unfold ofClause
  cases hitems : Condition.listed? v with
  | none => simp
  | some items =>
    rw [hitems, Option.getD_some] at h
    obtain ⟨item, rest, hskipped⟩ := List.exists_cons_of_ne_nil h
    simp [ofItems, hskipped, Condition.accept]

theorem ofClause_lenient (v : Value) :
    (ofClause false v).notices = (Condition.skipped v).map .skipped := by
  unfold Condition.skipped ofClause
  cases Condition.listed? v with
  | none => rfl
  | some items => rfl

end ConditionList

namespace Draft

def withStrict (d : Draft) (strict : Bool) : Draft := { d with strict := strict }

theorem withStrict_self {d : Draft} {strict : Bool} (h : d.strict = strict) :
    d.withStrict strict = d := by
  subst h
  rfl

end Draft

def Outcome.withStrict (o : Outcome) (strict : Bool) : Outcome :=
  { o with draft := o.draft.withStrict strict }

namespace Draft

variable (d : Draft)

section Clean

/-! Where nothing is left out, strictness has no part in a declaration. -/

variable (strict : Bool)

theorem withConditions_withStrict {v : Value} (h : Condition.skipped v = [])
    (add : List Condition → Draft) {add' : List Condition → Draft}
    (hadd : ∀ cs, add' cs = (add cs).withStrict strict) :
    (d.withStrict strict).withConditions v add' = (d.withConditions v add).withStrict strict := by
  have hlist := ConditionList.ofClause_of_skipped_nil h strict d.strict
  simp only [withConditions, withStrict, hlist]
  cases (ConditionList.ofClause d.strict v).error with
  | none => simp [Outcome.withStrict, hadd]
  | some e => rfl

theorem declareJoin_withStrict {spec : Value} (h : Join.skipped spec = []) :
    (d.withStrict strict).declareJoin spec = (d.declareJoin spec).withStrict strict := by
  unfold Join.skipped at h
  unfold declareJoin
  cases hspec : readJoin spec with
  | error e => rfl
  | ok fields =>
    obtain ⟨type, tableSpec, conditions⟩ := fields
    rw [hspec] at h
    rcases htable : TableRef.declare d.identifiers "joins" tableSpec with ⟨ids, e | table⟩
    · simp only [withStrict, htable]
      rfl
    · simp only [withStrict, htable]
      exact withConditions_withStrict { d with identifiers := ids } strict h _ fun _ => rfl

theorem declareEach_withStrict {specs : List Value} (h : ∀ spec ∈ specs, Join.skipped spec = []) :
    (d.withStrict strict).declareEach specs = (d.declareEach specs).withStrict strict := by
  induction specs generalizing d with
  | nil => rfl
  | cons spec rest ih =>
    have hrest : ∀ other ∈ rest, Join.skipped other = [] :=
      fun other hother => h other (List.mem_cons_of_mem spec hother)
    simp only [declareEach, declareJoin_withStrict d strict (h spec List.mem_cons_self)]
    cases hfirst : (d.declareJoin spec).error with
    | some e => simp [Outcome.withStrict, hfirst]
    | none => simp [Outcome.withStrict, hfirst, ih (d.declareJoin spec).draft hrest]

theorem declareStatement_withStrict (kind : StatementKind) (payload : Value)
    (fields : List (String × Value)) :
    (d.withStrict strict).declareStatement kind payload fields =
      (d.declareStatement kind payload fields).withStrict strict := by
  unfold declareStatement
  cases Head.read kind payload fields with
  | error e => rfl
  | ok head =>
    rcases htable : TableRef.declare d.identifiers kind.name head.table with ⟨ids, declared⟩
    simp only [withStrict, htable]
    cases declared >>= head.statement kind <;> rfl

theorem declare_withStrict {a : Declaration} (h : a.skipped = []) :
    (d.withStrict strict).declare a = (d.declare a).withStrict strict := by
  cases a with
  | statement kind payload fields => exact declareStatement_withStrict d strict kind payload fields
  | joins specs =>
    simp only [Declaration.skipped] at h
    simp only [declare, declareJoins]
    cases hspecs : joinSpecs? specs with
    | none => rfl
    | some items =>
      rw [hspecs, Option.getD_some, List.flatMap_eq_nil_iff] at h
      exact declareEach_withStrict d strict h
  | filter v =>
    exact withConditions_withStrict d strict h (fun cs => { d with filter := d.filter ++ cs })
      fun _ => rfl
  | having v =>
    exact withConditions_withStrict d strict h (fun cs => { d with having := d.having ++ cs })
      fun _ => rfl
  | group v => rfl
  | order v => rfl
  | limit v =>
    simp only [declare, declareLimit]
    split <;> rfl
  | params v => rfl

theorem declareAll_withStrict {l : List Declaration} (h : ∀ a ∈ l, a.skipped = []) :
    (d.withStrict strict).declareAll l = (d.declareAll l).withStrict strict := by
  induction l generalizing d with
  | nil => rfl
  | cons a rest ih =>
    have hrest : ∀ b ∈ rest, b.skipped = [] := fun b hb => h b (List.mem_cons_of_mem a hb)
    simp only [declareAll, declare_withStrict d strict (h a List.mem_cons_self)]
    cases hfirst : (d.declare a).error with
    | some e => simp [Outcome.withStrict, hfirst]
    | none => simp [Outcome.withStrict, hfirst, ih (d.declare a).draft hrest]

end Clean

/-! A strict draft fails where something is left out, and a lenient one notes it. -/

variable {d}

theorem withConditions_strict {v : Value} (hstrict : d.strict = true)
    (h : Condition.skipped v ≠ []) (add : List Condition → Draft) :
    (d.withConditions v add).error ≠ none := by
  have herror := ConditionList.ofClause_strict h
  simp only [withConditions, hstrict]
  cases he : (ConditionList.ofClause true v).error with
  | none => exact absurd he herror
  | some e => simp

theorem withConditions_lenient (v : Value) (hlenient : d.strict = false)
    (add : List Condition → Draft) :
    degradations (d.withConditions v add).notices = (Condition.skipped v).map .skipped := by
  have hnotices := ConditionList.ofClause_lenient v
  simp only [withConditions, hlenient]
  cases (ConditionList.ofClause false v).error with
  | none => simp only [hnotices, degradations_skipped]
  | some e => simp only [hnotices, degradations_skipped]

theorem declareJoin_strict {spec : Value} (hstrict : d.strict = true)
    (h : Join.skipped spec ≠ []) : (d.declareJoin spec).error ≠ none := by
  rcases declareJoin_cases d spec with ⟨e, _, hjoin⟩ |
    ⟨_, _, conditions, ids, hspec, ⟨e, _, hjoin⟩ | ⟨_, _, hjoin⟩⟩
  · simp [hjoin, refuse]
  · simp [hjoin, refuse]
  · have hskipped : Condition.skipped conditions ≠ [] := by simpa only [Join.skipped, hspec] using h
    rw [hjoin]
    exact withConditions_strict (d := { d with identifiers := ids }) hstrict hskipped _

theorem declareJoin_lenient {spec : Value} (hlenient : d.strict = false)
    (hdone : (d.declareJoin spec).error = none) :
    degradations (d.declareJoin spec).notices = (Join.skipped spec).map .skipped := by
  rcases declareJoin_cases d spec with ⟨e, _, hjoin⟩ |
    ⟨_, _, conditions, ids, hspec, ⟨e, _, hjoin⟩ | ⟨_, _, hjoin⟩⟩
  · simp [hjoin, refuse] at hdone
  · simp [hjoin, refuse] at hdone
  · simp only [hjoin, Join.skipped, hspec]
    exact withConditions_lenient (d := { d with identifiers := ids }) conditions hlenient _

theorem declareEach_strict {specs : List Value} (hstrict : d.strict = true)
    (h : specs.flatMap Join.skipped ≠ []) : (d.declareEach specs).error ≠ none := by
  induction specs generalizing d with
  | nil => exact absurd rfl h
  | cons spec rest ih =>
    simp only [declareEach]
    cases hfirst : (d.declareJoin spec).error with
    | some e => simp [hfirst]
    | none =>
      have hspec : Join.skipped spec = [] :=
        Classical.byContradiction fun hskipped => declareJoin_strict hstrict hskipped hfirst
      rw [List.flatMap_cons, hspec, List.nil_append] at h
      exact ih ((changes_declareJoin d spec).strict_eq.trans hstrict) h

theorem declareEach_lenient {specs : List Value} (hlenient : d.strict = false)
    (hdone : (d.declareEach specs).error = none) :
    degradations (d.declareEach specs).notices = (specs.flatMap Join.skipped).map .skipped := by
  induction specs generalizing d with
  | nil => rfl
  | cons spec rest ih =>
    simp only [declareEach] at hdone ⊢
    cases hfirst : (d.declareJoin spec).error with
    | some e => simp [hfirst] at hdone
    | none =>
      simp only [hfirst] at hdone ⊢
      have hrest := ih ((changes_declareJoin d spec).strict_eq.trans hlenient) hdone
      rw [degradations_append, declareJoin_lenient hlenient hfirst, hrest, List.flatMap_cons,
        List.map_append]

theorem declare_strict {a : Declaration} (hstrict : d.strict = true) (h : a.skipped ≠ []) :
    (d.declare a).error ≠ none := by
  cases a with
  | joins specs =>
    simp only [Declaration.skipped] at h
    simp only [declare, declareJoins]
    cases hspecs : joinSpecs? specs with
    | none => simp [refuse]
    | some items =>
      rw [hspecs, Option.getD_some] at h
      exact declareEach_strict hstrict h
  | filter v => exact withConditions_strict hstrict h _
  | having v => exact withConditions_strict hstrict h _
  | _ => exact absurd rfl h

theorem declare_lenient {a : Declaration} (hlenient : d.strict = false)
    (hdone : (d.declare a).error = none) :
    degradations (d.declare a).notices = a.skipped.map .skipped := by
  cases a with
  | statement kind payload fields =>
    simp only [declare] at hdone ⊢
    rcases declareStatement_cases d kind payload fields with
      ⟨e, _, hrefused⟩ | ⟨_, _, _, ⟨e, _, hrefused⟩ |
        ⟨_, _, ⟨e, _, _, hrefused⟩ | ⟨s, _, _, hdeclared⟩⟩⟩
    · simp [hrefused, refuse] at hdone
    · simp [hrefused, refuse] at hdone
    · simp [hrefused, refuse] at hdone
    · rw [hdeclared]
      unfold statementNotice
      cases d.statement <;> rfl
  | joins specs =>
    simp only [declare, declareJoins] at hdone ⊢
    simp only [Declaration.skipped]
    cases hspecs : joinSpecs? specs with
    | none => simp [hspecs, refuse] at hdone
    | some items =>
      simp only [hspecs] at hdone
      exact declareEach_lenient hlenient hdone
  | filter v => exact withConditions_lenient v hlenient _
  | having v => exact withConditions_lenient v hlenient _
  | group v => rfl
  | order v => rfl
  | limit v =>
    simp only [declare, declareLimit]
    split <;> rfl
  | params v => rfl

theorem declareAll_strict {l : List Declaration} (hstrict : d.strict = true)
    (h : ∃ a ∈ l, a.skipped ≠ []) : (d.declareAll l).error ≠ none := by
  induction l generalizing d with
  | nil => simp at h
  | cons a rest ih =>
    simp only [declareAll]
    cases hfirst : (d.declare a).error with
    | some e => simp [hfirst]
    | none =>
      have ha : a.skipped = [] :=
        Classical.byContradiction fun hskipped => declare_strict hstrict hskipped hfirst
      have hrest : ∃ b ∈ rest, b.skipped ≠ [] := by simpa [ha] using h
      exact ih ((changes_declare d a).strict_eq.trans hstrict) hrest

/-- What a lenient draft notes as left out, in order. -/
theorem declareAll_lenient {l : List Declaration} (hlenient : d.strict = false)
    (hdone : (d.declareAll l).error = none) :
    degradations (d.declareAll l).notices = (l.flatMap Declaration.skipped).map .skipped := by
  induction l generalizing d with
  | nil => rfl
  | cons a rest ih =>
    simp only [declareAll] at hdone ⊢
    cases hfirst : (d.declare a).error with
    | some e => simp [hfirst] at hdone
    | none =>
      simp only [hfirst] at hdone ⊢
      have hrest := ih ((changes_declare d a).strict_eq.trans hlenient) hdone
      rw [degradations_append, declare_lenient hlenient hfirst, hrest, List.flatMap_cons,
        List.map_append]

end Draft

end SqlDraft
