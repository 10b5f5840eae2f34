import SqlDraft.Proofs.Execution
import SqlDraft.Proofs.Failures

/-!
Comparisons whose operator is not in the table. A draft that has one is never built, at whatever
depth and in whatever clause it stands: rendering fails there, before the column is resolved, or at
something that comes earlier. The operator that is reported is that of the first such comparison in
rendering order, with the clause it stands in.
-/
namespace SqlDraft

/-- Whether the operator of a comparison is the text of a rule. -/
def Leaf.Registered (operators : OperatorTable) (leaf : Leaf) : Prop :=
  ∃ name ∈ operators.keys, leaf.operator = .text name

/-- A comparison and the clause it stands in. -/
structure PlacedLeaf where
  clause : String
  leaf : Leaf

def Condition.placed (clause : String) (conditions : List Condition) : List PlacedLeaf :=
  (leavesAll conditions).map fun leaf => ⟨clause, leaf⟩

/-- The comparisons of a draft in rendering order. Joins are rendered in the order of their
declaration and before the other clauses, whatever the statement. -/
def Draft.placedLeaves (d : Draft) : List PlacedLeaf :=
  (d.joins.flatMap fun join => Condition.placed "on" join.conditions) ++
    Condition.placed "where" d.filter ++ Condition.placed "having" d.having

def PlacedLeaf.failures (operators : OperatorTable) (placed : PlacedLeaf) : List Error :=
  placed.leaf.failures operators (some placed.clause)

/-- Only a text that is a key of the table names a rule. -/
theorem OperatorTable.isSome_find?_iff (operators : OperatorTable) (operator : Value) :
    (operators.find? operator).isSome ↔ ∃ name ∈ operators.keys, operator = .text name := by
  cases operator with
  | text s =>
    simp only [find?, Value.text.injEq, exists_eq_right']
    constructor
    · intro hsome
      obtain ⟨rule, hrule⟩ := Option.isSome_iff_exists.mp hsome
      exact List.mem_map.mpr ⟨_, (operators.get?_eq_some_iff s rule).mp hrule, rfl⟩
    · intro hmem
      obtain ⟨⟨name, rule⟩, hentry, rfl⟩ := List.mem_map.mp hmem
      rw [(operators.get?_eq_some_iff name rule).mpr hentry]
      rfl
  | _ => simp [find?]

namespace PlacedLeaf

variable {operators : OperatorTable} {placed : PlacedLeaf}

theorem failures_eq_nil_iff :
    placed.failures operators = [] ↔ placed.leaf.Registered operators := by
  rw [Leaf.Registered, ← OperatorTable.isSome_find?_iff]
  unfold failures Leaf.failures
  cases operators.find? placed.leaf.operator <;> simp

theorem eq_of_mem_failures {e : Error} (h : e ∈ placed.failures operators) :
    e = (Error.unknownOperator placed.leaf.operator (some placed.clause)).raised := by
  unfold failures Leaf.failures at h
  cases hrule : operators.find? placed.leaf.operator with
  | none => simpa [hrule] using h
  | some rule => simp [hrule] at h

end PlacedLeaf

theorem Condition.failures_eq_placed (operators : OperatorTable) (clause : String)
    (conditions : List Condition) :
    failures operators clause conditions =
      (placed clause conditions).flatMap (PlacedLeaf.failures operators) := by
  rw [placed, List.flatMap_map]
  rfl

namespace Draft

/-- The errors of a statement are those of its comparisons, behind assignments that are no text. -/
theorem failures_eq_placed (d : Draft) (operators : OperatorTable) {s : Statement}
    (hs : d.statement = some s) :
    ∃ front, (∀ e ∈ front, ∃ index given, e = .notText index given) ∧
      d.failures operators = front ++ d.placedLeaves.flatMap (PlacedLeaf.failures operators) := by
  unfold failures placedLeaves
  simp only [hs, Condition.failures_eq_placed, List.flatMap_append, List.flatMap_assoc]
  cases s with
  | insert table columns duplicated =>
    refine ⟨Clause.failures duplicated, fun e he => ?_, ?_⟩
    · obtain ⟨index, given, -, heq, -⟩ := Clause.failures_notText he
      exact ⟨index, given, heq⟩
    · simp only [Statement.failures, List.append_assoc]
  | _ => exact ⟨[], List.forall_mem_nil _, rfl⟩

end Draft

namespace Operand

variable {scope : Scope}

/-- An operand can only lack its parameter or hold a numeral that cannot be read or written. -/
theorem resolve_error {token : Value} {force : Bool} {p : Progress} {e : Error}
    (h : ((resolve scope token force).exec p).1 = .error e) :
    (∃ position, e = .missingParameter position) ∨ ∃ fault, e = .numeral fault := by
  by_cases htoken : token = .text "?"
  · subst htoken
    rw [exec_resolve_positional] at h
    split at h
    · exact Or.inr ⟨_, (written_error_iff.mp h).2⟩
    · split at h
      · cases h
        exact Or.inl ⟨_, rfl⟩
      · cases h
  · rw [exec_resolve_of_ne scope htoken] at h
    exact Or.inr (lookup_error scope h)

end Operand

/-- No piece but an error that the layout holds reports an operator. -/
theorem Piece.eq_failure_of_run {scope : Scope} {piece : Piece} {p : Progress} {operator : Value}
    {clause : Option String}
    (h : ((piece.run scope).exec p).1 = .error (.unknownOperator operator clause)) :
    piece = .failure (.unknownOperator operator clause) := by
  cases piece with
  | writable v =>
    rw [run, Operand.exec_demand_bind] at h
    cases (Operand.written_error_iff.mp h).2
  | operand token force =>
    rcases Operand.resolve_error h with ⟨position, heq⟩ | ⟨fault, heq⟩ <;> cases heq
  | unused token =>
    rcases hrun : ((unused token).run scope).exec p with ⟨r, q⟩
    rw [hrun] at h
    subst h
    have hresolve := congrArg Prod.fst ((run_unused_error_iff scope token p q _).mp hrun)
    rcases Operand.resolve_error hresolve with ⟨position, heq⟩ | ⟨fault, heq⟩ <;> cases heq
  | malformed column operator value =>
    cases hstrict : scope.strict with
    | true =>
      simp only [run, hstrict, if_true, Render.exec_throw, Except.error.injEq] at h
      cases Error.eq_of_raised h nofun
    | false => simp only [run, hstrict, Bool.false_eq_true, if_false, Render.exec_bind,
        Render.exec_note, Render.exec_pure, reduceCtorEq] at h
  | failure e =>
    cases h
    rfl
  | _ => cases h

/-- A layout that is written holds no error. -/
theorem Layout.failures_of_run {scope : Scope} {l : Layout} {p q : Progress} {text : String}
    (h : (l.run scope).exec p = (.ok text, q)) : l.failures = [] := by
  induction l generalizing p text with
  | nil => rfl
  | cons piece rest ih =>
    obtain ⟨first, p', others, hpiece, hrest, -⟩ := (run_cons_ok_iff scope piece rest p q text).mp h
    have hnone : piece.failures = [] := by
      cases piece with
      | failure e => simp [Piece.run] at hpiece
      | _ => rfl
    rw [failures_cons, hnone, ih hrest, List.append_nil]

/-- What comes first of a list of lists comes from the first that is not empty. -/
theorem exists_of_flatMap_eq_cons {α β : Type} {f : α → List β} {l : List α} {b : β}
    {others : List β} (h : l.flatMap f = b :: others) :
    ∃ before a after, l = before ++ a :: after ∧ (∀ x ∈ before, f x = []) ∧ b ∈ f a := by
  induction l with
  | nil => cases h
  | cons a rest ih =>
    cases hfirst : f a with
    | cons b' rest' =>
      rw [List.flatMap_cons, hfirst, List.cons_append, List.cons.injEq] at h
      exact ⟨[], a, rest, rfl, List.forall_mem_nil _, by simp [hfirst, h.1]⟩
    | nil =>
      rw [List.flatMap_cons, hfirst, List.nil_append] at h
      obtain ⟨before, a', after, rfl, hbefore, hmem⟩ := ih h
      exact ⟨a :: before, a', after, rfl, List.forall_mem_cons.mpr ⟨hfirst, hbefore⟩, hmem⟩

namespace Draft

variable {d : Draft} {operators : OperatorTable}

theorem registered_of_failures_nil (h : d.failures operators = []) :
    ∀ placed ∈ d.placedLeaves, placed.leaf.Registered operators := by
  cases hs : d.statement with
  | none => simp [failures, hs] at h
  | some s =>
    obtain ⟨front, -, hfailures⟩ := d.failures_eq_placed operators hs
    rw [hfailures, List.append_eq_nil_iff, List.flatMap_eq_nil_iff] at h
    intro placed hplaced
    exact PlacedLeaf.failures_eq_nil_iff.mp (h.2 placed hplaced)

/-- An operator that is the first error of a draft is that of the first comparison that has none of
the table. -/
theorem first_unregistered {operator : Value} {clause : Option String} {others : List Error}
    (h : d.failures operators = .unknownOperator operator clause :: others) :
    ∃ before placed after, d.placedLeaves = before ++ placed :: after ∧
      (∀ earlier ∈ before, earlier.leaf.Registered operators) ∧
      ¬placed.leaf.Registered operators ∧
      operator = placed.leaf.operator ∧ clause = some placed.clause := by
  cases hs : d.statement with
  | none => simp [failures, hs] at h
  | some s =>
    obtain ⟨front, hfront, hplaced⟩ := d.failures_eq_placed operators hs
    rw [hplaced] at h
    cases front with
    | cons e rest =>
      obtain ⟨index, given, rfl⟩ := hfront e List.mem_cons_self
      cases h
    | nil =>
      obtain ⟨before, placed, after, hsplit, hbefore, hmem⟩ := exists_of_flatMap_eq_cons h
      have hunknown : ¬placed.leaf.Registered operators := by
        intro hregistered
        rw [PlacedLeaf.failures_eq_nil_iff.mpr hregistered] at hmem
        cases hmem
      cases Error.eq_of_raised (PlacedLeaf.eq_of_mem_failures hmem).symm nofun
      exact ⟨before, placed, after, hsplit,
        fun earlier he => PlacedLeaf.failures_eq_nil_iff.mp (hbefore earlier he), hunknown, rfl,
        rfl⟩

/-- A draft is built only if all of its comparisons have an operator of the table, however deep they
stand. The operator that is reported, with its clause, is that of the first comparison in rendering
order that has none. -/
theorem unknown_operators (d : Draft) (operators : OperatorTable) :
    (∀ text, (d.build operators).1 = .ok text →
      ∀ placed ∈ d.placedLeaves, placed.leaf.Registered operators) ∧
    (∀ operator clause, (d.build operators).1 = .error (.unknownOperator operator clause) →
      ∃ before placed after, d.placedLeaves = before ++ placed :: after ∧
        (∀ earlier ∈ before, earlier.leaf.Registered operators) ∧
        ¬placed.leaf.Registered operators ∧
        operator = placed.leaf.operator ∧ clause = some placed.clause) := by
  rw [build_fst]
  constructor
  · intro text h
    rcases hrun : ((d.layout operators).run d.scope).exec .start with ⟨r, q⟩
    rw [hrun] at h
    subst h
    have hnone := Layout.failures_of_run hrun
    rw [failures_layout] at hnone
    exact registered_of_failures_nil hnone
  · intro operator clause h
    obtain ⟨front, piece, back, text, q, hlayout, hfront, hpiece⟩ :=
      (Layout.run_error_iff d.scope _ .start _).mp h
    have hfailures : d.failures operators =
        .unknownOperator operator clause :: Layout.failures back := by
      rw [← failures_layout, hlayout, Layout.failures_append, Layout.failures_of_run hfront,
        Piece.eq_failure_of_run hpiece]
      rfl
    exact first_unregistered hfailures

end Draft

end SqlDraft
