import SqlDraft.Proofs.Layout.Leaves

/-!
The errors that a draft holds before any of its operands is resolved, in rendering order:
comparisons with an operator that the table does not have, and assignments on duplicate keys that
are no text. A parameter that is missing is never among them, and of the values that cannot be
written only such an operator.
-/
namespace SqlDraft

def Leaf.failures (operators : OperatorTable) (clause : Option String) (leaf : Leaf) :
    List Error :=
  match operators.find? leaf.operator with
  | some _ => []
  | none => [(Error.unknownOperator leaf.operator clause).raised]

def Condition.failures (operators : OperatorTable) (clause : String)
    (conditions : List Condition) : List Error :=
  (leavesAll conditions).flatMap (Leaf.failures operators (some clause))

def Clause.failures (duplicated : List Value) : List Error :=
  match duplicates duplicated with
  | .ok _ => []
  | .error e => [e]

def Statement.failures (joins : List Error) : Statement → List Error
  | insert _ _ duplicated => Clause.failures duplicated ++ joins
  | _ => joins

/-- The first of them is what a build fails with, unless an operand fails before. -/
def Draft.failures (d : Draft) (operators : OperatorTable) : List Error :=
  match d.statement with
  | none => [.noStatement]
  | some s =>
    s.failures (d.joins.flatMap fun join => Condition.failures operators "on" join.conditions) ++
      Condition.failures operators "where" d.filter ++
      Condition.failures operators "having" d.having

namespace Piece

def failures : Piece → List Error
  | failure e => [e]
  | _ => []

theorem quiet_failures : Quiet failures := ⟨fun _ => rfl, fun _ => rfl, fun _ => rfl⟩

end Piece

namespace Layout

def failures (l : Layout) : List Error := l.flatMap Piece.failures

@[simp] theorem failures_nil : failures [] = [] := rfl

@[simp] theorem failures_cons (piece : Piece) (l : Layout) :
    failures (piece :: l) = piece.failures ++ l.failures := rfl

@[simp] theorem failures_append (l m : Layout) :
    failures (l ++ m) = l.failures ++ m.failures := List.flatMap_append

end Layout

open Layout

/-- Once its rule is found, a comparison fails only on its operands. -/
theorem OperatorRule.failures_layout (rule : OperatorRule) (column operator v : Value) :
    (rule.layout column operator v).failures = [] := by
  cases rule with
  | call function force =>
    have hliteral : (Layout.literal v force).failures = [] :=
      flatMap_literal Piece.quiet_failures (fun _ => rfl) v force
    simp [layout, Piece.failures, hliteral]
  | between =>
    rcases hitems : v.items? with _ | _ | ⟨low, _ | ⟨high, _ | ⟨third, rest⟩⟩⟩
    all_goals simp [layout, hitems, Piece.failures]
  | membership keyword =>
    cases hitems : v.items? with
    | none => simp [layout, hitems, Piece.failures]
    | some items =>
      have hlisted : (separated "," (listed items)).failures = [] := by
        rw [Layout.failures, flatMap_separated Piece.quiet_failures, listed, List.flatMap_map]
        exact List.flatMap_eq_nil_iff.mpr fun _ _ => rfl
      simp [layout, hitems, Piece.failures, hlisted]
  | like before after =>
    have hpattern : (pattern before after v).failures = [] :=
      flatMap_pattern Piece.quiet_failures (fun _ => rfl) before after v
    simp [layout, Piece.failures, hpattern]
  | _ => simp [layout, Piece.failures]

theorem Leaf.failures_layout (operators : OperatorTable) (clause : Option String) (leaf : Leaf) :
    (leaf.layout operators clause).failures = leaf.failures operators clause := by
  unfold layout Condition.leafLayout failures
  cases operators.find? leaf.operator with
  | none => rfl
  | some rule => exact rule.failures_layout leaf.column leaf.operator leaf.value

theorem Condition.contributions_failures (operators : OperatorTable) (clause : String)
    (conditions : List Condition) :
    contributions operators Piece.failures clause conditions =
      failures operators clause conditions :=
  congrArg (fun f => (leavesAll conditions).flatMap f)
    (funext fun leaf => leaf.failures_layout operators (some clause))

theorem Statement.contributions_failures (joins : List Error) (s : Statement) :
    s.contributions Piece.failures joins = s.failures joins := by
  cases s with
  | insert table columns duplicated =>
    have hduplicates :
        (Clause.duplicatesLayout duplicated).flatMap Piece.failures =
          Clause.failures duplicated := by
      unfold Clause.duplicatesLayout Clause.failures
      cases Clause.duplicates duplicated <;> rfl
    simp [contributions, failures, hduplicates, Piece.failures]
  | _ => simp [contributions, failures, Piece.failures]

theorem Draft.failures_layout (d : Draft) (operators : OperatorTable) :
    (d.layout operators).failures = d.failures operators := by
  have hitems (items : List Value) :
      ((Clause.plainItems items).flatMap fun v => Piece.failures (.operand v true)) = [] :=
    List.flatMap_eq_nil_iff.mpr fun _ _ => rfl
  rw [Layout.failures, flatMap_layout Piece.quiet_failures]
  unfold contributions failures
  cases d.statement with
  | none => rfl
  | some s =>
    simp only [Statement.contributions_failures, Condition.contributions_failures, hitems,
      List.append_nil]

/-- The first of the assignments that is no text. -/
theorem Clause.texts_error {items : List Value} {n : Nat} {e : Error}
    (h : texts n items = .error e) :
    ∃ index, ∃ given ∈ items, e = .notText index given ∧ ∀ s, given ≠ .text s := by
  induction items generalizing n with
  | nil => cases h
  | cons v rest ih =>
    cases v with
    | text s =>
      cases hrest : texts (n + 1) rest with
      | ok parts => simp [texts, hrest, Except.map] at h
      | error e' =>
        simp only [texts, hrest, Except.map, Except.error.injEq] at h
        obtain ⟨index, given, hgiven, he, hnot⟩ := ih (h ▸ hrest)
        exact ⟨index, given, List.mem_cons_of_mem _ hgiven, he, hnot⟩
    | _ =>
      cases h
      exact ⟨n, _, List.mem_cons_self, rfl, nofun⟩

theorem Clause.failures_notText {duplicated : List Value} {e : Error}
    (h : e ∈ failures duplicated) :
    ∃ index, ∃ given ∈ duplicated, e = .notText index given ∧ ∀ s, given ≠ .text s := by
  unfold failures duplicates at h
  by_cases hempty : duplicated.isEmpty
  · simp [hempty] at h
  · cases htexts : texts 0 duplicated with
    | ok parts => simp [hempty, htexts, Except.map] at h
    | error e' =>
      have he : e = e' := by simpa [hempty, htexts, Except.map] using h
      exact texts_error (he ▸ htexts)

theorem Condition.failures_unknownOperator {operators : OperatorTable} {clause : String}
    {conditions : List Condition} {e : Error} (h : e ∈ failures operators clause conditions) :
    ∃ operator, e = (Error.unknownOperator operator (some clause)).raised := by
  obtain ⟨leaf, -, he⟩ := List.mem_flatMap.mp h
  unfold Leaf.failures at he
  cases hrule : operators.find? leaf.operator with
  | some rule => simp [hrule] at he
  | none => exact ⟨leaf.operator, by simpa [hrule] using he⟩

/-- Before its operands, a draft lacks a statement, an operator or a text. -/
theorem Draft.failures_kinds {d : Draft} {operators : OperatorTable} {e : Error}
    (h : e ∈ d.failures operators) :
    e = .noStatement ∨ (∃ operator clause, e = (Error.unknownOperator operator clause).raised) ∨
      ∃ index given, e = .notText index given := by
  have hconditions {clause : String} {conditions : List Condition}
      (he : e ∈ Condition.failures operators clause conditions) :
      ∃ operator clause, e = (Error.unknownOperator operator clause).raised :=
    (Condition.failures_unknownOperator he).imp fun _ heq => ⟨some clause, heq⟩
  have hjoins (he : e ∈ d.joins.flatMap fun join =>
      Condition.failures operators "on" join.conditions) :
      ∃ operator clause, e = (Error.unknownOperator operator clause).raised := by
    obtain ⟨join, -, hjoin⟩ := List.mem_flatMap.mp he
    exact hconditions hjoin
  unfold failures at h
  cases hstatement : d.statement with
  | none => exact Or.inl (by simpa [hstatement] using h)
  | some s =>
    simp only [hstatement, List.mem_append] at h
    rcases h with (h | h) | h
    · cases s with
      | insert table columns duplicated =>
        rcases List.mem_append.mp h with h | h
        · obtain ⟨index, given, -, he, -⟩ := Clause.failures_notText h
          exact Or.inr (Or.inr ⟨index, given, he⟩)
        · exact Or.inr (Or.inl (hjoins h))
      | _ => exact Or.inr (Or.inl (hjoins h))
    · exact Or.inr (Or.inl (hconditions h))
    · exact Or.inr (Or.inl (hconditions h))

def Statement.duplicates : Statement → List Value
  | insert _ _ duplicates => duplicates
  | _ => []

/-- The assignments on duplicate keys that a draft holds. -/
def Draft.duplicates (d : Draft) : List Value := d.statement.elim [] Statement.duplicates

theorem Draft.failures_notText {d : Draft} {operators : OperatorTable} {index : Nat} {given : Value}
    (h : .notText index given ∈ d.failures operators) :
    given ∈ d.duplicates ∧ ∀ s, given ≠ .text s := by
  have hconditions {clause : String} {conditions : List Condition} :
      .notText index given ∉ Condition.failures operators clause conditions := by
    intro he
    obtain ⟨operator, hoperator⟩ := Condition.failures_unknownOperator he
    cases Error.eq_of_raised hoperator.symm nofun
  have hjoins : .notText index given ∉ d.joins.flatMap fun join =>
      Condition.failures operators "on" join.conditions := by
    intro he
    obtain ⟨join, -, hjoin⟩ := List.mem_flatMap.mp he
    exact hconditions hjoin
  unfold failures at h
  cases hstatement : d.statement with
  | none => simp [hstatement] at h
  | some s =>
    simp only [hstatement, List.mem_append, hconditions, or_false] at h
    cases s with
    | insert table columns duplicated =>
      have hfailure := (List.mem_append.mp h).resolve_right hjoins
      obtain ⟨_, _, hgiven, he, hnot⟩ := Clause.failures_notText hfailure
      cases he
      rw [duplicates, hstatement]
      exact ⟨hgiven, hnot⟩
    | _ => exact absurd h hjoins

end SqlDraft
