import SqlDraft.Proofs.Layout.Leaves

/-!
The operands of a draft in rendering order. They are read off the declarations: columns or values
of the statement and the conditions of the joins (these first for an update), then WHERE, GROUP BY,
HAVING and ORDER BY; a comparison gives its column before its values. The layout of the draft has
the same operands in the same order.
-/
namespace SqlDraft

/-- A token, and whether it is to be quoted. -/
structure Operand where
  token : Value
  force : Bool

/-- What a rule resolves of the value of a comparison. -/
def OperatorRule.operands : OperatorRule → Value → List Operand
  | comparison _ force, v => [⟨v, force⟩]
  | between, v =>
    match v.items? with
    | some [low, high] => [⟨low, true⟩, ⟨high, true⟩]
    | _ => []
  | membership _, v => (v.items?.getD []).map fun item => ⟨item, true⟩
  | _, _ => []

def Leaf.operands (operators : OperatorTable) (leaf : Leaf) : List Operand :=
  match operators.find? leaf.operator with
  | some rule => ⟨leaf.column, false⟩ :: rule.operands leaf.value
  | none => []

def Condition.operands (operators : OperatorTable) (conditions : List Condition) : List Operand :=
  (leavesAll conditions).flatMap (Leaf.operands operators)

namespace Clause

def operands (items : List Value) : List Operand := (plainItems items).map fun v => ⟨v, true⟩

def assigned (columns : List (Value × Value)) : List Operand :=
  columns.map fun e => ⟨e.2, false⟩

end Clause

def Statement.operands (joins : List Operand) : Statement → List Operand
  | select _ columns => Clause.operands columns ++ joins
  | insert _ columns _ => Clause.assigned columns ++ joins
  | update _ columns => joins ++ Clause.assigned columns
  | delete _ => joins

/-- All tokens that a build resolves, in the order in which it resolves them. -/
def Draft.operands (d : Draft) (operators : OperatorTable) : List Operand :=
  match d.statement with
  | none => []
  | some s =>
    s.operands (d.joins.flatMap fun join => Condition.operands operators join.conditions) ++
      Condition.operands operators d.filter ++ Clause.operands d.grouping ++
      Condition.operands operators d.having ++ Clause.operands d.ordering

namespace Piece

def operands : Piece → List Operand
  | operand token force => [⟨token, force⟩]
  | unused token => [⟨token, false⟩]
  | _ => []

theorem quiet_operands : Quiet operands := ⟨fun _ => rfl, fun _ => rfl, fun _ => rfl⟩

end Piece

namespace Layout

def operands (l : Layout) : List Operand := l.flatMap Piece.operands

@[simp] theorem operands_nil : operands [] = [] := rfl

@[simp] theorem operands_cons (piece : Piece) (l : Layout) :
    operands (piece :: l) = piece.operands ++ l.operands := rfl

@[simp] theorem operands_append (l m : Layout) :
    operands (l ++ m) = l.operands ++ m.operands := List.flatMap_append

end Layout

open Layout

/-- The column comes first, whether its text is used or not. -/
theorem OperatorRule.operands_layout (rule : OperatorRule) (column operator v : Value) :
    (rule.layout column operator v).operands = ⟨column, false⟩ :: rule.operands v := by
  cases rule with
  | call function force =>
    have hliteral : (Layout.literal v force).operands = [] :=
      flatMap_literal Piece.quiet_operands (fun _ => rfl) v force
    simp [layout, operands, Piece.operands, hliteral]
  | between =>
    rcases hitems : v.items? with _ | _ | ⟨low, _ | ⟨high, _ | ⟨third, rest⟩⟩⟩
    all_goals simp [layout, operands, hitems, Piece.operands]
  | membership keyword =>
    cases hitems : v.items? with
    | none => simp [layout, operands, hitems, Piece.operands]
    | some items =>
      have hlisted : (separated "," (listed items)).operands =
          items.map fun item => ⟨item, true⟩ := by
        rw [Layout.operands, flatMap_separated Piece.quiet_operands, listed, List.flatMap_map,
          List.map_eq_flatMap]
        rfl
      simp [layout, operands, hitems, Piece.operands, hlisted]
  | like before after =>
    have hpattern : (pattern before after v).operands = [] :=
      flatMap_pattern Piece.quiet_operands (fun _ => rfl) before after v
    simp [layout, operands, Piece.operands, hpattern]
  | _ => simp [layout, operands, Piece.operands]

theorem Leaf.operands_layout (operators : OperatorTable) (clause : Option String) (leaf : Leaf) :
    (leaf.layout operators clause).operands = leaf.operands operators := by
  unfold layout Condition.leafLayout operands
  cases operators.find? leaf.operator with
  | none => rfl
  | some rule => exact rule.operands_layout leaf.column leaf.operator leaf.value

theorem Condition.contributions_operands (operators : OperatorTable) (clause : String)
    (conditions : List Condition) :
    contributions operators Piece.operands clause conditions = operands operators conditions :=
  congrArg (fun f => (leavesAll conditions).flatMap f)
    (funext fun leaf => leaf.operands_layout operators (some clause))

theorem Clause.contributions_operands (items : List Value) :
    ((plainItems items).flatMap fun v => Piece.operands (.operand v true)) = operands items := by
  rw [operands, List.map_eq_flatMap]
  rfl

theorem Statement.contributions_operands (joins : List Operand) (s : Statement) :
    s.contributions Piece.operands joins = s.operands joins := by
  cases s with
  | select table columns => rw [contributions, operands, Clause.contributions_operands]
  | insert table columns duplicates =>
    have hduplicates : (Clause.duplicatesLayout duplicates).flatMap Piece.operands = [] := by
      unfold Clause.duplicatesLayout
      split <;> rfl
    rw [contributions, operands, hduplicates, List.append_nil, Clause.assigned,
      List.map_eq_flatMap]
    rfl
  | update table columns =>
    rw [contributions, operands, Clause.assigned, List.map_eq_flatMap]
    rfl
  | delete table => rfl

theorem Draft.operands_layout (d : Draft) (operators : OperatorTable) :
    (d.layout operators).operands = d.operands operators := by
  rw [Layout.operands, flatMap_layout Piece.quiet_operands]
  unfold contributions operands
  cases d.statement with
  | none => rfl
  | some s =>
    simp only [Statement.contributions_operands, Condition.contributions_operands,
      Clause.contributions_operands]

end SqlDraft
