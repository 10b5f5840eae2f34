import SqlDraft.Proofs.Layout

/-!
The comparisons of a condition tree, depth first and from left to right. What the pieces of a
layout contribute to a list, SQL and quoted columns nothing, comes from the comparisons, the plain
items of column lists and the values of assignments alone.
-/
namespace SqlDraft

/-- A comparison of a condition tree. -/
structure Leaf where
  column : Value
  operator : Value
  value : Value

namespace Condition

mutual

def leaves : Condition → List Leaf
  | .leaf column operator value => [⟨column, operator, value⟩]
  | .group _ children => leavesAll children
  | .raw _ => []
termination_by structural c => c

def leavesAll : List Condition → List Leaf
  | [] => []
  | c :: rest => leaves c ++ leavesAll rest
termination_by structural cs => cs

end

end Condition

namespace Leaf

def layout (operators : OperatorTable) (clause : Option String) (leaf : Leaf) : Layout :=
  Condition.leafLayout operators clause leaf.column leaf.operator leaf.value

end Leaf

namespace Clause

/-- The items of a column list other than mappings. -/
def plainItems (items : List Value) : List Value :=
  items.filter fun
    | .dict _ => false
    | _ => true

end Clause

namespace Draft

/-- The comparisons of a draft in rendering order. -/
def leaves (d : Draft) : List Leaf :=
  (d.joins.flatMap fun join => Condition.leavesAll join.conditions) ++
    Condition.leavesAll d.filter ++ Condition.leavesAll d.having

end Draft

/-- Contributions that SQL, quoted columns and values that have to be writable have no part in. -/
structure Piece.Quiet {β : Type} (f : Piece → List β) : Prop where
  sql : ∀ text, f (.sql text) = []
  name : ∀ column, f (.name column) = []
  writable : ∀ v, f (.writable v) = []

variable {β : Type} {f : Piece → List β} (hf : Piece.Quiet f)

namespace Layout

include hf

theorem flatMap_separated (separator : String) (l : List Layout) :
    (separated separator l).flatMap f = l.flatMap fun layout => layout.flatMap f := by
  induction l with
  | nil => rfl
  | cons layout rest ih =>
    cases rest with
    | nil => simp [separated]
    | cons next rest => simp [separated, hf.sql, ih]

theorem flatMap_literal (hdata : ∀ text, f (.data text) = []) (v : Value) (force : Bool) :
    (literal v force).flatMap f = [] := by
  cases v <;> simp [literal, hf.sql, hf.writable, hdata]

theorem flatMap_pattern (hdata : ∀ text, f (.data text) = []) (before after : String)
    (v : Value) : (pattern before after v).flatMap f = [] := by
  cases v <;> simp [pattern, hf.sql, hf.writable, hdata]

end Layout

open Layout

namespace Condition

variable (operators : OperatorTable) (clause : Option String)

mutual

theorem flatMap_layout (hf : Piece.Quiet f) : (c : Condition) →
    (layout operators clause c).flatMap f =
      c.leaves.flatMap fun leaf => (leaf.layout operators clause).flatMap f
  | .leaf column operator v => by simp [layout, leaves, Leaf.layout]
  | .group combinator children => by
    simp [layout, leaves, hf.sql, flatMap_separated hf, flatMap_layoutAll hf children]
  | .raw sql => by simp [layout, leaves, hf.sql]
termination_by structural c => c

theorem flatMap_layoutAll (hf : Piece.Quiet f) : (cs : List Condition) →
    ((layoutAll operators clause cs).flatMap fun layout => layout.flatMap f) =
      (leavesAll cs).flatMap fun leaf => (leaf.layout operators clause).flatMap f
  | [] => rfl
  | c :: rest => by simp [layoutAll, leavesAll, flatMap_layout hf c, flatMap_layoutAll hf rest]
termination_by structural cs => cs

end

end Condition

namespace Clause

include hf

theorem flatMap_directionLayout {e : Value × Value} {l : Layout}
    (h : directionLayout? e = some l) : l.flatMap f = [] := by
  unfold directionLayout? at h
  split at h
  · obtain ⟨direction, -, rfl⟩ := Option.map_eq_some_iff.mp h
    simp [hf.sql, hf.name, hf.writable]
  · cases h
    simp [hf.writable]

theorem flatMap_entryLayouts (v : Value) :
    ((entryLayouts v).flatMap fun layout => layout.flatMap f) =
      (plainItems [v]).flatMap fun item => f (.operand item true) := by
  cases v with
  | dict entries =>
    apply List.flatMap_eq_nil_iff.mpr
    intro l hl
    obtain ⟨e, -, he⟩ := List.mem_filterMap.mp hl
    exact flatMap_directionLayout hf he
  | _ => simp [entryLayouts, plainItems]

theorem flatMap_entries (items : List Value) :
    ((items.flatMap entryLayouts).flatMap fun layout => layout.flatMap f) =
      (plainItems items).flatMap fun item => f (.operand item true) := by
  induction items with
  | nil => rfl
  | cons v rest ih =>
    have hsplit : plainItems (v :: rest) = plainItems [v] ++ plainItems rest := by
      simp only [plainItems, ← List.filter_append, List.singleton_append]
    rw [List.flatMap_cons, List.flatMap_append, flatMap_entryLayouts hf, ih, hsplit,
      List.flatMap_append]

theorem flatMap_columnsLayout (keyword : String) (items : List Value) :
    (columnsLayout keyword items).flatMap f =
      (plainItems items).flatMap fun item => f (.operand item true) := by
  unfold columnsLayout
  split
  · next h => simp [List.isEmpty_iff.mp h, plainItems]
  · simp [hf.sql, flatMap_separated hf, flatMap_entries hf]

theorem flatMap_allOfLayout (operators : OperatorTable) (clause keyword : String)
    (conditions : List Condition) :
    (allOfLayout operators clause keyword conditions).flatMap f =
      (Condition.leavesAll conditions).flatMap fun leaf =>
        (leaf.layout operators (some clause)).flatMap f := by
  simp [allOfLayout, hf.sql, flatMap_separated hf,
    Condition.flatMap_layoutAll operators (some clause) hf]

theorem flatMap_allOfAnyLayout (operators : OperatorTable) (clause keyword : String)
    (conditions : List Condition) :
    (allOfAnyLayout operators clause keyword conditions).flatMap f =
      (Condition.leavesAll conditions).flatMap fun leaf =>
        (leaf.layout operators (some clause)).flatMap f := by
  unfold allOfAnyLayout
  split
  · next h => simp [List.isEmpty_iff.mp h, Condition.leavesAll]
  · exact flatMap_allOfLayout hf operators clause keyword conditions

theorem flatMap_names (columns : List (Value × Value)) :
    ((columns.map fun e => [Piece.name e.1]).flatMap fun layout => layout.flatMap f) = [] := by
  rw [List.flatMap_map]
  apply List.flatMap_eq_nil_iff.mpr
  intro e _
  simp [hf.name]

theorem flatMap_assignments (columns : List (Value × Value)) :
    ((columns.map fun e => [Piece.writable e.1, .name e.1, .sql " = ", .operand e.2 false]).flatMap
      fun layout => layout.flatMap f) = columns.flatMap fun e => f (.operand e.2 false) := by
  rw [List.flatMap_map]
  simp [hf.name, hf.sql, hf.writable]

end Clause

/-- What the parts of a draft contribute, in rendering order. -/
def Statement.contributions (f : Piece → List β) (joins : List β) : Statement → List β
  | select _ columns => ((Clause.plainItems columns).flatMap fun v => f (.operand v true)) ++ joins
  | insert _ columns duplicates =>
    (columns.flatMap fun e => f (.operand e.2 false)) ++
      (Clause.duplicatesLayout duplicates).flatMap f ++ joins
  | update _ columns => joins ++ columns.flatMap fun e => f (.operand e.2 false)
  | delete _ => joins

def Condition.contributions (operators : OperatorTable) (f : Piece → List β) (clause : String)
    (conditions : List Condition) : List β :=
  (leavesAll conditions).flatMap fun leaf => (leaf.layout operators (some clause)).flatMap f

def Draft.contributions (operators : OperatorTable) (f : Piece → List β) (d : Draft) : List β :=
  match d.statement with
  | none => f (.failure .noStatement)
  | some s =>
    s.contributions f
        (d.joins.flatMap fun join => Condition.contributions operators f "on" join.conditions) ++
      Condition.contributions operators f "where" d.filter ++
      ((Clause.plainItems d.grouping).flatMap fun v => f (.operand v true)) ++
      Condition.contributions operators f "having" d.having ++
      (Clause.plainItems d.ordering).flatMap fun v => f (.operand v true)

include hf

theorem Statement.flatMap_layout (joins : Layout) (s : Statement) :
    (s.layout joins).flatMap f = s.contributions f (joins.flatMap f) := by
  cases s with
  | select table columns =>
    simp [layout, contributions, hf.sql, flatMap_separated hf, Clause.flatMap_entries hf]
  | insert table columns duplicates =>
    have hvalues : ((columns.map fun e => [Piece.writable e.1, .operand e.2 false]).flatMap
        fun layout => layout.flatMap f) = columns.flatMap fun e => f (.operand e.2 false) := by
      simp [List.flatMap_map, hf.writable]
    simp only [layout, contributions, List.flatMap_append, List.flatMap_cons, hf.sql,
      flatMap_separated hf, Clause.flatMap_names hf, hvalues, List.nil_append, List.append_assoc]
  | update table columns =>
    simp only [layout, contributions, List.flatMap_append, List.flatMap_cons, List.flatMap_nil,
      hf.sql, flatMap_separated hf, Clause.flatMap_assignments hf, List.nil_append,
      List.append_nil]
  | delete table => simp [layout, contributions, hf.sql]

/-- A draft contributes what its parts contribute. -/
theorem Draft.flatMap_layout (operators : OperatorTable) (d : Draft) :
    (d.layout operators).flatMap f = d.contributions operators f := by
  have hjoins : (d.joins.flatMap (Join.layout operators)).flatMap f =
      d.joins.flatMap fun join => Condition.contributions operators f "on" join.conditions := by
    rw [List.flatMap_assoc]
    congr 1
    funext join
    simp only [Join.layout, List.flatMap_cons, hf.sql, hf.writable, List.nil_append,
      Clause.flatMap_allOfLayout hf, Condition.contributions]
  unfold layout contributions
  cases d.statement with
  | none => simp
  | some s =>
    simp only [List.flatMap_append, Statement.flatMap_layout hf, hjoins,
      Clause.flatMap_allOfAnyLayout hf, Clause.flatMap_columnsLayout hf, List.flatMap_cons,
      List.flatMap_nil, hf.sql, List.append_nil, Condition.contributions]

/-- Operands and errors apart, a statement contributes what its comparisons contribute. -/
theorem Draft.flatMap_layout_leaves (hoperand : ∀ token force, f (.operand token force) = [])
    (hfailure : ∀ e, f (.failure e) = []) {operators : OperatorTable} {g : Leaf → List β}
    (hleaf : ∀ clause (leaf : Leaf), (leaf.layout operators clause).flatMap f = g leaf)
    (d : Draft) (h : d.statement.isSome) :
    (d.layout operators).flatMap f = d.leaves.flatMap g := by
  have hitems (items : List Value) (force : Bool) :
      (items.flatMap fun v => f (.operand v force)) = [] :=
    List.flatMap_eq_nil_iff.mpr fun v _ => hoperand v force
  have hvalues (columns : List (Value × Value)) :
      (columns.flatMap fun e => f (.operand e.2 false)) = [] :=
    List.flatMap_eq_nil_iff.mpr fun e _ => hoperand e.2 false
  have hduplicates (items : List Value) : (Clause.duplicatesLayout items).flatMap f = [] := by
    unfold Clause.duplicatesLayout
    split
    · simp [hf.sql]
    · simp [hfailure]
  have hconditions (clause : String) (conditions : List Condition) :
      Condition.contributions operators f clause conditions =
        (Condition.leavesAll conditions).flatMap g :=
    congrArg (fun g => (Condition.leavesAll conditions).flatMap g) (funext (hleaf (some clause)))
  have hstatement (s : Statement) (joins : List β) : s.contributions f joins = joins := by
    cases s <;> simp [Statement.contributions, hitems, hvalues, hduplicates]
  obtain ⟨s, hs⟩ := Option.isSome_iff_exists.mp h
  rw [flatMap_layout hf]
  simp only [contributions, hs, hstatement, hconditions, hitems, List.append_nil, leaves,
    List.flatMap_append, List.flatMap_assoc]

end SqlDraft
