import SqlDraft.Proofs.Layout

/-!
Rendering a draft is running its layout. Each renderer of the text (operators, conditions, column
lists, joins, statements) is shown to be the run of its own layout; the joined lists are runs of
separated layouts.
-/
namespace SqlDraft

open Text

namespace Piece

/-- The text of one piece, with what it consumes and notes. -/
def run (scope : Scope) : Piece → Render String
  | sql text => return text
  | data text => return Text.escape text
  | writable v => do
    Operand.demand v
    return ""
  | name column => return Operand.identifier scope column true
  | operand token force => Operand.resolve scope token force
  | unused token => do
    let _ ← Operand.resolve scope token false
    return ""
  | malformed column operator value =>
    if scope.strict then throw (Error.malformedOperand column operator value).raised
    else do
      note (.malformedOperand operator column)
      return ""
  | failure e => throw e

end Piece

namespace Layout

def run (scope : Scope) : Layout → Render String
  | [] => return ""
  | piece :: rest => do
    let first ← piece.run scope
    let others ← run scope rest
    return first ++ others

def runAll (scope : Scope) : List Layout → Render (List String)
  | [] => return []
  | l :: rest => do
    let first ← run scope l
    let others ← runAll scope rest
    return first :: others

variable (scope : Scope)

theorem run_append (l m : Layout) :
    run scope (l ++ m) = do
      let first ← run scope l
      let others ← run scope m
      return first ++ others := by
  induction l with
  | nil => simp only [List.nil_append, run, pure_bind, String.empty_append, bind_pure]
  | cons piece rest ih =>
    simp only [List.cons_append, run, ih, bind_assoc, pure_bind, String.append_assoc]

theorem run_cons (piece : Piece) (l : Layout) :
    run scope (piece :: l) = do
      let first ← piece.run scope
      let others ← run scope l
      return first ++ others := rfl

theorem run_singleton (piece : Piece) : run scope [piece] = piece.run scope := by
  simp only [run, pure_bind, String.append_empty, bind_pure]

theorem run_sql_cons (text : String) (l : Layout) :
    run scope (.sql text :: l) = do
      let others ← run scope l
      return text ++ others := by
  simp only [run, Piece.run, pure_bind]

theorem run_writable_cons (v : Value) (l : Layout) :
    run scope (.writable v :: l) = (Operand.demand v >>= fun _ => run scope l) := by
  simp only [run, Piece.run, bind_assoc, pure_bind, String.empty_append, bind_pure]

theorem runAll_append (l m : List Layout) :
    runAll scope (l ++ m) = do
      let first ← runAll scope l
      let others ← runAll scope m
      return first ++ others := by
  induction l with
  | nil => simp only [List.nil_append, runAll, pure_bind, bind_pure]
  | cons layout rest ih =>
    simp only [List.cons_append, runAll, ih, bind_assoc, pure_bind]

/-- A list with separators runs its parts and joins their texts. -/
theorem run_separated (separator : String) (l : List Layout) :
    run scope (separated separator l) = do
      let texts ← runAll scope l
      return joinWith separator texts := by
  induction l with
  | nil => simp only [separated, run, runAll, pure_bind, joinWith]
  | cons layout rest ih =>
    cases rest with
    | nil => simp only [separated, runAll, pure_bind, bind_assoc, joinWith, bind_pure]
    | cons next rest =>
      simp only [separated, run_append, run_sql_cons, ih, runAll, bind_assoc, pure_bind, joinWith,
        String.append_assoc]

end Layout

open Layout

namespace Operand

theorem runAll_listed (scope : Scope) (items : List Value) :
    runAll scope (listed items) = resolveAll scope true items := by
  induction items with
  | nil => rfl
  | cons v rest ih =>
    have hrest : runAll scope (rest.map fun v => [.operand v true]) = resolveAll scope true rest :=
      ih
    simp only [listed, List.map_cons, runAll, run_singleton, Piece.run, hrest, resolveAll]

/-- A text is never taken for a placeholder once it is a value. -/
theorem literal_text (s : String) (force : Bool) : literal (.text s) force = quoteLiteral s := by
  have htoken : Token.ofText s = .positional ∨ (∃ name, Token.ofText s = .named name) ∨
      Token.ofText s = .string := by
    unfold Token.ofText
    split
    · exact Or.inl rfl
    · split
      · exact Or.inr (Or.inl ⟨_, rfl⟩)
      · exact Or.inr (Or.inr rfl)
  rcases htoken with h | ⟨name, h⟩ | h <;> simp only [literal, Token.ofValue, h, Value.asText]

theorem run_literal (scope : Scope) (v : Value) (force : Bool) :
    run scope (Layout.literal v force) = renderLiteral v force := by
  cases v with
  | text s =>
    simp only [Layout.literal, run, Piece.run, pure_bind, renderLiteral, content, demand_text,
      literal_text, quoteLiteral, String.append_empty, String.append_assoc]
  | _ => simp only [Layout.literal, run_writable_cons, run_singleton, Piece.run, renderLiteral]

end Operand

namespace OperatorRule

variable (scope : Scope) (column operator v : Value)

theorem run_pattern (before after : String) :
    run scope (pattern before after v) =
      (Operand.demand v >>= fun _ => pure (likePattern before after v)) := by
  cases v with
  | null =>
    simp only [pattern, run, Piece.run, pure_bind, Operand.demand_null, likePattern,
      String.append_empty, String.append_assoc]
  | text s =>
    simp only [pattern, run, Piece.run, pure_bind, Operand.demand_text, likePattern, Value.asText,
      String.append_empty, String.append_assoc]
  | _ => simp only [pattern, run_writable_cons, run_singleton, Piece.run]

/-- What is written of a comparison whose rule has written a fragment, or none. -/
def settle : Option String → Render String
  | some fragment => return fragment
  | none => (Piece.malformed column operator v).run scope

theorem run_rejected :
    run scope [.unused column, .malformed column operator v] =
      (Operand.resolve scope column false >>= fun _ => settle scope column operator v none) := by
  simp only [run, Piece.run, settle, bind_assoc, pure_bind, String.append_empty,
    String.empty_append, bind_pure]

/-- The column is resolved first, then the operands of the rule. -/
theorem run_layout (rule : OperatorRule) :
    run scope (rule.layout column operator v) =
      (Operand.resolve scope column false >>= fun columnText =>
        rule.render scope columnText v >>= settle scope column operator v) := by
  cases rule with
  | comparison symbol force =>
    simp only [render, layout, run, Piece.run, settle, bind_assoc, pure_bind, String.append_assoc,
      String.append_empty]
  | call function force =>
    simp only [render, layout, List.cons_append, List.nil_append, run_append, run, Piece.run,
      settle, Operand.run_literal, bind_assoc, pure_bind, String.append_assoc, String.append_empty]
  | between =>
    rcases hitems : v.items? with _ | _ | ⟨low, _ | ⟨high, _ | ⟨third, rest⟩⟩⟩
    case some.cons.cons.nil =>
      simp only [render, layout, hitems, run, Piece.run, settle, bind_assoc, pure_bind,
        String.append_assoc, String.append_empty]
    all_goals simp only [render, layout, hitems, run_rejected, pure_bind]
  | membership keyword =>
    cases hitems : v.items? with
    | none => simp only [render, layout, hitems, run_rejected, pure_bind]
    | some items =>
      simp only [render, layout, hitems, List.cons_append, List.nil_append, run, Piece.run,
        run_append, run_separated, Operand.runAll_listed, settle, bind_assoc, pure_bind,
        String.append_assoc, String.append_empty]
  | like before after =>
    simp only [render, layout, List.cons_append, List.nil_append, run, Piece.run, run_pattern,
      settle, bind_assoc, pure_bind, String.append_assoc]
  | fixed text =>
    simp only [render, layout, run, Piece.run, settle, bind_assoc, pure_bind, String.append_empty,
      String.empty_append]
  | unusable => simp only [render, layout, run_rejected, pure_bind]

end OperatorRule

namespace Condition

variable (ctx : RenderContext)

/-- A comparison without a rule fails before its column is resolved. -/
theorem renderLeaf_eq_run (column operator v : Value) :
    renderLeaf ctx column operator v =
      run ctx.scope (leafLayout ctx.operators ctx.clause column operator v) := by
  unfold renderLeaf leafLayout
  cases ctx.operators.find? operator with
  | none => exact (run_singleton ctx.scope (.failure _)).symm
  | some rule =>
    simp only [OperatorRule.run_layout]
    rfl

mutual

theorem render_eq_run : (c : Condition) →
    render ctx c = run ctx.scope (layout ctx.operators ctx.clause c)
  | .leaf column operator v => renderLeaf_eq_run ctx column operator v
  | .group combinator children => by
    simp only [render, layout, renderAll_eq_runAll children, List.cons_append, run_sql_cons,
      run_append, run_separated, run_singleton, Piece.run, bind_assoc, pure_bind,
      String.append_assoc]
  | .raw sql => (run_singleton ctx.scope (.sql sql)).symm
termination_by structural c => c

theorem renderAll_eq_runAll : (cs : List Condition) →
    renderAll ctx cs = runAll ctx.scope (layoutAll ctx.operators ctx.clause cs)
  | [] => rfl
  | c :: rest => by
    simp only [renderAll, layoutAll, runAll, render_eq_run c, renderAll_eq_runAll rest]
termination_by structural cs => cs

end

end Condition

namespace Clause

variable (scope : Scope)

/-- What stands behind a direction that cannot be written is not reached. -/
theorem runAll_directions (entries : List (Value × Value)) :
    runAll scope (entries.filterMap directionLayout?) = directed scope entries := by
  induction entries with
  | nil => rfl
  | cons e rest ih =>
    obtain ⟨column, v⟩ := e
    rw [List.filterMap_cons, directed]
    cases hwritable : v.isWritable with
    | false =>
      simp only [directionLayout?, hwritable, Bool.false_eq_true, if_false, runAll, run_singleton,
        Piece.run, Operand.demand_of_not_isWritable hwritable]
      rfl
    | true =>
      simp only [directionLayout?, hwritable, if_true, Operand.demand_of_isWritable hwritable,
        pure_bind]
      cases Direction.ofValue? v with
      | none => simpa only [Option.map_none] using ih
      | some direction =>
        simp only [Option.map_some, runAll, run, Piece.run, ih, Operand.renderIdentifier,
          bind_assoc, pure_bind, String.empty_append, String.append_empty, String.append_assoc]

theorem runAll_entryLayouts (v : Value) :
    runAll scope (entryLayouts v) = columnEntries scope v := by
  cases v with
  | dict entries => exact runAll_directions scope entries
  | _ => simp only [entryLayouts, columnEntries, runAll, run_singleton, Piece.run, pure_bind]

theorem runAll_columns (items : List Value) :
    runAll scope (items.flatMap entryLayouts) = columnList scope items := by
  induction items with
  | nil => rfl
  | cons v rest ih =>
    simp only [List.flatMap_cons, runAll_append, runAll_entryLayouts, ih, columnList]

/-- Mappings among the columns resolve nothing, whatever their directions. -/
theorem columns_eq_run (keyword : String) (items : List Value) :
    columns scope keyword items = run scope (columnsLayout keyword items) := by
  unfold columns columnsLayout
  split
  · rfl
  · simp only [List.cons_append, run_sql_cons, run_append, run_separated, runAll_columns,
      run_singleton, Piece.run, bind_assoc, pure_bind, String.append_assoc]

theorem allOf_eq_run (operators : OperatorTable) (clause keyword : String)
    (conditions : List Condition) :
    allOf ⟨scope, operators, some clause⟩ keyword conditions =
      run scope (allOfLayout operators clause keyword conditions) := by
  simp only [allOf, allOfLayout, Condition.renderAll_eq_runAll, Condition.joined,
    List.cons_append, run_sql_cons, run_append, run_separated, run_singleton, Piece.run,
    bind_assoc, pure_bind, String.append_assoc]

theorem allOfAny_eq_run (operators : OperatorTable) (clause keyword : String)
    (conditions : List Condition) :
    allOfAny ⟨scope, operators, some clause⟩ keyword conditions =
      run scope (allOfAnyLayout operators clause keyword conditions) := by
  unfold allOfAny allOfAnyLayout
  split
  · rfl
  · exact allOf_eq_run scope operators clause keyword conditions

theorem runAll_names (columns : List (Value × Value)) :
    runAll scope (columns.map fun e => [.name e.1]) =
      pure (columns.map fun e => Operand.identifier scope e.1 true) := by
  induction columns with
  | nil => rfl
  | cons e rest ih =>
    simp only [List.map_cons, runAll, run_singleton, Piece.run, ih, pure_bind]

/-- The texts of the columns take no part in rendering, so only the values have to run, each behind
the check of its column. -/
theorem assignments_bind {α : Type} (columns : List (Value × Value))
    (f : List String → List String → Render α) :
    (assignments scope columns >>= fun pairs => f (pairs.map Prod.fst) (pairs.map Prod.snd)) =
      runAll scope (columns.map fun e => [.writable e.1, .operand e.2 false]) >>=
        f (columns.map fun e => Operand.identifier scope e.1 true) := by
  induction columns generalizing f with
  | nil => simp only [assignments, List.map_nil, runAll, pure_bind]
  | cons e rest ih =>
    simp only [assignments, List.map_cons, runAll, run_writable_cons, run_singleton, Piece.run,
      Operand.renderIdentifier, bind_assoc, pure_bind]
    congr 1
    funext _
    congr 1
    funext operand
    exact ih fun names operands =>
      f (Operand.identifier scope e.1 true :: names) (operand :: operands)

theorem runAll_assignments (columns : List (Value × Value)) :
    runAll scope (columns.map fun e => [.writable e.1, .name e.1, .sql " = ", .operand e.2 false]) =
      (assignments scope columns >>= fun pairs =>
        pure (pairs.map fun p => p.1 ++ " = " ++ p.2)) := by
  induction columns with
  | nil => simp only [assignments, List.map_nil, runAll, pure_bind]
  | cons e rest ih =>
    simp only [assignments, List.map_cons, runAll, run, Piece.run, ih, Operand.renderIdentifier,
      bind_assoc, pure_bind, String.empty_append, String.append_empty, String.append_assoc]

theorem run_duplicatesLayout (items : List Value) :
    run scope (duplicatesLayout items) = ((duplicates items : Except Error String) :
      Render String) := by
  unfold duplicatesLayout
  cases duplicates items <;> exact run_singleton scope _

end Clause

namespace Join

theorem renderAll_eq_run (scope : Scope) (operators : OperatorTable) (joins : List Join) :
    renderAll ⟨scope, operators, some "on"⟩ joins =
      run scope (joins.flatMap (layout operators)) := by
  induction joins with
  | nil => rfl
  | cons join rest ih =>
    simp only [renderAll, render, Clause.allOf_eq_run, ih, List.flatMap_cons, run_append, layout,
      run_writable_cons, run_sql_cons, bind_assoc, pure_bind, String.append_assoc]

end Join

namespace Statement

theorem render_eq_run (scope : Scope) (joins : Layout) (s : Statement) :
    s.render scope (run scope joins) = run scope (s.layout joins) := by
  cases s with
  | select table columns =>
    simp only [render, layout, List.cons_append, run_sql_cons, run_append, run_separated,
      Clause.runAll_columns, bind_assoc, pure_bind, String.append_assoc]
  | insert table columns duplicates =>
    simp only [render, layout, List.cons_append, run_sql_cons, run_append, run_separated,
      Clause.runAll_names, Clause.run_duplicatesLayout, bind_assoc, pure_bind,
      String.append_assoc]
    exact Clause.assignments_bind scope columns fun names operands => do
      let onDuplicate ← (Clause.duplicates duplicates : Except Error String)
      let joined ← run scope joins
      return "INSERT INTO " ++ (table.name ++ (" (" ++ (joinWith ", " names ++
        (")\nVALUES (" ++ (joinWith ", " operands ++ (")\n" ++ (onDuplicate ++ joined)))))))
  | update table columns =>
    simp only [render, layout, List.cons_append, run_sql_cons, run_append, run_separated,
      Clause.runAll_assignments, run_singleton, Piece.run, bind_assoc, pure_bind,
      String.append_assoc]
  | delete table => exact (run_sql_cons scope _ joins).symm

end Statement

namespace Draft

/-- What is noted at the end of a build. -/
def noteBuilt (d : Draft) : Render Unit :=
  match d.statement with
  | none => return ()
  | some s => do note (.built s.kind.name (← get).cursor)

/-- Rendering a draft is running its layout and noting that it was built. -/
theorem render_eq_run (d : Draft) (operators : OperatorTable) :
    d.render operators = do
      let text ← Layout.run d.scope (d.layout operators)
      d.noteBuilt
      return text := by
  unfold render layout noteBuilt
  cases d.statement with
  | none => rfl
  | some s =>
    simp only [context, Join.renderAll_eq_run, Statement.render_eq_run, Clause.allOfAny_eq_run,
      Clause.columns_eq_run, run_append, run_singleton, Piece.run, bind_assoc, pure_bind,
      String.append_assoc]

end Draft

end SqlDraft
