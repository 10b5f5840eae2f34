import SqlDraft.Payload
import SqlDraft.Proofs.Positional
import SqlDraft.Proofs.Skipping

/-!
Strict drafts are lenient ones without degradation. Of one list of declarations, the strict run ends
in a text exactly when the lenient run ends in the same text and noted nothing that it passed over.
What a lenient run passes over is also read off the declarations: items left out of conditions,
comparisons whose operator writes nothing for their value, and placeholders from the gap on.
-/
namespace SqlDraft

open Notice

/-- Whether an operator writes nothing for a value. -/
def OperatorRule.Rejects (rule : OperatorRule) (v : Value) : Prop :=
  ∀ scope column, rule.render scope column v = pure none

def Leaf.Rejected (operators : OperatorTable) (leaf : Leaf) : Prop :=
  ∃ rule, operators.find? leaf.operator = some rule ∧ rule.Rejects leaf.value

def Scope.withStrict (scope : Scope) (strict : Bool) : Scope := { scope with strict := strict }

/-- What a run noted as passed over. -/
def Progress.degradations (p : Progress) : List Notice := Notice.degradations p.notices

theorem Progress.degradations_noted (p : Progress) (cursor : Nat) {n : Notice}
    (h : n.isDegradation = true) :
    (⟨cursor, p.notices ++ [n]⟩ : Progress).degradations = p.degradations ++ [n] := by
  simp [degradations, Notice.degradations, h]

namespace Operand

variable {scope : Scope}

/-- A strict operand does what a lenient one does that passes nothing over. -/
theorem resolve_strict_iff (token : Value) (force : Bool) (p q : Progress) (text : String) :
    (resolve (scope.withStrict true) token force).exec p = (.ok text, q) ↔
      (resolve (scope.withStrict false) token force).exec p = (.ok text, q) ∧
        q.degradations = p.degradations := by
  by_cases htoken : token = .text "?"
  · subst htoken
    rw [exec_resolve_positional, exec_resolve_positional]
    simp only [Scope.withStrict]
    cases scope.params.get? (.slot p.cursor) with
    | some v =>
      simp only [Prod.mk.injEq, iff_self_and, and_imp]
      rintro - rfl
      rfl
    | none =>
      simp only [if_true, Prod.mk.injEq, reduceCtorEq, false_and, false_iff, Bool.false_eq_true,
        if_false, not_and, and_imp]
      rintro - rfl
      simp [p.degradations_noted p.cursor (n := .unresolved p.cursor) rfl]
  · have hlookup (strict : Bool) : lookup (scope.withStrict strict) token force =
        lookup scope token force := rfl
    rw [exec_resolve_of_ne _ htoken, exec_resolve_of_ne _ htoken, hlookup, hlookup]
    simp only [Prod.mk.injEq, iff_self_and, and_imp]
    rintro - rfl
    rfl

/-- Notes are only ever added. -/
theorem degradations_resolve (token : Value) (force : Bool) (p : Progress) :
    p.degradations <+: ((resolve scope token force).exec p).2.degradations := by
  by_cases htoken : token = .text "?"
  · subst htoken
    rw [exec_resolve_positional]
    split
    · exact List.prefix_rfl
    · split
      · exact List.prefix_rfl
      · exact ⟨[.unresolved p.cursor], (p.degradations_noted p.cursor rfl).symm⟩
  · have hsame : ((resolve scope token force).exec p).2 = p := by
      rw [exec_resolve_of_ne _ htoken]
    exact hsame.symm ▸ List.prefix_rfl

end Operand

namespace Piece

variable {scope : Scope}

theorem run_strict_iff (piece : Piece) (p q : Progress) (text : String) :
    (piece.run (scope.withStrict true)).exec p = (.ok text, q) ↔
      (piece.run (scope.withStrict false)).exec p = (.ok text, q) ∧
        q.degradations = p.degradations := by
  have hquiet (r : Except Error String) :
      (r, p) = (.ok text, q) ↔ (r, p) = (.ok text, q) ∧ q.degradations = p.degradations := by
    simp only [Prod.mk.injEq, iff_self_and, and_imp]
    rintro - rfl
    rfl
  cases piece with
  | operand token force => exact Operand.resolve_strict_iff token force p q text
  | unused token =>
    simp only [run_unused_ok_iff, Operand.resolve_strict_iff, exists_and_right, and_assoc]
  | malformed column operator value =>
    simp only [run, Scope.withStrict, if_true, Render.exec_throw, Prod.mk.injEq, reduceCtorEq,
      false_and, Bool.false_eq_true, if_false, Render.exec_bind, Render.exec_note,
      Render.exec_pure, false_iff, not_and, and_imp]
    rintro - rfl
    simp [p.degradations_noted p.cursor (n := .malformedOperand operator column) rfl]
  | sql written => exact hquiet _
  | data content => exact hquiet _
  | writable v =>
    simp only [run, Operand.exec_demand_bind]
    exact hquiet _
  | name column => exact hquiet _
  | failure e => exact hquiet _

theorem degradations_run (piece : Piece) (p : Progress) :
    p.degradations <+: ((piece.run scope).exec p).2.degradations := by
  cases piece with
  | operand token force => exact Operand.degradations_resolve token force p
  | unused token =>
    have hresolve : p.degradations <+:
        ((Operand.resolve scope token false).exec p).2.degradations :=
      Operand.degradations_resolve token false p
    simp only [run, Render.exec_bind]
    rcases hrun : (Operand.resolve scope token false).exec p with ⟨_ | dropped, q⟩
    · simpa [hrun] using hresolve
    · simpa [hrun] using hresolve
  | malformed column operator value =>
    cases hstrict : scope.strict with
    | true =>
      simp only [run, hstrict, if_true, Render.exec_throw]
      exact List.prefix_rfl
    | false =>
      simp only [run, hstrict, Bool.false_eq_true, if_false, Render.exec_bind, Render.exec_note,
        Render.exec_pure]
      exact ⟨[.malformedOperand operator column], (p.degradations_noted p.cursor rfl).symm⟩
  | writable v =>
    simp only [run, Operand.exec_demand_bind]
    exact List.prefix_rfl
  | _ => exact List.prefix_rfl

end Piece

namespace Layout

variable {scope : Scope}

theorem degradations_run (l : Layout) (p : Progress) :
    p.degradations <+: ((l.run scope).exec p).2.degradations := by
  induction l generalizing p with
  | nil => exact List.prefix_rfl
  | cons piece rest ih =>
    have hfirst : p.degradations <+: ((piece.run scope).exec p).2.degradations :=
      piece.degradations_run p
    rw [run_cons, Render.exec_bind]
    rcases hpiece : (piece.run scope).exec p with ⟨e | first, p'⟩
    · simpa [hpiece] using hfirst
    · rw [hpiece] at hfirst
      have hrest := ih p'
      simp only [Render.exec_bind]
      rcases hrun : (run scope rest).exec p' with ⟨e | others, q⟩
      · rw [hrun] at hrest
        exact hfirst.trans hrest
      · rw [hrun] at hrest
        exact hfirst.trans hrest

/-- Nothing is noted by a run exactly when nothing is by its first piece and by the rest. -/
theorem degradations_between {piece : Piece} {rest : Layout} {p p' q : Progress}
    {first others : Except Error String} (hpiece : (piece.run scope).exec p = (first, p'))
    (hrest : (run scope rest).exec p' = (others, q)) :
    q.degradations = p.degradations ↔
      p'.degradations = p.degradations ∧ q.degradations = p'.degradations := by
  have hfirst : p.degradations <+: ((piece.run scope).exec p).2.degradations :=
    piece.degradations_run p
  have hothers : p'.degradations <+: ((run scope rest).exec p').2.degradations :=
    degradations_run rest p'
  rw [hpiece] at hfirst
  rw [hrest] at hothers
  constructor
  · intro hsame
    have hlength := hothers.length_le
    rw [hsame] at hlength
    have hp' : p'.degradations = p.degradations := (hfirst.eq_of_length_le hlength).symm
    exact ⟨hp', hsame.trans hp'.symm⟩
  · rintro ⟨hp', hq⟩
    exact hq.trans hp'

/-- Two runs of one layout: what the strict one writes, the lenient one writes too, and the other
way round as long as nothing is noted. -/
theorem run_strict_iff (scope : Scope) (l : Layout) (p q : Progress) (text : String) :
    (l.run (scope.withStrict true)).exec p = (.ok text, q) ↔
      (l.run (scope.withStrict false)).exec p = (.ok text, q) ∧
        q.degradations = p.degradations := by
  induction l generalizing p text with
  | nil =>
    simp only [run, Render.exec_pure, Prod.mk.injEq, iff_self_and, and_imp]
    rintro - rfl
    rfl
  | cons piece rest ih =>
    simp only [run_cons_ok_iff, Piece.run_strict_iff, ih]
    constructor
    · rintro ⟨first, p', others, ⟨hpiece, hnoted⟩, ⟨hrest, hnoted'⟩, rfl⟩
      exact ⟨⟨first, p', others, hpiece, hrest, rfl⟩, hnoted'.trans hnoted⟩
    · rintro ⟨⟨first, p', others, hpiece, hrest, rfl⟩, hnoted⟩
      obtain ⟨hfirst, hothers⟩ := (degradations_between hpiece hrest).mp hnoted
      exact ⟨first, p', others, ⟨hpiece, hfirst⟩, ⟨hrest, hothers⟩, rfl⟩

end Layout

/-! What a lenient run passes over, read off its layout. -/

namespace Render

/-- Whatever was consumed before, nothing is ever left unwritten. -/
def Writes (m : Render (Option String)) : Prop := ∀ p, (m.exec p).1 ≠ .ok none

theorem writes_some (text : String) : Writes (pure (some text)) := fun p => by simp

theorem writes_bind {α : Type} (m : Render α) {f : α → Render (Option String)}
    (hf : ∀ a, Writes (f a)) : Writes (m >>= f) := by
  intro p
  rw [exec_bind]
  rcases m.exec p with ⟨e | a, q⟩
  · simp
  · exact hf a q

theorem Writes.ne_none {m : Render (Option String)} (h : Writes m) : m ≠ pure none := by
  rintro rfl
  exact h .start rfl

end Render

namespace Piece

def rejected : Piece → List Leaf
  | malformed column operator value => [⟨column, operator, value⟩]
  | _ => []

theorem quiet_rejected : Quiet rejected := ⟨fun _ => rfl, fun _ => rfl, fun _ => rfl⟩

end Piece

open Layout

/-- A rule lays out a malformed comparison for the values that it rejects, and for no other. -/
theorem OperatorRule.rejected_layout (rule : OperatorRule) (column operator v : Value) :
    (rule.layout column operator v).flatMap Piece.rejected = [] ↔ ¬rule.Rejects v := by
  have hwrites (h : ∀ scope column, (rule.render scope column v).Writes) : ¬rule.Rejects v :=
    fun hrejects => (h ⟨false, .empty, .empty⟩ "").ne_none (hrejects _ _)
  have hrejects (h : ∀ scope column, rule.render scope column v = pure none) :
      ¬¬rule.Rejects v := fun hnot => hnot h
  cases rule with
  | comparison symbol force =>
    refine iff_of_true rfl (hwrites fun scope column => ?_)
    exact Render.writes_bind _ fun operand => Render.writes_some _
  | call function force =>
    have hliteral : (Layout.literal v force).flatMap Piece.rejected = [] :=
      flatMap_literal Piece.quiet_rejected (fun _ => rfl) v force
    refine iff_of_true (by simp [layout, Piece.rejected, hliteral]) (hwrites fun scope column => ?_)
    exact Render.writes_bind _ fun operand => Render.writes_some _
  | between =>
    rcases hitems : v.items? with _ | _ | ⟨low, _ | ⟨high, _ | ⟨third, rest⟩⟩⟩
    case some.cons.cons.nil =>
      refine iff_of_true (by simp [layout, hitems, Piece.rejected])
        (hwrites fun scope column => ?_)
      simp only [render, hitems]
      exact Render.writes_bind _ fun low => Render.writes_bind _ fun high => Render.writes_some _
    all_goals
      refine iff_of_false (by simp [layout, hitems, Piece.rejected])
        (hrejects fun scope column => ?_)
      simp only [render, hitems]
  | membership keyword =>
    cases hitems : v.items? with
    | none =>
      refine iff_of_false (by simp [layout, hitems, Piece.rejected])
        (hrejects fun scope column => ?_)
      simp only [render, hitems]
    | some items =>
      have hlisted : (separated "," (listed items)).flatMap Piece.rejected = [] := by
        rw [flatMap_separated Piece.quiet_rejected, listed, List.flatMap_map]
        exact List.flatMap_eq_nil_iff.mpr fun _ _ => rfl
      refine iff_of_true (by simp [layout, hitems, Piece.rejected, hlisted])
        (hwrites fun scope column => ?_)
      simp only [render, hitems]
      exact Render.writes_bind _ fun operands => Render.writes_some _
  | like before after =>
    have hpattern : (pattern before after v).flatMap Piece.rejected = [] :=
      flatMap_pattern Piece.quiet_rejected (fun _ => rfl) before after v
    refine iff_of_true (by simp [layout, Piece.rejected, hpattern]) (hwrites fun scope column => ?_)
    exact Render.writes_bind _ fun _ => Render.writes_some _
  | fixed text => exact iff_of_true rfl (hwrites fun scope column => Render.writes_some _)
  | unusable => exact iff_of_false (by simp [layout, Piece.rejected]) (hrejects fun _ _ => rfl)

namespace Leaf

/-- The comparison itself, if its operator rejects its value. -/
def rejections (operators : OperatorTable) (leaf : Leaf) : List Leaf :=
  match operators.find? leaf.operator with
  | some rule => (rule.layout leaf.column leaf.operator leaf.value).flatMap Piece.rejected
  | none => []

theorem rejected_layout (operators : OperatorTable) (clause : Option String) (leaf : Leaf) :
    (leaf.layout operators clause).flatMap Piece.rejected = leaf.rejections operators := by
  unfold layout Condition.leafLayout rejections
  cases operators.find? leaf.operator <;> rfl

theorem rejections_eq_nil_iff (operators : OperatorTable) (leaf : Leaf) :
    leaf.rejections operators = [] ↔ ¬leaf.Rejected operators := by
  unfold rejections Rejected
  cases operators.find? leaf.operator with
  | none => simp
  | some rule => simp only [OperatorRule.rejected_layout, Option.some.injEq, exists_eq_left']

end Leaf

theorem Draft.rejected_layout_iff (d : Draft) (operators : OperatorTable)
    (h : d.statement.isSome) :
    (d.layout operators).flatMap Piece.rejected = [] ↔
      ∀ leaf ∈ d.leaves, ¬leaf.Rejected operators := by
  rw [flatMap_layout_leaves Piece.quiet_rejected (fun _ _ => rfl) (fun _ => rfl)
    (Leaf.rejected_layout operators) d h, List.flatMap_eq_nil_iff]
  simp only [Leaf.rejections_eq_nil_iff]

namespace Operand

variable {scope : Scope} {seen : Nat} {p q : Progress}

/-- A placeholder is passed over from the gap on. -/
theorem degradations_resolve_iff {token : Value} {force : Bool} {text : String}
    (hlenient : scope.strict = false) (hp : scope.Counted seen p)
    (h : (resolve scope token force).exec p = (.ok text, q)) :
    q.degradations = p.degradations ↔
      seen + positionals [⟨token, force⟩] ≤ max seen scope.params.gap := by
  by_cases htoken : token = .text "?"
  · subst htoken
    have hone : positionals [⟨.text "?", force⟩] = 1 := rfl
    rw [exec_resolve_positional, hp.cursor] at h
    rw [hone]
    by_cases hseen : seen < scope.params.gap
    · obtain ⟨v, hv⟩ := Params.exists_of_lt_gap hseen
      simp only [Nat.min_eq_left (Nat.le_of_lt hseen), hv, Prod.mk.injEq] at h
      obtain ⟨-, rfl⟩ := h
      exact iff_of_true rfl (by omega)
    · rw [Nat.min_eq_right (Nat.le_of_not_lt hseen), scope.params.get?_gap] at h
      simp only [hlenient, Bool.false_eq_true, if_false, Prod.mk.injEq] at h
      obtain ⟨-, rfl⟩ := h
      refine iff_of_false ?_ (by omega)
      simp [p.degradations_noted _ (n := .unresolved scope.params.gap) rfl]
  · have hnone : positionals [⟨token, force⟩] = 0 := by
      simp [positionals, Token.ofValue_eq_positional_iff, htoken]
    simp only [exec_resolve_of_ne scope htoken, Prod.mk.injEq] at h
    obtain ⟨-, rfl⟩ := h
    exact iff_of_true rfl (by omega)

end Operand

theorem Piece.degradations_run_iff {scope : Scope} {seen : Nat} {p q : Progress} {piece : Piece}
    {text : String} (hlenient : scope.strict = false) (hp : scope.Counted seen p)
    (h : (piece.run scope).exec p = (.ok text, q)) :
    q.degradations = p.degradations ↔
      piece.rejected = [] ∧ seen + positionals piece.operands ≤ max seen scope.params.gap := by
  cases piece with
  | operand token force =>
    rw [Operand.degradations_resolve_iff hlenient hp h]
    exact (and_iff_right rfl).symm
  | unused token =>
    obtain ⟨-, dropped, hresolve⟩ := (run_unused_ok_iff scope token p q text).mp h
    rw [Operand.degradations_resolve_iff hlenient hp hresolve]
    exact (and_iff_right rfl).symm
  | malformed column operator value =>
    simp only [run, hlenient, Bool.false_eq_true, if_false, Render.exec_bind, Render.exec_note,
      Render.exec_pure, Prod.mk.injEq] at h
    obtain ⟨-, rfl⟩ := h
    refine iff_of_false ?_ (by simp [rejected])
    simp [p.degradations_noted p.cursor (n := .malformedOperand operator column) rfl]
  | failure e => simp [run] at h
  | writable v =>
    rw [run, Operand.exec_demand_bind, Prod.mk.injEq] at h
    obtain ⟨-, rfl⟩ := h
    exact iff_of_true rfl ⟨rfl, Nat.le_max_left _ _⟩
  | _ =>
    cases h
    refine iff_of_true rfl ⟨rfl, ?_⟩
    exact Nat.le_max_left _ _

/-- A lenient run that ends in a text passes over the comparisons that lack a value for their
operator and the placeholders from the gap on, and nothing else. -/
theorem Layout.degradations_run_iff {scope : Scope} {seen : Nat} {p q : Progress} {l : Layout}
    {text : String} (hlenient : scope.strict = false) (hp : scope.Counted seen p)
    (h : (l.run scope).exec p = (.ok text, q)) :
    q.degradations = p.degradations ↔
      l.flatMap Piece.rejected = [] ∧
        seen + positionals l.operands ≤ max seen scope.params.gap := by
  induction l generalizing seen p text with
  | nil =>
    cases h
    exact iff_of_true rfl ⟨rfl, Nat.le_max_left _ _⟩
  | cons piece rest ih =>
    obtain ⟨first, p', others, hpiece, hrest, -⟩ := (run_cons_ok_iff scope piece rest p q text).mp h
    obtain ⟨_, _, _, hp'⟩ := Piece.run_ok hp hpiece
    rw [degradations_between hpiece hrest, Piece.degradations_run_iff hlenient hp hpiece,
      ih hp' hrest, List.flatMap_cons, List.append_eq_nil_iff, operands_cons, positionals_append]
    have hmax : seen + (positionals piece.operands + positionals (operands rest)) ≤
        max seen scope.params.gap ↔
        seen + positionals piece.operands ≤ max seen scope.params.gap ∧
          seen + positionals piece.operands + positionals (operands rest) ≤
            max (seen + positionals piece.operands) scope.params.gap := by
      omega
    rw [hmax]
    tauto

namespace Draft

variable (d : Draft) (operators : OperatorTable)

/-- That a build ended is no degradation. -/
theorem finish_degradations (r : Except Error String × Progress) :
    (d.finish r).2.degradations = r.2.degradations := by
  obtain ⟨_ | text, p⟩ := r
  · rfl
  · unfold finish
    cases d.statement with
    | none => simp [Progress.degradations]
    | some s => simp [Progress.degradations, Notice.degradations, isDegradation]

theorem run_strict_iff (s : String) :
    ((d.withStrict true).run operators).1 = .ok s ↔
      ((d.withStrict false).run operators).1 = .ok s ∧
        ((d.withStrict false).run operators).2.degradations = [] := by
  have hrun (strict : Bool) : (d.withStrict strict).run operators =
      (d.withStrict strict).finish
        (((d.layout operators).run (d.scope.withStrict strict)).exec .start) :=
    run_eq (d.withStrict strict) operators
  have hstart (q : Progress) :=
    (d.layout operators).run_strict_iff d.scope .start q s
  rw [hrun, hrun, finish_fst, finish_fst, finish_degradations]
  constructor
  · intro h
    rcases hstrict : ((d.layout operators).run (d.scope.withStrict true)).exec .start with ⟨r, q⟩
    rw [hstrict] at h
    cases h
    obtain ⟨hlenient, hnoted⟩ := (hstart q).mp hstrict
    rw [hlenient]
    exact ⟨rfl, hnoted⟩
  · rintro ⟨h, hnoted⟩
    rcases hlenient : ((d.layout operators).run (d.scope.withStrict false)).exec .start with ⟨r, q⟩
    rw [hlenient] at h hnoted
    cases h
    rw [(hstart q).mpr ⟨hlenient, hnoted⟩]

/-- What a lenient build that ends in a text passed over. -/
theorem degradations_run_iff {s : String} (hlenient : d.strict = false)
    (h : (d.run operators).1 = .ok s) :
    (d.run operators).2.degradations = [] ↔
      (∀ leaf ∈ d.leaves, ¬leaf.Rejected operators) ∧
        positionals (d.operands operators) ≤ d.params.gap := by
  have hstart : d.scope.Counted 0 .start := ⟨(Nat.zero_min _).symm, fun _ => Nat.zero_le _⟩
  rw [run_eq, finish_fst] at h
  rw [run_eq, finish_degradations]
  rcases hrun : ((d.layout operators).run d.scope).exec .start with ⟨r, q⟩
  rw [hrun] at h
  cases h
  have hstatement : d.statement.isSome := by
    cases hs : d.statement with
    | some statement => rfl
    | none => simp [layout, hs, Layout.run, Piece.run] at hrun
  have hnoted := Layout.degradations_run_iff hlenient hstart hrun
  rw [d.rejected_layout_iff operators hstatement, d.operands_layout, Nat.zero_add,
    Nat.zero_max] at hnoted
  exact hnoted

end Draft

namespace Payload

variable (operators : OperatorTable) (l : List Declaration)

/-- A run ends in a text if no declaration fails and the build ends in it. -/
theorem run_eq_ok_iff (strict : Bool) (s : String) :
    (run strict operators l).1 = .ok s ↔
      ((Draft.empty strict).declareAll l).error = none ∧
        (((Draft.empty strict).declareAll l).draft.run operators).1 = .ok s := by
  cases herror : ((Draft.empty strict).declareAll l).error with
  | some e => simp [run, herror]
  | none => simp [run, herror, Draft.build_eq_run]

/-- A lenient run passes over what its declarations leave out and what its build passes over. -/
theorem degradations_run_lenient (h : ((Draft.empty false).declareAll l).error = none) :
    degradations (run false operators l).2 = (l.flatMap Declaration.skipped).map .skipped ++
      (((Draft.empty false).declareAll l).draft.run operators).2.degradations := by
  have hnotices := Draft.declareAll_lenient (d := Draft.empty false) rfl h
  simp only [run, h, Draft.build_eq_run, degradations_append, hnotices, Progress.degradations]

/-- The strict run of a list of declarations ends in a text exactly when the lenient run ends in
the same text without degradation. A lenient run that ends in a text is without degradation when
no condition has an item left out, no operator rejects the value of a comparison, and there are
no more positional placeholders than slots before the gap. -/
theorem strict_eq_lenient_undegraded (s : String) :
    ((run true operators l).1 = .ok s ↔
      (run false operators l).1 = .ok s ∧ degradations (run false operators l).2 = []) ∧
    ((run false operators l).1 = .ok s →
      (degradations (run false operators l).2 = [] ↔
        (∀ a ∈ l, a.skipped = []) ∧
        (∀ leaf ∈ ((Draft.empty false).declareAll l).draft.leaves, ¬leaf.Rejected operators) ∧
        positionals (((Draft.empty false).declareAll l).draft.operands operators) ≤
          ((Draft.empty false).declareAll l).draft.params.gap)) := by
  have hlenient : ((Draft.empty false).declareAll l).draft.strict = false :=
    (Draft.changes_declareAll (Draft.empty false) l).strict_eq
  have hstrict (hskipped : ∀ a ∈ l, a.skipped = []) : (Draft.empty true).declareAll l =
      ((Draft.empty false).declareAll l).withStrict true :=
    (Draft.empty false).declareAll_withStrict true hskipped
  have hbuilds := ((Draft.empty false).declareAll l).draft.run_strict_iff operators s
  rw [Draft.withStrict_self hlenient] at hbuilds
  have hskipped : (l.flatMap Declaration.skipped).map Notice.skipped = [] ↔
      ∀ a ∈ l, a.skipped = [] := by
    rw [List.map_eq_nil_iff, List.flatMap_eq_nil_iff]
  rw [run_eq_ok_iff, run_eq_ok_iff]
  refine ⟨⟨?_, ?_⟩, ?_⟩
  · rintro ⟨hdeclared, hbuilt⟩
    have hnone : ∀ a ∈ l, a.skipped = [] := fun a ha => Classical.byContradiction fun hsome =>
      Draft.declareAll_strict (d := Draft.empty true) rfl ⟨a, ha, hsome⟩ hdeclared
    rw [hstrict hnone] at hdeclared hbuilt
    obtain ⟨htext, hnoted⟩ := hbuilds.mp hbuilt
    refine ⟨⟨hdeclared, htext⟩, ?_⟩
    rw [degradations_run_lenient operators l hdeclared, hnoted, hskipped.mpr hnone,
      List.append_nil]
  · rintro ⟨⟨hdeclared, hbuilt⟩, hnoted⟩
    rw [degradations_run_lenient operators l hdeclared, List.append_eq_nil_iff] at hnoted
    rw [hstrict (hskipped.mp hnoted.1)]
    exact ⟨hdeclared, hbuilds.mpr ⟨hbuilt, hnoted.2⟩⟩
  · rintro ⟨hdeclared, hbuilt⟩
    rw [degradations_run_lenient operators l hdeclared, List.append_eq_nil_iff, hskipped,
      Draft.degradations_run_iff _ operators hlenient hbuilt]

end Payload

end SqlDraft
