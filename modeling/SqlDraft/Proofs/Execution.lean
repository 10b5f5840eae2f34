import SqlDraft.Proofs.Layout.Rendering

/-!
Rendering as a function of what was consumed and noted before. Each step of the rendering monad has
one equation, and so has each kind of operand: only a positional placeholder reads or moves the
cursor, every other token has the same text wherever it stands, or cannot be written anywhere.
-/
namespace SqlDraft

namespace Render

variable {α β : Type}

def exec (m : Render α) (p : Progress) : Except Error α × Progress := m.run.run p

@[simp] theorem exec_pure (a : α) (p : Progress) : (pure a : Render α).exec p = (.ok a, p) := rfl

@[simp] theorem exec_throw (e : Error) (p : Progress) :
    (throw e : Render α).exec p = (.error e, p) := rfl

@[simp] theorem exec_get (p : Progress) : (get : Render Progress).exec p = (.ok p, p) := rfl

@[simp] theorem exec_note (n : Notice) (p : Progress) :
    (note n).exec p = (.ok (), { p with notices := p.notices ++ [n] }) := rfl

@[simp] theorem exec_advance (p : Progress) :
    advance.exec p = (.ok (), { p with cursor := p.cursor + 1 }) := rfl

theorem exec_bind (m : Render α) (f : α → Render β) (p : Progress) :
    (m >>= f).exec p = match m.exec p with
      | (.ok a, q) => (f a).exec q
      | (.error e, q) => (.error e, q) := by
  change (ExceptT.bindCont f (m.exec p).1).run (m.exec p).2 = _
  obtain ⟨r, q⟩ := m.exec p
  cases r <;> rfl

/-- What ends well has its first step end well. -/
theorem exec_bind_ok_iff (m : Render α) (f : α → Render β) (p q : Progress) (b : β) :
    (m >>= f).exec p = (.ok b, q) ↔
      ∃ a p', m.exec p = (.ok a, p') ∧ (f a).exec p' = (.ok b, q) := by
  rw [exec_bind]
  rcases m.exec p with ⟨e | a, p'⟩
  · simp
  · refine ⟨fun h => ⟨a, p', rfl, h⟩, ?_⟩
    rintro ⟨_, _, ⟨⟩, h⟩
    exact h

end Render

open Render

/-- A token that is left out is resolved all the same. -/
theorem Piece.run_unused_ok_iff (scope : Scope) (token : Value) (p q : Progress) (text : String) :
    ((Piece.unused token).run scope).exec p = (.ok text, q) ↔
      text = "" ∧ ∃ dropped, (Operand.resolve scope token false).exec p = (.ok dropped, q) := by
  rw [run, exec_bind_ok_iff]
  simp only [exec_pure, Prod.mk.injEq, Except.ok.injEq]
  constructor
  · rintro ⟨dropped, p', hresolve, rfl, rfl⟩
    exact ⟨rfl, dropped, hresolve⟩
  · rintro ⟨rfl, dropped, hresolve⟩
    exact ⟨dropped, q, hresolve, rfl, rfl⟩

theorem Piece.run_unused_error_iff (scope : Scope) (token : Value) (p q : Progress) (e : Error) :
    ((Piece.unused token).run scope).exec p = (.error e, q) ↔
      (Operand.resolve scope token false).exec p = (.error e, q) := by
  rw [run, exec_bind]
  rcases (Operand.resolve scope token false).exec p with ⟨fault | dropped, q'⟩ <;> simp

/-- A layout is written by its first piece and then by the rest. -/
theorem Layout.run_cons_ok_iff (scope : Scope) (piece : Piece) (rest : Layout) (p q : Progress)
    (text : String) :
    (Layout.run scope (piece :: rest)).exec p = (.ok text, q) ↔
      ∃ first p' others, (piece.run scope).exec p = (.ok first, p') ∧
        (Layout.run scope rest).exec p' = (.ok others, q) ∧ text = first ++ others := by
  rw [run_cons, exec_bind_ok_iff]
  simp only [exec_bind_ok_iff, exec_pure, Prod.mk.injEq, Except.ok.injEq]
  constructor
  · rintro ⟨first, p', hpiece, others, q', hrest, rfl, rfl⟩
    exact ⟨first, p', others, hpiece, hrest, rfl⟩
  · rintro ⟨first, p', others, hpiece, hrest, rfl⟩
    exact ⟨first, p', hpiece, others, q, hrest, rfl, rfl⟩

/-- A layout fails on the first piece that does. -/
theorem Layout.run_error_iff (scope : Scope) (l : Layout) (p : Progress) (e : Error) :
    ((l.run scope).exec p).1 = .error e ↔ ∃ front piece back text q,
      l = front ++ piece :: back ∧ (Layout.run scope front).exec p = (.ok text, q) ∧
      ((piece.run scope).exec q).1 = .error e := by
  constructor
  · intro h
    induction l generalizing p with
    | nil => cases h
    | cons piece rest ih =>
      rw [run_cons, Render.exec_bind] at h
      rcases hfirst : (piece.run scope).exec p with ⟨fault | first, q⟩
      · simp only [hfirst] at h
        exact ⟨[], piece, rest, "", p, rfl, rfl, by rw [hfirst]; exact h⟩
      · simp only [hfirst, Render.exec_bind] at h
        have hrest : ((Layout.run scope rest).exec q).1 = .error e := by
          rcases hothers : (Layout.run scope rest).exec q with ⟨fault | others, q'⟩
          · simpa only [hothers] using h
          · simp only [hothers, Render.exec_pure, reduceCtorEq] at h
        obtain ⟨front, piece', back, text, q', rfl, hfront, hpiece⟩ := ih q hrest
        refine ⟨piece :: front, piece', back, first ++ text, q', rfl, ?_, hpiece⟩
        simp only [run_cons, Render.exec_bind, hfirst, hfront, Render.exec_pure]
  · rintro ⟨front, piece, back, text, q, rfl, hfront, hpiece⟩
    rw [run_append, Render.exec_bind, hfront]
    simp only [run_cons, Render.exec_bind]
    rcases hfirst : (piece.run scope).exec q with ⟨fault | first, q'⟩
    · rw [hfirst] at hpiece
      exact hpiece
    · rw [hfirst] at hpiece
      cases hpiece

namespace Draft

/-- The text of a build or why there is none, with the cursor where the build ends. -/
def run (d : Draft) (operators : OperatorTable) : Except Error String × Progress :=
  (d.render operators).exec .start

theorem build_eq_run (d : Draft) (operators : OperatorTable) :
    d.build operators = ((d.run operators).1, (d.run operators).2.notices) := rfl

/-- Adds what is noted at the end of a build that succeeds. -/
def finish (d : Draft) : Except Error String × Progress → Except Error String × Progress
  | (.ok text, p) =>
    (.ok text, { p with notices := p.notices ++ match d.statement with
      | none => []
      | some s => [.built s.kind.name p.cursor] })
  | (.error e, p) => (.error e, p)

@[simp] theorem finish_fst (d : Draft) (r : Except Error String × Progress) :
    (d.finish r).1 = r.1 := by
  obtain ⟨_ | _, p⟩ := r <;> rfl

@[simp] theorem finish_cursor (d : Draft) (r : Except Error String × Progress) :
    (d.finish r).2.cursor = r.2.cursor := by
  obtain ⟨_ | _, p⟩ := r <;> rfl

/-- A build has the result and the cursor of its layout. -/
theorem run_eq (d : Draft) (operators : OperatorTable) :
    d.run operators = d.finish (((d.layout operators).run d.scope).exec .start) := by
  rw [run, render_eq_run, exec_bind]
  obtain ⟨_ | text, p⟩ := ((d.layout operators).run d.scope).exec .start
  · rfl
  · unfold noteBuilt finish
    cases d.statement with
    | none => simp
    | some s => rfl

theorem build_fst (d : Draft) (operators : OperatorTable) :
    (d.build operators).1 = (((d.layout operators).run d.scope).exec .start).1 := by
  rw [build_eq_run, run_eq, finish_fst]

end Draft

namespace Token

theorem ofValue_eq_positional_iff (v : Value) : ofValue v = positional ↔ v = .text "?" := by
  constructor
  · intro h
    cases v with
    | text s =>
      simp only [ofValue, ofText] at h
      split at h
      · next hs => rw [hs]
      · split at h <;> cases h
    | _ => simp only [ofValue, reduceCtorEq] at h
  · rintro rfl
    rfl

end Token

namespace Operand

/-- The text of a value, or that the value cannot be written. -/
def written {α : Type} (v : Value) (a : α) : Except Error α :=
  if v.isWritable then .ok a else .error (.numeral .unwritable)

theorem written_ok_iff {α : Type} {v : Value} {a b : α} :
    written v a = .ok b ↔ v.isWritable = true ∧ a = b := by
  unfold written
  split <;> simp_all

theorem written_error_iff {α : Type} {v : Value} {a : α} {e : Error} :
    written v a = .error e ↔ v.isWritable = false ∧ e = .numeral .unwritable := by
  unfold written
  cases v.isWritable
  · simp [eq_comm]
  · simp

theorem exec_demand (v : Value) (p : Progress) : (demand v).exec p = (written v (), p) := by
  cases h : v.isWritable with
  | true => simp [demand_of_isWritable h, written, h]
  | false => simp [demand_of_not_isWritable h, written, h]

theorem exec_demand_bind {α : Type} (v : Value) (a : α) (p : Progress) :
    (demand v >>= fun _ => (pure a : Render α)).exec p = (written v a, p) := by
  rw [exec_bind, exec_demand]
  unfold written
  cases v.isWritable <;> rfl

theorem exec_renderLiteral (v : Value) (force : Bool) (p : Progress) :
    (renderLiteral v force).exec p = (written (content v) (literal v force), p) :=
  exec_demand_bind (content v) _ p

variable (scope : Scope)

theorem exec_renderIdentifier (v : Value) (force : Bool) (p : Progress) :
    (renderIdentifier scope v force).exec p = (written v (identifier scope v force), p) :=
  exec_demand_bind v _ p

/-- What a token other than a positional placeholder stands for. -/
def lookup (token : Value) (force : Bool) : Except Error String :=
  match Token.ofValue token with
  | .named name =>
    match namedValue? scope.params name with
    | .ok (some v) => written (content v) (literal v force)
    | .ok none => .ok (identifier scope token force)
    | .error fault => .error (.numeral fault)
  | .string => written token (identifier scope token force)
  | _ => written (content token) (literal token force)

theorem lookup_named {token : Value} {name : String} (htoken : Token.ofValue token = .named name)
    (force : Bool) : lookup scope token force = match namedValue? scope.params name with
      | .ok (some v) => written (content v) (literal v force)
      | .ok none => .ok (identifier scope token force)
      | .error fault => .error (.numeral fault) := by
  unfold lookup
  rw [htoken]

/-- A token that stands for nothing holds a numeral that cannot be read or written. -/
theorem lookup_error {token : Value} {force : Bool} {e : Error}
    (h : lookup scope token force = .error e) : ∃ fault, e = .numeral fault := by
  unfold lookup at h
  split at h
  · split at h
    · exact ⟨_, (written_error_iff.mp h).2⟩
    · cases h
    · cases h
      exact ⟨_, rfl⟩
  · exact ⟨_, (written_error_iff.mp h).2⟩
  · exact ⟨_, (written_error_iff.mp h).2⟩

/-- Any token but a positional placeholder has the same text wherever it stands. -/
theorem exec_resolve_of_ne {token : Value} (h : token ≠ .text "?") (force : Bool)
    (p : Progress) : (resolve scope token force).exec p = (lookup scope token force, p) := by
  have hne : Token.ofValue token ≠ .positional :=
    fun heq => h ((Token.ofValue_eq_positional_iff token).mp heq)
  unfold resolve lookup
  split
  · next heq => exact absurd heq hne
  · next name heq =>
    unfold named
    split <;> simp_all [exec_renderLiteral]
  · simp_all [exec_renderIdentifier]
  · simp_all [exec_renderLiteral]

theorem exec_resolve_positional (force : Bool) (p : Progress) :
    (resolve scope (.text "?") force).exec p =
      match scope.params.get? (.slot p.cursor) with
      | some v => (written (content v) (literal v force), { p with cursor := p.cursor + 1 })
      | none =>
        if scope.strict then (.error (.missingParameter p.cursor), p)
        else (.ok (identifier scope (.text "?") force),
          { p with notices := p.notices ++ [.unresolved p.cursor] }) := by
  have htoken : Token.ofValue (.text "?") = .positional := rfl
  simp only [resolve, htoken, positional, exec_bind, exec_get]
  cases scope.params.get? (.slot p.cursor) with
  | some v => simp only [exec_bind, exec_advance, exec_renderLiteral]
  | none =>
    cases hstrict : scope.strict with
    | true => rfl
    | false => rfl

end Operand

end SqlDraft
