import Mathlib.Order.Nat
import Mathlib.Data.Nat.Find
import SqlDraft.Proofs.Execution
import SqlDraft.Proofs.Failures
import SqlDraft.Proofs.Operands

/-!
Which parameter each positional placeholder of a build stands for. The slots are read from zero on,
so the first slot without a value, the gap, is never passed: behind `seen` placeholders the cursor
is the smaller one of `seen` and the gap. A strict build stops at the gap and a lenient one writes
the placeholders from there on as they are.
-/
namespace SqlDraft

namespace Params

/-- Slots are finitely many. -/
theorem exists_free_slot (p : Params) : ∃ n : Nat, (p.get? (.slot n)).isNone := by
  have hbound : ∀ keys : List Int, ∃ n : Nat, ∀ k ∈ keys, k < n := by
    intro keys
    induction keys with
    | nil => exact ⟨0, by simp⟩
    | cons k rest ih =>
      obtain ⟨n, hn⟩ := ih
      refine ⟨max n (k.toNat + 1), ?_⟩
      intro j hj
      rcases List.mem_cons.mp hj with rfl | hj
      · omega
      · have := hn j hj
        omega
  obtain ⟨n, hn⟩ := hbound p.slots.keys
  refine ⟨n, ?_⟩
  have hfree : (n : Int) ∉ p.slots.keys := fun hmem => Int.lt_irrefl n (hn n hmem)
  simp [get?, OrderedMap.get?_of_notMem_keys hfree]

/-- The least slot without a value. -/
def gap (p : Params) : Nat := Nat.find p.exists_free_slot

theorem get?_gap (p : Params) : p.get? (.slot p.gap) = none :=
  Option.isNone_iff_eq_none.mp (Nat.find_spec p.exists_free_slot)

theorem exists_of_lt_gap {p : Params} {n : Nat} (h : n < p.gap) :
    ∃ v, p.get? (.slot n) = some v := by
  have hsome := Nat.find_min p.exists_free_slot h
  exact Option.isSome_iff_exists.mp (by simpa [Option.isNone_iff_eq_none, Option.isSome_iff_ne_none]
    using hsome)

end Params

/-- The number of positional placeholders. -/
def positionals (l : List Operand) : Nat := l.countP fun o => Token.ofValue o.token = .positional

/-- The text an operand stands for behind `seen` positional placeholders. -/
inductive Operand.Stands (scope : Scope) (seen : Nat) : Operand → String → Prop where
  | filled {v : Value} (force : Bool) : seen < scope.params.gap →
      scope.params.get? (.slot seen) = some v →
      Stands scope seen ⟨.text "?", force⟩ (literal v force)
  | echoed (force : Bool) : scope.params.gap ≤ seen →
      Stands scope seen ⟨.text "?", force⟩ (identifier scope (.text "?") force)
  | other {token : Value} {force : Bool} {text : String} : token ≠ .text "?" →
      lookup scope token force = .ok text → Stands scope seen ⟨token, force⟩ text

/-- Texts that operands stand for, one for each. -/
inductive Resolved (scope : Scope) : Nat → List Operand → List String → Prop where
  | nil (seen : Nat) : Resolved scope seen [] []
  | cons {seen : Nat} {o : Operand} {text : String} {rest : List Operand} {texts : List String} :
      o.Stands scope seen text → Resolved scope (seen + positionals [o]) rest texts →
      Resolved scope seen (o :: rest) (text :: texts)

/-- Writes pieces with given texts for the operands, those left out included. -/
def Piece.fill (scope : Scope) : Piece → List String → String
  | sql text, _ => text
  | data text, _ => Text.escape text
  | name column, _ => Operand.identifier scope column true
  | operand _ _, texts => texts.headD ""
  | _, _ => ""

def Layout.fill (scope : Scope) : Layout → List String → String
  | [], _ => ""
  | piece :: rest, texts =>
    piece.fill scope texts ++ fill scope rest (texts.drop piece.operands.length)

theorem positionals_append (l m : List Operand) :
    positionals (l ++ m) = positionals l + positionals m :=
  List.countP_append

namespace Resolved

variable {scope : Scope} {seen : Nat} {l m : List Operand} {texts others : List String}

theorem length_eq (h : Resolved scope seen l texts) : texts.length = l.length := by
  induction h with
  | nil => rfl
  | cons _ _ ih => simp only [List.length_cons, ih]

theorem append (h : Resolved scope seen l texts)
    (hm : Resolved scope (seen + positionals l) m others) :
    Resolved scope seen (l ++ m) (texts ++ others) := by
  induction h with
  | nil => simpa [positionals] using hm
  | @cons seen o text rest texts hstands hrest ih =>
    have hcount : positionals (o :: rest) = positionals [o] + positionals rest :=
      positionals_append [o] rest
    refine cons hstands (ih ?_)
    rwa [hcount, ← Nat.add_assoc] at hm

/-- The text of one operand, behind the positional placeholders before it. -/
theorem stands_at (h : Resolved scope seen l texts) {i : Nat} {o : Operand}
    (ho : l[i]? = some o) :
    ∃ text, texts[i]? = some text ∧ o.Stands scope (seen + positionals (l.take i)) text := by
  induction h generalizing i with
  | nil => simp at ho
  | @cons seen first text rest texts hstands hrest ih =>
    cases i with
    | zero =>
      have hfirst : first = o := by simpa using ho
      exact ⟨text, rfl, by simpa [positionals, ← hfirst] using hstands⟩
    | succ i =>
      obtain ⟨other, hother, hstands⟩ := ih ho
      have hcount : positionals (first :: rest.take i) =
          positionals [first] + positionals (rest.take i) :=
        positionals_append [first] (rest.take i)
      refine ⟨other, hother, ?_⟩
      rwa [List.take_succ_cons, hcount, ← Nat.add_assoc]

end Resolved

/-- Where the cursor is behind `seen` positional placeholders; a strict build is never behind
more of them than there are slots before the gap. -/
structure Scope.Counted (scope : Scope) (seen : Nat) (p : Progress) : Prop where
  cursor : p.cursor = min seen scope.params.gap
  strict : scope.strict = true → seen ≤ scope.params.gap

namespace Operand

variable {scope : Scope} {seen : Nat} {p q : Progress}

/-- One operand moves the cursor by one at most, and only below the gap. -/
theorem resolve_ok {token : Value} {force : Bool} {text : String}
    (hp : scope.Counted seen p)
    (h : (resolve scope token force).exec p = (.ok text, q)) :
    Stands scope seen ⟨token, force⟩ text ∧
      scope.Counted (seen + positionals [⟨token, force⟩]) q := by
  by_cases htoken : token = .text "?"
  · subst htoken
    have hone : positionals [⟨.text "?", force⟩] = 1 := rfl
    rw [exec_resolve_positional, hp.cursor] at h
    rw [hone]
    by_cases hseen : seen < scope.params.gap
    · obtain ⟨v, hv⟩ := Params.exists_of_lt_gap hseen
      simp only [Nat.min_eq_left (Nat.le_of_lt hseen), hv, Prod.mk.injEq, written_ok_iff] at h
      obtain ⟨⟨-, rfl⟩, rfl⟩ := h
      exact ⟨.filled force hseen hv, by simp only; omega, fun _ => hseen⟩
    · have hgap : scope.params.gap ≤ seen := Nat.le_of_not_lt hseen
      rw [Nat.min_eq_right hgap, scope.params.get?_gap] at h
      cases hstrict : scope.strict with
      | true => simp [hstrict] at h
      | false =>
        simp only [hstrict, Bool.false_eq_true, if_false, Prod.mk.injEq, Except.ok.injEq] at h
        obtain ⟨rfl, rfl⟩ := h
        refine ⟨.echoed force hgap, ?_, by simp [hstrict]⟩
        have := hp.cursor
        simp only
        omega
  · have hnone : positionals [⟨token, force⟩] = 0 := by
      simp [positionals, Token.ofValue_eq_positional_iff, htoken]
    simp only [exec_resolve_of_ne scope htoken, Prod.mk.injEq] at h
    obtain ⟨htext, rfl⟩ := h
    exact ⟨.other htoken htext, by simpa [hnone] using hp⟩

/-- Only a strict build lacks a parameter, and the one it lacks is at the gap. -/
theorem resolve_missing {token : Value} {force : Bool} {n : Nat} (hp : scope.Counted seen p)
    (h : (resolve scope token force).exec p = (.error (.missingParameter n), q)) :
    scope.strict = true ∧ n = scope.params.gap ∧ q.cursor = scope.params.gap ∧
      scope.params.gap < seen + positionals [⟨token, force⟩] := by
  by_cases htoken : token = .text "?"
  · subst htoken
    have hone : positionals [⟨.text "?", force⟩] = 1 := rfl
    have hcursor := hp.cursor
    rw [exec_resolve_positional] at h
    by_cases hseen : seen < scope.params.gap
    · obtain ⟨v, hv⟩ := Params.exists_of_lt_gap hseen
      rw [hcursor, Nat.min_eq_left (Nat.le_of_lt hseen), hv] at h
      simp [written_error_iff] at h
    · have hgap : scope.params.gap ≤ seen := Nat.le_of_not_lt hseen
      rw [Nat.min_eq_right hgap] at hcursor
      rw [hcursor, scope.params.get?_gap] at h
      cases hstrict : scope.strict with
      | false => simp [hstrict] at h
      | true =>
        simp only [hstrict, if_true, Prod.mk.injEq, Except.error.injEq,
          Error.missingParameter.injEq] at h
        obtain ⟨rfl, rfl⟩ := h
        exact ⟨rfl, rfl, hcursor, by omega⟩
  · simp only [exec_resolve_of_ne scope htoken, Prod.mk.injEq] at h
    obtain ⟨fault, heq⟩ := lookup_error scope h.1
    cases heq

end Operand

namespace Piece

variable {scope : Scope} {seen : Nat} {p q : Progress}

theorem run_ok {piece : Piece} {text : String} (hp : scope.Counted seen p)
    (h : (piece.run scope).exec p = (.ok text, q)) :
    ∃ texts, Resolved scope seen piece.operands texts ∧
      (∀ others, text = piece.fill scope (texts ++ others)) ∧
      scope.Counted (seen + positionals piece.operands) q := by
  have hquiet {written : String} (hnone : piece.operands = [])
      (hfill : ∀ texts, piece.fill scope texts = written)
      (htext : text = written) (hcursor : q.cursor = p.cursor) :
      ∃ texts, Resolved scope seen piece.operands texts ∧
        (∀ others, text = piece.fill scope (texts ++ others)) ∧
        scope.Counted (seen + positionals piece.operands) q := by
    rw [hnone, positionals, List.countP_nil, Nat.add_zero]
    exact ⟨[], .nil seen, fun others => by rw [hfill, htext], hcursor.trans hp.cursor, hp.strict⟩
  cases piece with
  | sql written => cases h; exact hquiet rfl (fun _ => rfl) rfl rfl
  | data content => cases h; exact hquiet rfl (fun _ => rfl) rfl rfl
  | writable v =>
    rw [run, Operand.exec_demand_bind, Prod.mk.injEq, Operand.written_ok_iff] at h
    obtain ⟨⟨-, rfl⟩, rfl⟩ := h
    exact hquiet rfl (fun _ => rfl) rfl rfl
  | name column => cases h; exact hquiet rfl (fun _ => rfl) rfl rfl
  | operand token force =>
    obtain ⟨hstands, hq⟩ := Operand.resolve_ok hp h
    exact ⟨[text], .cons hstands (.nil _), fun _ => rfl, hq⟩
  | unused token =>
    obtain ⟨rfl, dropped, hresolve⟩ := (run_unused_ok_iff scope token p q text).mp h
    obtain ⟨hstands, hq⟩ := Operand.resolve_ok hp hresolve
    exact ⟨[dropped], .cons hstands (.nil _), fun _ => rfl, hq⟩
  | malformed column operator value =>
    cases hstrict : scope.strict with
    | true => simp [run, hstrict] at h
    | false =>
      simp only [run, hstrict, Bool.false_eq_true, if_false, Render.exec_bind, Render.exec_note,
        Render.exec_pure, Prod.mk.injEq, Except.ok.injEq] at h
      obtain ⟨rfl, rfl⟩ := h
      exact hquiet rfl (fun _ => rfl) rfl rfl
  | failure e => simp [run] at h

theorem run_missing {piece : Piece} {n : Nat} (hp : scope.Counted seen p)
    (hfailure : .missingParameter n ∉ piece.failures)
    (h : (piece.run scope).exec p = (.error (.missingParameter n), q)) :
    scope.strict = true ∧ n = scope.params.gap ∧ q.cursor = scope.params.gap ∧
      scope.params.gap < seen + positionals piece.operands := by
  cases piece with
  | writable v =>
    rw [run, Operand.exec_demand_bind, Prod.mk.injEq, Operand.written_error_iff] at h
    cases h.1.2
  | operand token force => exact Operand.resolve_missing hp h
  | unused token =>
    exact Operand.resolve_missing hp ((run_unused_error_iff scope token p q _).mp h)
  | malformed column operator value =>
    cases hstrict : scope.strict with
    | true =>
      simp only [run, hstrict, if_true, Render.exec_throw, Prod.mk.injEq, Except.error.injEq] at h
      cases Error.eq_of_raised h.1 nofun
    | false => simp only [run, hstrict, Bool.false_eq_true, if_false, Render.exec_bind,
        Render.exec_note, Render.exec_pure, Prod.mk.injEq, reduceCtorEq, false_and] at h
  | failure e =>
    simp only [run, Render.exec_throw, Prod.mk.injEq, Except.error.injEq] at h
    exact absurd (by simp [failures, h.1]) hfailure
  | _ => cases h

end Piece

namespace Layout

variable {scope : Scope} {seen : Nat} {p q : Progress}

/-- A run that succeeds writes its layout with the texts that its operands stand for. -/
theorem run_ok {l : Layout} {text : String} (hp : scope.Counted seen p)
    (h : (l.run scope).exec p = (.ok text, q)) :
    ∃ texts, Resolved scope seen l.operands texts ∧ text = l.fill scope texts ∧
      scope.Counted (seen + positionals l.operands) q := by
  induction l generalizing seen p text with
  | nil =>
    cases h
    exact ⟨[], .nil seen, rfl, hp⟩
  | cons piece rest ih =>
    obtain ⟨first, p', others, hpiece, hrest, rfl⟩ :=
      (run_cons_ok_iff scope piece rest p q text).mp h
    obtain ⟨texts, hresolved, hfirst, hp'⟩ := Piece.run_ok hp hpiece
    obtain ⟨otherTexts, hothers, hfill, hq⟩ := ih hp' hrest
    refine ⟨texts ++ otherTexts, hresolved.append hothers, ?_, ?_⟩
    · rw [fill, ← hresolved.length_eq, List.drop_left, ← hfirst otherTexts, ← hfill]
    · rwa [operands_cons, positionals_append, ← Nat.add_assoc]

theorem run_missing {l : Layout} {n : Nat} (hp : scope.Counted seen p)
    (hfailures : .missingParameter n ∉ l.failures)
    (h : (l.run scope).exec p = (.error (.missingParameter n), q)) :
    scope.strict = true ∧ n = scope.params.gap ∧ q.cursor = scope.params.gap ∧
      scope.params.gap < seen + positionals l.operands := by
  induction l generalizing seen p with
  | nil => cases h
  | cons piece rest ih =>
    rw [failures_cons, List.mem_append, not_or] at hfailures
    rw [operands_cons, positionals_append]
    rw [run_cons, Render.exec_bind] at h
    rcases hpiece : (piece.run scope).exec p with ⟨e | first, p'⟩
    · simp only [hpiece, Prod.mk.injEq, Except.error.injEq] at h
      obtain ⟨rfl, rfl⟩ := h
      obtain ⟨hstrict, hn, hcursor, hseen⟩ := Piece.run_missing hp hfailures.1 hpiece
      exact ⟨hstrict, hn, hcursor, by omega⟩
    · simp only [hpiece, Render.exec_bind] at h
      rcases hrest : (run scope rest).exec p' with ⟨e | others, q'⟩
      · simp only [hrest, Prod.mk.injEq, Except.error.injEq] at h
        obtain ⟨rfl, rfl⟩ := h
        obtain ⟨_, _, _, hp'⟩ := Piece.run_ok hp hpiece
        obtain ⟨hstrict, hn, hcursor, hseen⟩ := ih hp' hfailures.2 hrest
        exact ⟨hstrict, hn, hcursor, by omega⟩
      · simp [hrest] at h

end Layout

/-- A successful build is its layout with the texts that its operands stand for. -/
theorem Draft.build_ok {d : Draft} {operators : OperatorTable} {sql : String}
    (hbuilt : (d.build operators).1 = .ok sql) :
    ∃ texts, Resolved d.scope 0 (d.layout operators).operands texts ∧
      sql = (d.layout operators).fill d.scope texts := by
  have hstart : d.scope.Counted 0 .start := ⟨(Nat.zero_min _).symm, fun _ => Nat.zero_le _⟩
  rw [build_eq_run, run_eq, finish_fst] at hbuilt
  obtain ⟨texts, hresolved, hfill, -⟩ := Layout.run_ok hstart (Prod.ext hbuilt rfl)
  exact ⟨texts, hresolved, hfill⟩

/-- A build that succeeds gives each placeholder the slot of its number, up to the gap. A build
that lacks a parameter is strict, and lacks the one at the gap. -/
theorem Draft.positional_accounting (d : Draft) (operators : OperatorTable) :
    (∀ text, (d.run operators).1 = .ok text →
      (∃ texts, text = (d.layout operators).fill d.scope texts ∧
        texts.length = (d.operands operators).length ∧
        ∀ (i : Nat) (o : Operand), (d.operands operators)[i]? = some o →
          ∃ written, texts[i]? = some written ∧
            o.Stands d.scope (positionals ((d.operands operators).take i)) written) ∧
      (d.run operators).2.cursor = min (positionals (d.operands operators)) d.params.gap ∧
      (d.strict = true → positionals (d.operands operators) ≤ d.params.gap)) ∧
    (∀ position, (d.run operators).1 = .error (.missingParameter position) →
      d.strict = true ∧ position = d.params.gap ∧ (d.run operators).2.cursor = d.params.gap ∧
        d.params.gap < positionals (d.operands operators)) := by
  have hstart : d.scope.Counted 0 .start := ⟨(Nat.zero_min _).symm, fun _ => Nat.zero_le _⟩
  rw [d.run_eq operators, finish_fst, finish_cursor]
  rcases hrun : ((d.layout operators).run d.scope).exec .start with ⟨e | written, q⟩
  · have hfailures (n : Nat) : .missingParameter n ∉ (d.layout operators).failures := by
      rw [d.failures_layout]
      intro hmem
      rcases failures_kinds hmem with h | ⟨_, _, h⟩ | ⟨_, _, h⟩
      · cases h
      · cases Error.eq_of_raised h.symm nofun
      · cases h
    refine ⟨fun text h => by simp at h, ?_⟩
    rintro position ⟨⟩
    have hmissing := Layout.run_missing hstart (hfailures position) hrun
    rwa [Nat.zero_add, d.operands_layout] at hmissing
  · refine ⟨?_, fun position h => by simp at h⟩
    rintro text ⟨⟩
    obtain ⟨texts, hresolved, hfill, hq⟩ := Layout.run_ok hstart hrun
    rw [d.operands_layout] at hresolved hq
    rw [Nat.zero_add] at hq
    refine ⟨⟨texts, hfill, hresolved.length_eq, ?_⟩, hq.cursor, hq.strict⟩
    intro i o ho
    simpa only [Nat.zero_add] using hresolved.stands_at ho

end SqlDraft
