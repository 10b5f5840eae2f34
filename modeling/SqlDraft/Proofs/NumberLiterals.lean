import SqlDraft.Payload
import SqlDraft.Proofs.Execution
import SqlDraft.Proofs.Number.Literals

/-!
Numbers among the operands. Whichever way a number gets to an operand, as the operand itself or
through a placeholder, it is written as it is, or between quotes; only an integer can have too many
digits for that. What is written is a numeric literal unless the number is infinite or not a number,
and then it is a name.
-/
namespace SqlDraft

open Numeral Render

/-- The number that a value is. -/
def Value.rational? : Value → Option ℚ
  | int n => some n
  | float x => x.rational?
  | decimal d => d.rational?
  | _ => none

theorem Token.ofValue_eq_number_iff (v : Value) :
    ofValue v = number ↔ (∃ n, v = .int n) ∨ (∃ x, v = .float x) ∨ ∃ d, v = .decimal d := by
  cases v with
  | text s =>
    simp only [ofValue, ofText, reduceCtorEq, exists_false, or_self, iff_false]
    intro h
    split at h
    · cases h
    · split at h <;> cases h
  | _ => simp [ofValue]

namespace Operand

/-- A token stands for a value, and where the cursor is then. -/
inductive Supplies (scope : Scope) (p : Progress) : Value → Value → Progress → Prop where
  | itself {v : Value} (h : Token.ofValue v = .number) : Supplies scope p v v p
  | positional {v : Value} (h : scope.params.get? (.slot p.cursor) = some v) :
      Supplies scope p (.text "?") v { p with cursor := p.cursor + 1 }
  | named {token v : Value} {name : String} (htoken : Token.ofValue token = .named name)
      (h : namedValue? scope.params name = .ok (some v)) : Supplies scope p token v p

theorem content_number {v : Value} (h : Token.ofValue v = .number) : content v = v := by
  cases v <;> first | rfl | cases h

theorem exec_resolve_of_supplies {scope : Scope} {p q : Progress} {token v : Value}
    (hv : Token.ofValue v = .number) (h : Supplies scope p token v q) (force : Bool) :
    (resolve scope token force).exec p = (written v (literal v force), q) := by
  have hliteral (p : Progress) : (renderLiteral v force).exec p =
      (written v (literal v force), p) := by
    rw [exec_renderLiteral, content_number hv]
  cases h with
  | itself h =>
    rw [resolve, h]
    exact hliteral p
  | positional h =>
    rw [exec_resolve_positional, h]
    dsimp only
    rw [content_number hv]
  | named htoken h =>
    rw [resolve, htoken]
    dsimp only
    rw [Operand.named, h]
    exact hliteral p

/-- Only integers can have too many digits. -/
theorem isWritable_number_iff {v : Value} (h : Token.ofValue v = .number) :
    v.isWritable = true ↔ ∀ n, v = .int n → isWritable n = true := by
  rcases (Token.ofValue_eq_number_iff v).mp h with ⟨n, rfl⟩ | ⟨x, rfl⟩ | ⟨d, rfl⟩
  · exact ⟨fun hn m hm => by cases hm; exact hn, fun hn => hn n rfl⟩
  · exact iff_of_true rfl nofun
  · exact iff_of_true rfl nofun

theorem literal_number {v : Value} (h : Token.ofValue v = .number) (force : Bool) :
    literal v force = if force then "'" ++ numberText v ++ "'" else numberText v := by
  unfold literal
  rw [h]

/-- A whole number that is no decimal is written without a fraction and an exponent. -/
theorem signed_numberText {v : Value} (hdecimal : ∀ d, v ≠ .decimal d) {n : ℤ}
    (h : v.rational? = some (n : ℚ)) : Signed (numberText v) n := by
  cases v with
  | int m =>
    have hm : m = n := by exact_mod_cast Option.some_inj.mp h
    rw [← hm]
    exact signed_toString m
  | float x =>
    have hint := (x.toInt?_eq_some_iff n).mpr h
    rw [numberText, hint]
    exact signed_toString n
  | decimal d => exact absurd rfl (hdecimal d)
  | _ => cases h

/-- A number is written as a literal if it is one, and as a name otherwise. -/
theorem rational?_eq_none_iff {v : Value} (h : Token.ofValue v = .number) :
    v.rational? = none ↔ ¬∃ q, Literal (numberText v) q := by
  rcases (Token.ofValue_eq_number_iff v).mp h with ⟨n, rfl⟩ | ⟨x, rfl⟩ | ⟨d, rfl⟩
  · have hliteral := literal_of_signed (signed_toString n)
    exact iff_of_false nofun (not_not.mpr ⟨n, hliteral⟩)
  · cases hint : x.toInt? with
    | some n =>
      have hfinite := (x.toInt?_eq_some_iff n).mp hint
      have hliteral := literal_of_signed (signed_toString n)
      rw [numberText, hint, Value.rational?, hfinite]
      exact iff_of_false nofun (not_not.mpr ⟨n, hliteral⟩)
    | none =>
      rw [numberText, hint]
      exact x.rational?_eq_none_iff
  · exact d.rational?_eq_none_iff

/-- A number is written the same through every token that stands for it, unless it is an integer
of too many digits, as a text that forced quoting only puts between quotes. This text is a numeric
literal exactly if the number is finite. The literal of an integer, a decimal or a whole double
denotes just this number, and that of an integer or a whole double has no fraction and no exponent.
-/
theorem number_literals {v : Value} (h : Token.ofValue v = .number) :
    (∀ (scope : Scope) (p q : Progress) (token : Value), Supplies scope p token v q →
      ∀ force, (resolve scope token force).exec p = (written v (literal v force), q)) ∧
    (v.isWritable = true ↔ ∀ n, v = .int n → isWritable n = true) ∧
    literal v true = "'" ++ literal v false ++ "'" ∧
    (v.rational? = none ↔ ¬∃ q, Literal (literal v false) q) ∧
    (∀ q, v.rational? = some q → (∀ x, v = .float x → ∃ n : ℤ, q = n) →
      Literal (literal v false) q) ∧
    ∀ n : ℤ, v.rational? = some (n : ℚ) → (∀ d, v ≠ .decimal d) → Signed (literal v false) n := by
  have htext : literal v false = numberText v := literal_number h false
  have hquoted : literal v true = "'" ++ numberText v ++ "'" := literal_number h true
  rw [hquoted, htext]
  refine ⟨fun scope p q token => exec_resolve_of_supplies h, isWritable_number_iff h, rfl,
    rational?_eq_none_iff h, ?_, fun n hn hdecimal => signed_numberText hdecimal hn⟩
  intro q hq hwhole
  rcases (Token.ofValue_eq_number_iff v).mp h with ⟨n, rfl⟩ | ⟨x, rfl⟩ | ⟨d, rfl⟩
  · cases hq
    exact literal_of_signed (signed_toString n)
  · obtain ⟨n, rfl⟩ := hwhole x rfl
    exact literal_of_signed (signed_numberText (by simp) hq)
  · exact Decimal.literal_render hq

/-- A whole double in a slot of the parameters, and a number of a payload too large for doubles. -/
theorem number_literals_infinite :
    let whole : Value := .float (.finite true 3 1)
    let scope : Scope := ⟨true, .empty, (Params.empty.merge (.list [whole])).1⟩
    let infinite : Value := .float (.infinite false)
    let payload : Value :=
      .text ("\x7b\"select\": \x7b\"table\": \"user\", \"columns\": [\"*\"]\x7d, " ++
        "\"where\": [[\"user.age\", \"<\", 1e400]]\x7d")
    (resolve scope (.text "?") true).exec .start = (.ok "'-6'", ⟨1, []⟩) ∧
      Literal "-6" (-6) ∧ Signed "-6" (-6) ∧
      Json.read "1e400" = .ok infinite ∧ (¬∃ q, Literal (literal infinite false) q) ∧
      (Payload.build false .standard payload).1 =
        .ok "SELECT *\nFROM `user`\nWHERE `user`.`age` < inf\n" := by
  intro whole scope infinite payload
  have hwhole : whole.rational? = some ((-6 : ℤ) : ℚ) := by
    norm_num [whole, Value.rational?, Double.rational?]
  obtain ⟨hresolve, -, -, -, hexact, hsigned⟩ := number_literals (v := whole) rfl
  have hslot : Supplies scope .start (.text "?") whole ⟨1, []⟩ := .positional rfl
  have hliteral := hexact _ hwhole fun _ _ => ⟨-6, rfl⟩
  obtain ⟨-, -, -, hname, -⟩ := number_literals (v := infinite) rfl
  refine ⟨?_, ?_, ?_, rfl, hname.mp rfl, by decide +kernel⟩
  · rw [hresolve scope .start _ _ hslot true]
    rfl
  · exact_mod_cast hliteral
  · exact hsigned (-6) hwhole (by simp [whole])

end Operand

end SqlDraft
