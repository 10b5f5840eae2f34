import SqlDraft.Condition.Reading
import SqlDraft.Value.Unfolding

/-!
What unfolding does to conditions that are still to be read. A condition that is one already turns
into a mapping that is read as none, so it is lost, and one among the parts of a comparison is
replaced by a mapping. Everything else is read as it was before.
-/
namespace SqlDraft

mutual

/-- Whether a condition stands anywhere inside, apart from the keys of mappings. -/
def Value.holdsCondition : Value → Bool
  | .condition _ => true
  | .list items => Value.holdsConditionAmong items
  | .tuple items => Value.holdsConditionAmong items
  | .dict entries => Value.holdsConditionUnder entries
  | _ => false
termination_by structural v => v

def Value.holdsConditionAmong : List Value → Bool
  | [] => false
  | v :: rest => Value.holdsCondition v || Value.holdsConditionAmong rest
termination_by structural vs => vs

def Value.holdsConditionUnder : List (Value × Value) → Bool
  | [] => false
  | (_, v) :: rest => Value.holdsCondition v || Value.holdsConditionUnder rest
termination_by structural entries => entries

end

namespace Value

mutual

/-- Unfolding changes what holds a condition, and nothing else. -/
theorem unfolded_eq_iff : (v : Value) → (v.unfolded = v ↔ v.holdsCondition = false)
  | .condition c => by simp [unfolded, holdsCondition]
  | .list items => by simp [unfolded, holdsCondition, unfoldedAll_eq_iff items]
  | .tuple items => by simp [unfolded, holdsCondition, unfoldedAll_eq_iff items]
  | .dict entries => by simp [unfolded, holdsCondition, unfoldedEntries_eq_iff entries]
  | .null | .bool _ | .int _ | .float _ | .decimal _ | .text _ | .octets _ => by
    simp [unfolded, holdsCondition]
termination_by structural v => v

theorem unfoldedAll_eq_iff : (items : List Value) →
    (unfoldedAll items = items ↔ holdsConditionAmong items = false)
  | [] => ⟨fun _ => rfl, fun _ => rfl⟩
  | v :: rest => by
    simp [unfoldedAll, holdsConditionAmong, unfolded_eq_iff v, unfoldedAll_eq_iff rest]
termination_by structural vs => vs

theorem unfoldedEntries_eq_iff : (entries : List (Value × Value)) →
    (unfoldedEntries entries = entries ↔ holdsConditionUnder entries = false)
  | [] => ⟨fun _ => rfl, fun _ => rfl⟩
  | (key, v) :: rest => by
    simp [unfoldedEntries, holdsConditionUnder, unfolded_eq_iff v, unfoldedEntries_eq_iff rest]
termination_by structural entries => entries

end

end Value

namespace Condition

mutual

/-- Whether an item is read the same once it is unfolded: it is no condition, no comparison with one
among its parts, and no combination of such items. -/
def isKept : Value → Bool
  | .condition _ => false
  | .list [column, operator, value] => !Value.holdsConditionAmong [column, operator, value]
  | .tuple [column, operator, value] => !Value.holdsConditionAmong [column, operator, value]
  | .dict [(key, .list children)] => (combinator? key).isNone || allKept children
  | .dict [(key, .tuple children)] => (combinator? key).isNone || allKept children
  | _ => true
termination_by structural v => v

def allKept : List Value → Bool
  | [] => true
  | v :: rest => isKept v && allKept rest
termination_by structural vs => vs

end

/-- An item that is kept is read as it was; any other was read as a condition and no longer is, or
is read as another one. -/
inductive Unfolds (v : Value) : Prop where
  | kept (hkept : isKept v = true) (hread : (read v.unfolded).1 = (read v).1) : Unfolds v
  | lost {c : Condition} (hkept : isKept v = false) (hread : (read v).1 = some c)
      (hlost : (read v.unfolded).1 ≠ some c) : Unfolds v

/-- A comparison is read of the parts as they are. -/
theorem unfolds_comparison {v column operator value : Value}
    (hkept : isKept v = !Value.holdsConditionAmong [column, operator, value])
    (hread : (read v).1 = some (.leaf column operator (some value)))
    (hunfolded : (read v.unfolded).1 =
      some (.leaf column.unfolded operator.unfolded (some value.unfolded))) : Unfolds v := by
  have hparts : Value.unfoldedAll [column, operator, value] = [column, operator, value] ↔
      Value.holdsConditionAmong [column, operator, value] = false :=
    Value.unfoldedAll_eq_iff [column, operator, value]
  cases hholds : Value.holdsConditionAmong [column, operator, value] with
  | false =>
    rw [hholds] at hkept
    have hsame := hparts.mpr hholds
    simp only [Value.unfoldedAll, List.cons.injEq, and_true] at hsame
    refine .kept hkept ?_
    rw [hunfolded, hread, hsame.1, hsame.2.1, hsame.2.2]
  | true =>
    rw [hholds] at hkept
    refine .lost hkept hread fun heq => ?_
    rw [hunfolded] at heq
    injection heq with heq
    injection heq with hcolumn hoperator hvalue
    injection hvalue with hvalue
    have hsame : Value.unfoldedAll [column, operator, value] = [column, operator, value] := by
      simp only [Value.unfoldedAll, hcolumn, hoperator, hvalue]
    rw [hparts.mp hsame] at hholds
    cases hholds

/-- A combination is read of its children. -/
theorem unfolds_combination {v key : Value} {children : List Value}
    (hchildren : (readAll (Value.unfoldedAll children)).1 = (readAll children).1 ↔
      allKept children = true)
    (hkept : isKept v = ((combinator? key).isNone || allKept children))
    (hread : (read v).1 = (combinator? key).map fun combinator =>
      .group combinator (readAll children).1)
    (hunfolded : (read v.unfolded).1 = (combinator? key).map fun combinator =>
      .group combinator (readAll (Value.unfoldedAll children)).1) : Unfolds v := by
  cases hkey : combinator? key with
  | none =>
    rw [hkey] at hkept hread hunfolded
    exact .kept hkept (hunfolded.trans hread.symm)
  | some combinator =>
    rw [hkey] at hkept hread hunfolded
    cases hall : allKept children with
    | true =>
      rw [hall] at hkept
      refine .kept hkept ?_
      rw [hunfolded, hread, hchildren.mpr hall]
    | false =>
      rw [hall] at hkept
      refine .lost hkept hread fun heq => ?_
      rw [hunfolded] at heq
      injection heq with heq
      injection heq with _ heq
      rw [hchildren.mp heq] at hall
      cases hall

/-- Items that are lost leave fewer conditions, so the rest cannot make up for them. -/
theorem readAll_unfolded_cons {v : Value} {rest : List Value} (hv : Unfolds v)
    (hrest : (readAll (Value.unfoldedAll rest)).1.length ≤ (readAll rest).1.length ∧
      ((readAll (Value.unfoldedAll rest)).1 = (readAll rest).1 ↔ allKept rest = true)) :
    (readAll (Value.unfoldedAll (v :: rest))).1.length ≤ (readAll (v :: rest)).1.length ∧
      ((readAll (Value.unfoldedAll (v :: rest))).1 = (readAll (v :: rest)).1 ↔
        allKept (v :: rest) = true) := by
  obtain ⟨hlength, hiff⟩ := hrest
  simp only [Value.unfoldedAll, readAll, allKept, Bool.and_eq_true, ← hiff, List.length_append]
  cases hv with
  | kept hkept hread =>
    rw [hkept, hread]
    exact ⟨Nat.add_le_add_left hlength _, by simp⟩
  | @lost c hkept hread hlost =>
    rw [hkept, hread]
    cases hother : (read v.unfolded).1 with
    | none =>
      refine ⟨by simp only [Option.toList, List.length_nil, List.length_cons]; omega, ?_⟩
      refine ⟨fun heq => ?_, fun h => absurd h.1 Bool.false_ne_true⟩
      have hlengths := congrArg List.length heq
      simp only [Option.toList, List.nil_append, List.cons_append, List.length_cons] at hlengths
      omega
    | some other =>
      refine ⟨Nat.add_le_add_left hlength _, fun heq => ?_, fun h => absurd h.1 Bool.false_ne_true⟩
      simp only [Option.toList, List.cons_append, List.nil_append, List.cons.injEq] at heq
      rw [hother, heq.1] at hlost
      exact absurd rfl hlost

/-- The mapping that a condition turns into is read as none. -/
theorem read_unfolded_condition (c : Condition) : (read (Value.condition c).unfolded).1 = none := by
  cases c with
  | leaf column operator value =>
    -- Reading looks at the first value before it looks for a second one.
    cases value <;> rw [Value.unfolded, unfoldedFields] <;> cases column.unfolded <;> rfl
  | group combinator children => rfl
  | raw sql => rfl

mutual

theorem unfolds (v : Value) : Unfolds v := by
  cases v with
  | condition c =>
    have hread := read_unfolded_condition c
    exact .lost rfl rfl (by rw [hread]; nofun)
  | list items =>
    rcases items with _ | ⟨a, _ | ⟨b, _ | ⟨c, _ | ⟨d, rest⟩⟩⟩⟩
    case cons.cons.cons.nil => exact unfolds_comparison rfl rfl rfl
    all_goals exact .kept rfl rfl
  | tuple items =>
    rcases items with _ | ⟨a, _ | ⟨b, _ | ⟨c, _ | ⟨d, rest⟩⟩⟩⟩
    case cons.cons.cons.nil => exact unfolds_comparison rfl rfl rfl
    all_goals exact .kept rfl rfl
  | dict entries =>
    rcases entries with _ | ⟨⟨key, child⟩, _ | ⟨other, rest⟩⟩
    · exact .kept rfl rfl
    · cases child with
      | list children =>
        refine unfolds_combination (readAll_unfolded children).2 rfl ?_ ?_
        · rw [read]
          cases combinator? key <;> rfl
        · rw [Value.unfolded, Value.unfoldedEntries, Value.unfolded, Value.unfoldedEntries, read]
          cases combinator? key <;> rfl
      | tuple children =>
        refine unfolds_combination (readAll_unfolded children).2 rfl ?_ ?_
        · rw [read]
          cases combinator? key <;> rfl
        · rw [Value.unfolded, Value.unfoldedEntries, Value.unfolded, Value.unfoldedEntries, read]
          cases combinator? key <;> rfl
      | _ => exact .kept rfl rfl
    · cases child <;> exact .kept rfl rfl
  | _ => exact .kept rfl rfl
termination_by structural v

theorem readAll_unfolded (items : List Value) :
    (readAll (Value.unfoldedAll items)).1.length ≤ (readAll items).1.length ∧
      ((readAll (Value.unfoldedAll items)).1 = (readAll items).1 ↔ allKept items = true) := by
  cases items with
  | nil => exact ⟨Nat.le_refl _, fun _ => rfl, fun _ => rfl⟩
  | cons v rest => exact readAll_unfolded_cons (unfolds v) (readAll_unfolded rest)
termination_by structural items

end

end Condition

end SqlDraft
