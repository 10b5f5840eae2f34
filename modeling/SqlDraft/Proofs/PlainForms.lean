import SqlDraft.Draft.Building
import SqlDraft.Proofs.Recognition

/-!
Conditions in plain form. Each condition has one, with its keywords in any letter case, and each of
them is read as that condition, whatever its comparisons hold. Items in plain form can therefore
stand for conditions anywhere: they are declared, written and refused alike. A plain comparison has
all its parts, so a value that was left unset is null in it.
-/
namespace SqlDraft

/-- The keyword with each of its letters in either case. -/
def Combinator.Spells (combinator : Combinator) (key : String) : Prop :=
  key.toList.map Char.toUpper = combinator.keyword.toList

namespace Condition

mutual

/-- The condition with null for each value that was left unset, to which it compares equal. -/
def filled : Condition → Condition
  | .leaf column operator value => .leaf column operator (some value)
  | .group combinator children => .group combinator (filledAll children)
  | .raw sql => .raw sql
termination_by structural c => c

def filledAll : List Condition → List Condition
  | [] => []
  | c :: rest => filled c :: filledAll rest
termination_by structural cs => cs

end

mutual

/-- Whether no value was left unset. -/
def isFilled : Condition → Bool
  | .leaf _ _ value => value.isSome
  | .group _ children => isFilledAll children
  | .raw _ => true
termination_by structural c => c

def isFilledAll : List Condition → Bool
  | [] => true
  | c :: rest => isFilled c && isFilledAll rest
termination_by structural cs => cs

end

/-- A comparison as a list of its parts, SQL as its text, and a combination as a mapping from its
keyword to the plain forms of its parts. -/
inductive PlainForm : Condition → Value → Prop where
  | leaf (column operator : Value) (value : Option Value) :
      PlainForm (.leaf column operator value) (.list [column, operator, value])
  | raw (sql : String) : PlainForm (.raw sql) (.text sql)
  | group {combinator : Combinator} {key : String} {children : List Condition}
      {items : List Value} (hkey : combinator.Spells key)
      (hitems : List.Forall₂ PlainForm children items) :
      PlainForm (.group combinator children) (.dict [(.text key, .list items)])

/-- Items are read, which may fail, and what they stand for is written. -/
def renderItems (ctx : RenderContext) (items : List Value) : Render (List String) :=
  let list := ConditionList.ofItems ctx.scope.strict items
  match list.error with
  | some e => throw e
  | none => renderAll ctx list.conditions

end Condition

namespace Text

theorem toNat_lt_of_toUpper {c : Char} (h : c.toUpper.toNat < 128) : c.toNat < 128 := by
  unfold Char.toUpper at h
  split at h
  · next hlower => exact Nat.lt_of_le_of_lt hlower.2 (by decide)
  · exact h

theorem upper_of_ascii {s : String} (h : ∀ c ∈ s.toList, c.toNat < 128) :
    upper s = String.ofList (s.toList.map Char.toUpper) := by
  have hchars : s.toList.flatMap upperChar = s.toList.flatMap fun c => [c.toUpper] :=
    List.flatMap_congr fun c hc => if_pos (h c hc)
  rw [upper, hchars, ← List.map_eq_flatMap]

end Text

theorem Combinator.upper_of_spells {combinator : Combinator} {key : String}
    (h : combinator.Spells key) : Text.upper key = combinator.keyword := by
  have hletters : ∀ letter ∈ combinator.keyword.toList, letter.toNat < 128 := by
    cases combinator <;> simp [Combinator.keyword]
  have hascii : ∀ c ∈ key.toList, c.toNat < 128 := fun c hc =>
    Text.toNat_lt_of_toUpper (hletters _ (h ▸ List.mem_map_of_mem hc))
  rw [Text.upper_of_ascii hascii, h, String.ofList_toList]

namespace Condition

mutual

theorem filled_eq_iff : (c : Condition) → (filled c = c ↔ isFilled c = true)
  | .leaf _ _ none => by simp [filled, isFilled]
  | .leaf _ _ (some _) => by simp [filled, isFilled]
  | .group _ children => by simp [filled, isFilled, filledAll_eq_iff children]
  | .raw _ => by simp [filled, isFilled]
termination_by structural c => c

theorem filledAll_eq_iff : (cs : List Condition) → (filledAll cs = cs ↔ isFilledAll cs = true)
  | [] => by simp [filledAll, isFilledAll]
  | c :: rest => by simp [filledAll, isFilledAll, filled_eq_iff c, filledAll_eq_iff rest]
termination_by structural cs => cs

end

mutual

/-- A value that was left unset is written as null. -/
theorem render_filled (ctx : RenderContext) : (c : Condition) → render ctx (filled c) = render ctx c
  | .leaf _ _ _ => rfl
  | .group _ children => by simp only [filled, render, renderAll_filledAll ctx children]
  | .raw _ => rfl
termination_by structural c => c

theorem renderAll_filledAll (ctx : RenderContext) :
    (cs : List Condition) → renderAll ctx (filledAll cs) = renderAll ctx cs
  | [] => rfl
  | c :: rest => by
    simp only [filledAll, renderAll, render_filled ctx c, renderAll_filledAll ctx rest]
termination_by structural cs => cs

end

mutual

theorem exists_plainForm : (c : Condition) → ∃ v, PlainForm c v
  | .leaf column operator value => ⟨_, .leaf column operator value⟩
  | .group combinator children => by
    obtain ⟨items, hitems⟩ := exists_plainForms children
    have hkey : combinator.Spells combinator.keyword := by cases combinator <;> rfl
    exact ⟨_, .group hkey hitems⟩
  | .raw sql => ⟨_, .raw sql⟩
termination_by structural c => c

theorem exists_plainForms : (cs : List Condition) → ∃ items, List.Forall₂ PlainForm cs items
  | [] => ⟨[], .nil⟩
  | c :: rest => by
    obtain ⟨v, hv⟩ := exists_plainForm c
    obtain ⟨items, hitems⟩ := exists_plainForms rest
    exact ⟨v :: items, .cons hv hitems⟩
termination_by structural cs => cs

end

mutual

/-- The parts of a comparison are taken as they are, also those that look like conditions. -/
theorem read_plainForm (c : Condition) : ∀ v, PlainForm c v → read v = (some c.filled, []) := by
  intro v h
  cases h with
  | leaf column operator value => rfl
  | raw sql => rfl
  | @group combinator key children items hkey hitems =>
    rw [read_combination (Combinator.upper_of_spells hkey) rfl,
      readAll_plainForms children items hitems]
    rfl
termination_by structural c

theorem readAll_plainForms (cs : List Condition) :
    ∀ items, List.Forall₂ PlainForm cs items → readAll items = (filledAll cs, []) := by
  intro items h
  cases h with
  | nil => rfl
  | @cons c v rest others hv hothers =>
    exact (readAll_cons_iff v others _).mpr
      ⟨c.filled, filledAll rest, read_plainForm c v hv, readAll_plainForms rest others hothers, rfl⟩
termination_by structural cs

end

/-- An item that is read as a condition alone stands for it in every list. -/
theorem readAll_replace {c : Condition} {v : Value} (hv : read v = (some c, []))
    (before after : List Value) :
    readAll (before ++ v :: after) = readAll (before ++ .condition c :: after) := by
  have hsame : read v = read (.condition c) := hv
  simp only [readAll_append, readAll, hsame]

end Condition

/-- A join as it is declared. -/
def Join.specOf (type table conditions : Value) : Value :=
  .dict [(.text "type", type), (.text "table", table), (.text "conditions", conditions)]

namespace Draft

/-- Declarations depend on what is read of their conditions alone. -/
theorem withConditions_congr (d : Draft) {v w : Value} (add : List Condition → Draft)
    (h : ConditionList.ofClause d.strict v = ConditionList.ofClause d.strict w) :
    d.withConditions v add = d.withConditions w add := by
  unfold withConditions
  rw [h]

theorem declareJoin_congr (d : Draft) (type table : Value) {v w : Value}
    (h : ConditionList.ofClause d.strict v = ConditionList.ofClause d.strict w) :
    d.declareJoin (Join.specOf type table v) = d.declareJoin (Join.specOf type table w) := by
  have hread (conditions : Value) :
      readJoin (Join.specOf type table conditions) = .ok (type, table, conditions) := rfl
  simp only [declareJoin, hread]
  rcases TableRef.declare d.identifiers "joins" table with ⟨ids, e | named⟩
  · rfl
  · exact withConditions_congr { d with identifiers := ids } _ h

end Draft

namespace Condition

/-- Each condition has plain forms, and each of them is read as that condition on strict and on
lenient drafts, with null for each value that was left unset. So it is written like the condition,
with the same errors and from the same parameters, and declaring it among any other items does what
declaring the condition does. -/
theorem plain_forms (c : Condition) :
    (c.filled = c ↔ c.isFilled = true) ∧ (∃ v, PlainForm c v) ∧ ∀ v, PlainForm c v →
      read v = (some c.filled, []) ∧
      (∀ strict, ConditionList.ofItems strict [v] = ⟨[c.filled], [], none⟩) ∧
      (∀ ctx, renderItems ctx [v] = renderAll ctx [c]) ∧
      ∀ (d : Draft) (before after : List Value),
        let listed (item : Value) : Value := .list (before ++ item :: after)
        d.declare (.filter (listed v)) = d.declare (.filter (listed (.condition c.filled))) ∧
        d.declare (.having (listed v)) = d.declare (.having (listed (.condition c.filled))) ∧
        ∀ type table, d.declare (.joins (Join.specOf type table (listed v))) =
          d.declare (.joins (Join.specOf type table (listed (.condition c.filled)))) := by
  refine ⟨filled_eq_iff c, exists_plainForm c, fun v h => ?_⟩
  have hread : read v = (some c.filled, []) := read_plainForm c v h
  have hitems (strict : Bool) : ConditionList.ofItems strict [v] = ⟨[c.filled], [], none⟩ := by
    simp only [ConditionList.ofItems, readAll, hread]
    cases strict <;> rfl
  have hrender (ctx : RenderContext) : renderItems ctx [v] = renderAll ctx [c] := by
    simp only [renderItems, hitems, renderAll, render_filled]
  refine ⟨hread, hitems, hrender, ?_⟩
  intro d before after listed
  have hclause : ConditionList.ofClause d.strict (listed v) =
      ConditionList.ofClause d.strict (listed (.condition c.filled)) := by
    simp only [listed, ConditionList.ofClause, listed?, Value.elements?, ConditionList.ofItems,
      readAll_replace hread]
  refine ⟨d.withConditions_congr (fun cs => { d with filter := d.filter ++ cs }) hclause,
    d.withConditions_congr (fun cs => { d with having := d.having ++ cs }) hclause, ?_⟩
  intro type table
  have hjoin := d.declareJoin_congr type table hclause
  simp only [Draft.declare, Draft.declareJoins, Join.specOf, Draft.joinSpecs?, Draft.declareEach]
    at hjoin ⊢
  rw [hjoin]

/-- Keywords in mixed letter case, a comparison with one for its value, and nothing to combine. -/
theorem plain_forms_nested :
    let value : Value := .list [.text "a", .text "=", .int 1]
    let c : Condition := .group .or [.leaf (.text "id") (.text "in") (some value),
      .group .and [], .raw "1 = 1"]
    let v : Value := .dict [(.text "oR", .list [.list [.text "id", .text "in", value],
      .dict [(.text "aNd", .list [])], .text "1 = 1"])]
    PlainForm c v ∧ read v = (some c, []) ∧ ∀ ctx, renderItems ctx [v] = renderAll ctx [c] := by
  intro value c v
  have h : PlainForm c v :=
    .group rfl (.cons (.leaf _ _ _) (.cons (.group rfl .nil) (.cons (.raw _) .nil)))
  obtain ⟨hread, -, hrender, -⟩ := (plain_forms c).2.2 v h
  exact ⟨h, hread, hrender⟩

end Condition

end SqlDraft
