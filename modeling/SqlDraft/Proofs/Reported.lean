import SqlDraft.Proofs.Naming
import SqlDraft.Proofs.Numerals
import SqlDraft.Proofs.Residue

/-!
Errors that callers get a report of, and declarations that fail without one. These are joins whose
conditions have no items, limits whose numeral cannot be read or written, keys that are no address,
tables with a name that cannot be written, and conditions that are refused but cannot be shown; a
value that is not listed where it has to be makes some more.
-/
namespace SqlDraft

theorem bind_eq_error {ε α β : Type} {c : Except ε α} {f : α → Except ε β} {e : ε}
    (h : (c >>= f) = .error e) : c = .error e ∨ ∃ a, c = .ok a ∧ f a = .error e := by
  cases c with
  | error fault =>
    cases h
    exact Or.inl rfl
  | ok a => exact Or.inr ⟨a, rfl, h⟩

/-- Whether callers are told of the error in a report. -/
def Error.Reported (e : Error) : Prop := e.report?.isSome

theorem Error.not_reported_numeral (fault : NumeralFault) : ¬(numeral fault).Reported :=
  Bool.false_ne_true

theorem Error.not_reported_notIterable (given : Value) : ¬(notIterable given).Reported :=
  Bool.false_ne_true

/-- An error that is reported is raised without a report only if its message cannot be written. -/
theorem Error.raised_unreported_iff {e : Error} (h : e.Reported) (e' : Error) :
    e.raised = e' ∧ ¬e'.Reported ↔
      e.shown.all Value.isWritable = false ∧ e' = .numeral .unwritable := by
  unfold raised
  cases hshown : e.shown.all Value.isWritable with
  | true =>
    simp only [if_true, Bool.true_eq_false, false_and, iff_false]
    rintro ⟨rfl, hnot⟩
    exact hnot h
  | false =>
    simp only [Bool.false_eq_true, if_false, true_and]
    constructor
    · rintro ⟨rfl, -⟩
      rfl
    · rintro rfl
      exact ⟨rfl, not_reported_numeral _⟩

namespace ConditionList

/-- Whether a strict reader refuses an item that it cannot show. -/
def Unshown (strict : Bool) (v : Value) : Prop :=
  strict ∧ ∃ items item rest, Condition.listed? v = some items ∧
    (Condition.readAll items).2 = item :: rest ∧ item.isWritable = false

theorem ofItems_unreported_iff (strict : Bool) (items : List Value) (e : Error) :
    (ofItems strict items).error = some e ∧ ¬e.Reported ↔ strict ∧ (∃ item rest,
      (Condition.readAll items).2 = item :: rest ∧ item.isWritable = false) ∧
        e = .numeral .unwritable := by
  simp only [ofItems, Condition.accept]
  cases strict with
  | false => simp
  | true =>
    cases (Condition.readAll items).2 with
    | nil => simp
    | cons item rest =>
      have hraised := Error.raised_unreported_iff (e := .unrecognisedCondition item) rfl e
      simpa [Error.shown] using hraised

/-- Conditions fail unreported if they have no items, or on an item that cannot be shown. -/
theorem ofClause_unreported_iff (strict : Bool) (v : Value) (e : Error) :
    (ofClause strict v).error = some e ∧ ¬e.Reported ↔
      Condition.listed? v = none ∧ e = .notIterable v ∨
        Unshown strict v ∧ e = .numeral .unwritable := by
  unfold ofClause Unshown
  cases hlisted : Condition.listed? v with
  | none =>
    simp only [Option.some.injEq, true_and, reduceCtorEq, false_and, exists_false, and_false,
      or_false]
    constructor
    · rintro ⟨he, -⟩
      exact he.symm
    · rintro rfl
      exact ⟨rfl, Error.not_reported_notIterable v⟩
  | some items =>
    rw [ofItems_unreported_iff]
    simp [and_assoc]

end ConditionList

theorem Fields.reported_of_read {clause : String} {payload : Value} {fields : List (String × Value)}
    {e : Error} (h : read clause payload fields = .error e) : e.Reported := by
  unfold read at h
  split at h
  · cases h
  · cases h
  · cases h
    rfl

theorem Fields.reported_of_require {f : Fields} {name : String} {e : Error}
    (h : f.require name = .error e) : e.Reported := by
  unfold require at h
  split at h
  · cases h
  · cases h
    rfl

namespace TableRef

variable {ids : Identifiers} {clause : String} {spec : Value}

theorem declare_unreported_iff {e : Error} :
    (declare ids clause spec).2 = .error e ∧ ¬e.Reported ↔
      isWritable spec = false ∧ e = .numeral .unwritable := by
  rcases declare_outcome ids clause spec with ⟨rfl, hfailed⟩ | ⟨hnot, hfailed⟩ | ⟨_, hall, t, hok⟩
  · simp only [hfailed, Except.error.injEq]
    constructor
    · rintro ⟨rfl, hnot⟩
      exact absurd rfl hnot
    · rintro ⟨hnot, -⟩
      cases hnot
  · simp only [hfailed, hnot, Except.error.injEq, true_and]
    constructor
    · rintro ⟨he, -⟩
      exact he.symm
    · rintro rfl
      exact ⟨rfl, Error.not_reported_numeral _⟩
  · simp [hok, hall]

end TableRef

theorem Head.reported_of_read {kind : StatementKind} {payload : Value}
    {fields : List (String × Value)} {e : Error} (h : read kind payload fields = .error e) :
    e.Reported := by
  rcases bind_eq_error h with hfields | ⟨f, -, h⟩
  · exact Fields.reported_of_read hfields
  rcases bind_eq_error h with htable | ⟨table, -, h⟩
  · exact Fields.reported_of_require htable
  dsimp only at h
  split at h
  · cases h
  · rcases bind_eq_error h with hcolumns | ⟨columns, -, h⟩
    · exact Fields.reported_of_require hcolumns
    · cases h

theorem Head.reported_of_assignments {clause : String} {columns : Value} {e : Error}
    (h : assignments clause columns = .error e) : e.Reported := by
  unfold assignments at h
  split at h
  · cases h
  · cases h
    rfl

namespace Draft

theorem reported_of_readJoin {spec : Value} {e : Error} (h : readJoin spec = .error e) :
    e.Reported := by
  rcases bind_eq_error h with hfields | ⟨f, -, h⟩
  · exact Fields.reported_of_read hfields
  rcases bind_eq_error h with htype | ⟨type, -, h⟩
  · exact Fields.reported_of_require htype
  rcases bind_eq_error h with htable | ⟨table, -, h⟩
  · exact Fields.reported_of_require htable
  rcases bind_eq_error h with hconditions | ⟨conditions, -, h⟩
  · exact Fields.reported_of_require hconditions
  · cases h

/-- A statement fails unreported on a table with a part that cannot be written. -/
theorem declareStatement_unreported_iff (d : Draft) (kind : StatementKind) (payload : Value)
    (fields : List (String × Value)) (e : Error) :
    (d.declareStatement kind payload fields).error = some e ∧ ¬e.Reported ↔
      ∃ head, Head.read kind payload fields = .ok head ∧ TableRef.isWritable head.table = false ∧
        e = .numeral .unwritable := by
  rcases declareStatement_cases d kind payload fields with ⟨fault, hhead, hrefused⟩ |
    ⟨head, ids, hhead, htable⟩
  · have hreported := Head.reported_of_read hhead
    simp only [hrefused, refuse, Option.some.injEq, hhead, reduceCtorEq, false_and, exists_false,
      iff_false]
    rintro ⟨rfl, hnot⟩
    exact hnot hreported
  simp only [hhead, Except.ok.injEq, exists_eq_left']
  have hdeclared := @TableRef.declare_unreported_iff d.identifiers kind.name head.table e
  rcases htable with ⟨fault, htable, hrefused⟩ |
    ⟨t, htable, ⟨fault, hcolumns, -, hrefused⟩ | ⟨s, -, -, hdone⟩⟩
  · rw [← hdeclared, htable, hrefused]
    simp [refuse]
  · -- The table is there, and what is wrong with the columns is reported.
    have hreported := Head.reported_of_assignments hcolumns
    rw [← hdeclared, htable, hrefused]
    simp only [refuse, Option.some.injEq, reduceCtorEq, false_and, iff_false]
    rintro ⟨rfl, hnot⟩
    exact hnot hreported
  · rw [← hdeclared, htable, hdone]
    simp [done]

theorem withConditions_unreported_iff (d : Draft) (v : Value) (add : List Condition → Draft)
    (e : Error) : (d.withConditions v add).error = some e ∧ ¬e.Reported ↔
      Condition.listed? v = none ∧ e = .notIterable v ∨
        ConditionList.Unshown d.strict v ∧ e = .numeral .unwritable := by
  have herror : (d.withConditions v add).error = (ConditionList.ofClause d.strict v).error := by
    simp only [withConditions]
    cases herror : (ConditionList.ofClause d.strict v).error <;> rfl
  rw [herror]
  exact ConditionList.ofClause_unreported_iff d.strict v e

/-- How a join fails unreported: on its table, or on its conditions once that is named. -/
inductive JoinUnreported (strict : Bool) (table conditions : Value) : Error → Prop where
  | table (h : TableRef.isWritable table = false) :
      JoinUnreported strict table conditions (.numeral .unwritable)
  | noItems (hne : table ≠ .dict []) (htable : TableRef.isWritable table)
      (h : Condition.listed? conditions = none) :
      JoinUnreported strict table conditions (.notIterable conditions)
  | item (hne : table ≠ .dict []) (htable : TableRef.isWritable table)
      (h : ConditionList.Unshown strict conditions) :
      JoinUnreported strict table conditions (.numeral .unwritable)

theorem declareJoin_unreported_iff (d : Draft) (spec : Value) (e : Error) :
    (d.declareJoin spec).error = some e ∧ ¬e.Reported ↔
      ∃ type table conditions, readJoin spec = .ok (type, table, conditions) ∧
        JoinUnreported d.strict table conditions e := by
  rcases declareJoin_cases d spec with ⟨fault, hspec, hjoin⟩ |
    ⟨type, table, conditions, ids, hspec, hjoin⟩
  · have hreported := reported_of_readJoin hspec
    simp only [hjoin, refuse, Option.some.injEq, hspec, reduceCtorEq, false_and, exists_false,
      iff_false]
    rintro ⟨rfl, hnot⟩
    exact hnot hreported
  have hfields : (∃ type' table' conditions',
      readJoin spec = .ok (type', table', conditions') ∧
        JoinUnreported d.strict table' conditions' e) ↔
      JoinUnreported d.strict table conditions e := by
    simp [hspec]
  rw [hfields]
  rcases hjoin with ⟨fault, htable, hjoin⟩ | ⟨t, htable, hjoin⟩
  · have hdeclared := @TableRef.declare_unreported_iff d.identifiers "joins" table e
    have hnone : ¬(table ≠ .dict [] ∧ TableRef.isWritable table) := by
      rw [← TableRef.declare_ok_iff d.identifiers "joins", htable]
      simp
    rw [htable] at hdeclared
    simp only [hjoin, refuse, Option.some.injEq]
    constructor
    · rintro ⟨rfl, hnot⟩
      obtain ⟨hunwritable, rfl⟩ := hdeclared.mp ⟨rfl, hnot⟩
      exact .table hunwritable
    · intro h
      cases h with
      | table hunwritable => simpa using hdeclared.mpr ⟨hunwritable, rfl⟩
      | noItems hne hall => exact absurd ⟨hne, hall⟩ hnone
      | item hne hall => exact absurd ⟨hne, hall⟩ hnone
  · have hsome : table ≠ .dict [] ∧ TableRef.isWritable table := by
      rw [← TableRef.declare_ok_iff d.identifiers "joins", htable]
      exact ⟨t, rfl⟩
    rw [hjoin, withConditions_unreported_iff]
    constructor
    · rintro (⟨hlisted, rfl⟩ | ⟨hitem, rfl⟩)
      · exact .noItems hsome.1 hsome.2 hlisted
      · exact .item hsome.1 hsome.2 hitem
    · intro h
      cases h with
      | table hunwritable => simp [hsome.2] at hunwritable
      | noItems _ _ hlisted => exact Or.inl ⟨hlisted, rfl⟩
      | item _ _ hitem => exact Or.inr ⟨hitem, rfl⟩

/-- A list of joins fails on the first join that does. -/
theorem declareEach_error_iff (d : Draft) (specs : List Value) (e : Error) :
    (d.declareEach specs).error = some e ↔ ∃ before spec after, specs = before ++ spec :: after ∧
      (d.declareEach before).error = none ∧
      ((d.declareEach before).draft.declareJoin spec).error = some e := by
  constructor
  · intro h
    obtain ⟨before, spec, after, hsplit, hbefore, hspec, -⟩ := declareEach_failed h
    exact ⟨before, spec, after, hsplit, hbefore, hspec⟩
  · rintro ⟨before, spec, after, rfl, hbefore, hspec⟩
    induction before generalizing d with
    | nil =>
      simp only [declareEach, done] at hspec
      simp only [List.nil_append, declareEach, hspec]
    | cons first rest ih =>
      simp only [declareEach, List.cons_append] at hbefore hspec ⊢
      cases hfirst : (d.declareJoin first).error with
      | some fault => simp [hfirst] at hbefore
      | none =>
        simp only [hfirst] at hbefore hspec ⊢
        exact ih _ hbefore hspec

/-- The declarations that fail unreported on a draft. -/
inductive Unreported (d : Draft) : Declaration → Error → Prop where
  | table {kind : StatementKind} {payload : Value} {fields : List (String × Value)} {head : Head}
      (hhead : Head.read kind payload fields = .ok head)
      (htable : TableRef.isWritable head.table = false) :
      Unreported d (.statement kind payload fields) (.numeral .unwritable)
  /-- A join behind joins that do not fail. -/
  | join {v : Value} {before after : List Value} {spec type table conditions : Value} {e : Error}
      (hspecs : joinSpecs? v = some (before ++ spec :: after))
      (hbefore : (d.declareEach before).error = none)
      (hspec : readJoin spec = .ok (type, table, conditions))
      (hjoin : JoinUnreported d.strict table conditions e) : Unreported d (.joins v) e
  | filter {v : Value} (h : ConditionList.Unshown d.strict v) :
      Unreported d (.filter v) (.numeral .unwritable)
  | having {v : Value} (h : ConditionList.Unshown d.strict v) :
      Unreported d (.having v) (.numeral .unwritable)
  | limit {v : Value} {fault : NumeralFault} (h : Limit.format v = .error fault) :
      Unreported d (.limit v) (.numeral fault)
  /-- Behind keys that are addresses. -/
  | key {before after : List (Value × Value)} {key v : Value} {fault : NumeralFault}
      (hbefore : ∀ entry ∈ before, ∃ a, Address.ofKey entry.1 = .ok a)
      (hkey : Address.Faulty key fault) :
      Unreported d (.params (.dict (before ++ (key, v) :: after))) (.numeral fault)

end Draft

/-- Whether what is to be listed in a declaration can be. -/
def Declaration.Listed : Declaration → Prop
  | joins v => Draft.joinSpecs? v ≠ none
  | filter v => Condition.listed? v ≠ none
  | having v => Condition.listed? v ≠ none
  | params v => v.elements? ≠ none
  | _ => True

/-- Merging a mapping fails on the first key that is no address. -/
theorem Params.mergeMapping_error_iff (p : Params) (entries : List (Value × Value)) (e : Error) :
    (p.mergeMapping entries).2 = some e ↔ ∃ before key v after fault,
      entries = before ++ (key, v) :: after ∧
      (∀ entry ∈ before, ∃ a, Address.ofKey entry.1 = .ok a) ∧
      Address.ofKey key = .error fault ∧ e = .numeral fault := by
  constructor
  · intro h
    induction entries generalizing p with
    | nil => cases h
    | cons entry rest ih =>
      obtain ⟨key, v⟩ := entry
      cases hkey : Address.ofKey key with
      | error fault =>
        simp only [mergeMapping, hkey, Option.some.injEq] at h
        exact ⟨[], key, v, rest, fault, rfl, List.forall_mem_nil _, hkey, h.symm⟩
      | ok a =>
        simp only [mergeMapping, hkey] at h
        obtain ⟨before, key', v', after, fault, rfl, hbefore, hfault⟩ := ih _ h
        exact ⟨(key, v) :: before, key', v', after, fault, rfl,
          List.forall_mem_cons.mpr ⟨⟨a, hkey⟩, hbefore⟩, hfault⟩
  · rintro ⟨before, key, v, after, fault, rfl, hbefore, hkey, rfl⟩
    induction before generalizing p with
    | nil => simp only [List.nil_append, mergeMapping, hkey]
    | cons entry rest ih =>
      obtain ⟨⟨a, ha⟩, hrest⟩ := List.forall_mem_cons.mp hbefore
      simp only [List.cons_append, mergeMapping, ha]
      exact ih _ hrest

namespace Draft

theorem declareParams_error_iff (d : Draft) {v : Value} (hv : v.elements? ≠ none) (e : Error) :
    (d.declareParams v).error = some e ↔ d.Unreported (.params v) e := by
  have hkeys (entries : List (Value × Value)) : (d.declareParams (.dict entries)).error = some e ↔
      d.Unreported (.params (.dict entries)) e := by
    simp only [declareParams, Params.merge, Params.mergeMapping_error_iff]
    constructor
    · rintro ⟨before, key, v, after, fault, rfl, hbefore, hkey, rfl⟩
      exact .key hbefore ((Address.ofKey_error_iff key fault).mp hkey)
    · intro h
      cases h with
      | key hbefore hkey =>
        exact ⟨_, _, _, _, _, rfl, hbefore, (Address.ofKey_error_iff _ _).mpr hkey, rfl⟩
  by_cases hdict : ∃ entries, v = .dict entries
  · obtain ⟨entries, rfl⟩ := hdict
    exact hkeys entries
  · have hmerge : (d.params.merge v).2 = none := by
      obtain ⟨items, hitems⟩ := Option.ne_none_iff_exists'.mp hv
      unfold Params.merge
      split
      · exact absurd ⟨_, rfl⟩ hdict
      · simp only [hitems]
    simp only [declareParams, hmerge]
    constructor
    · intro h
      cases h
    · intro h
      cases h with
      | key => exact absurd ⟨_, rfl⟩ hdict

theorem declareJoins_unreported_iff (d : Draft) {v : Value} (hv : joinSpecs? v ≠ none)
    (e : Error) :
    (d.declareJoins v).error = some e ∧ ¬e.Reported ↔ d.Unreported (.joins v) e := by
  obtain ⟨specs, hspecs⟩ := Option.ne_none_iff_exists'.mp hv
  have hstrict (before : List Value) : (d.declareEach before).draft.strict = d.strict :=
    strict_declare d (.joins (.list before))
  simp only [declareJoins, hspecs]
  rw [declareEach_error_iff]
  constructor
  · rintro ⟨⟨before, spec, after, rfl, hbefore, hspec⟩, hnot⟩
    obtain ⟨type, table, conditions, hread, hjoin⟩ :=
      (declareJoin_unreported_iff _ spec e).mp ⟨hspec, hnot⟩
    rw [hstrict] at hjoin
    exact .join hspecs hbefore hread hjoin
  · intro h
    cases h with
    | join hspecs' hbefore hread hjoin =>
      rw [hspecs] at hspecs'
      cases hspecs'
      rw [← hstrict] at hjoin
      obtain ⟨hspec, hnot⟩ := (declareJoin_unreported_iff _ _ _).mpr ⟨_, _, _, hread, hjoin⟩
      exact ⟨⟨_, _, _, rfl, hbefore, hspec⟩, hnot⟩

theorem declareLimit_error_iff (d : Draft) (v : Value) (e : Error) :
    (d.declareLimit v).error = some e ↔ d.Unreported (.limit v) e := by
  unfold declareLimit
  constructor
  · intro h
    split at h
    · cases h
    · cases h
    · next fault hfault =>
      cases h
      exact .limit hfault
  · intro h
    cases h with
    | limit hfault => simp only [hfault, refuse]

/-- What may be listed where a list is wanted fails unreported in these ways only. -/
theorem declare_unreported_iff (d : Draft) {a : Declaration} (ha : a.Listed) (e : Error) :
    (d.declare a).error = some e ∧ ¬e.Reported ↔ d.Unreported a e := by
  cases a with
  | statement kind payload fields =>
    rw [declare, declareStatement_unreported_iff]
    constructor
    · rintro ⟨head, hhead, htable, rfl⟩
      exact .table hhead htable
    · intro h
      cases h with
      | table hhead htable => exact ⟨_, hhead, htable, rfl⟩
  | joins v => exact declareJoins_unreported_iff d ha e
  | filter v =>
    rw [declare, withConditions_unreported_iff]
    constructor
    · rintro (⟨hlisted, -⟩ | ⟨hitem, rfl⟩)
      · exact absurd hlisted ha
      · exact .filter hitem
    · intro h
      cases h with
      | filter hitem => exact Or.inr ⟨hitem, rfl⟩
  | having v =>
    rw [declare, withConditions_unreported_iff]
    constructor
    · rintro (⟨hlisted, -⟩ | ⟨hitem, rfl⟩)
      · exact absurd hlisted ha
      · exact .having hitem
    · intro h
      cases h with
      | having hitem => exact Or.inr ⟨hitem, rfl⟩
  | group v | order v =>
    constructor
    · rintro ⟨h, -⟩
      cases h
    · intro h
      cases h
  | limit v =>
    rw [declare, declareLimit_error_iff]
    refine ⟨And.left, fun h => ⟨h, ?_⟩⟩
    cases h
    exact Error.not_reported_numeral _
  | params v =>
    rw [declare, declareParams_error_iff d ha]
    refine ⟨And.left, fun h => ⟨h, ?_⟩⟩
    cases h
    exact Error.not_reported_numeral _

/-- A run fails on the first declaration that does. -/
theorem declareAll_error_iff (d : Draft) (all : List Declaration) (e : Error) :
    (d.declareAll all).error = some e ↔ ∃ before a after, all = before ++ a :: after ∧
      (d.declareAll before).error = none ∧
      ((d.declareAll before).draft.declare a).error = some e := by
  constructor
  · intro h
    induction all generalizing d with
    | nil => cases h
    | cons a rest ih =>
      simp only [declareAll] at h
      cases hfirst : (d.declare a).error with
      | some fault =>
        simp only [hfirst] at h
        exact ⟨[], a, rest, rfl, rfl, hfirst.trans h⟩
      | none =>
        simp only [hfirst] at h
        obtain ⟨before, b, after, rfl, hbefore, hb⟩ := ih _ h
        refine ⟨a :: before, b, after, rfl, ?_, ?_⟩
        · simpa only [declareAll, hfirst] using hbefore
        · simpa only [declareAll, hfirst] using hb
  · rintro ⟨before, a, after, rfl, hbefore, ha⟩
    rw [declareAll_append, hbefore]
    simp only [declareAll, ha]

end Draft

end SqlDraft
