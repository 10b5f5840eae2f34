import SqlDraft.Proofs.Schema.Keeping

/-!
Mappings without the keys under which null stands. A record that is accepted is accepted without
them too, and checking gives the same fields but for those that were null.
-/
namespace SqlDraft

namespace Value

/-- What is found under a key, if null is nothing. -/
def present? : Option Value → Option Value
  | some null => none
  | v? => v?

def isPresent (entries : List (Value × Value)) : Value → Bool
  | text name => (present? (Value.entry? name entries)).isSome
  | _ => true

def dropNulls (entries : List (Value × Value)) : List (Value × Value) :=
  entries.filter fun e => isPresent entries e.1

/-- A mapping without the keys under which null stands; any other value is left as it is. -/
def withoutNulls : Value → Value
  | dict entries => dict (dropNulls entries)
  | v => v

def mapItems (f : Value → Value) : Value → Value
  | list items => list (items.map f)
  | tuple items => tuple (items.map f)
  | v => v

@[simp] theorem present?_none : present? none = none := rfl

@[simp] theorem present?_null : present? (some null) = none := rfl

theorem present?_of_ne {v? : Option Value} (h : v? ≠ some null) : present? v? = v? := by
  unfold present?
  split
  · exact absurd rfl h
  · rfl

theorem present?_eq_some_iff {v? : Option Value} {v : Value} :
    present? v? = some v ↔ v? = some v ∧ v ≠ null := by
  by_cases hnull : v? = some null
  · subst hnull
    simp only [present?_null, reduceCtorEq, Option.some.injEq, false_iff, not_and]
    rintro rfl
    simp
  · rw [present?_of_ne hnull]
    refine ⟨fun h => ⟨h, ?_⟩, And.left⟩
    rintro rfl
    exact hnull h

theorem entry?_filter (name : String) (p : Value → Bool) (entries : List (Value × Value)) :
    entry? name (entries.filter fun e => p e.1) =
      if p (.text name) then entry? name entries else none := by
  induction entries with
  | nil => simp [Value.entry?]
  | cons e rest ih =>
    obtain ⟨key, v⟩ := e
    cases key with
    | text s =>
      rw [List.filter_cons, entry?]
      by_cases hs : s = name
      · subst hs
        by_cases hp : p (text s) <;> simp [hp, ih, entry?]
      · rw [if_neg hs, ← ih]
        split
        · rw [Value.entry?, if_neg hs]
        · rfl
    | _ =>
      rw [List.filter_cons, entry?, ← ih]
      split
      · rw [Value.entry?]
        simp
      · rfl
      · simp

theorem entry?_map (name : String) (f : Value → Value → Value) (entries : List (Value × Value)) :
    entry? name (entries.map fun e => (e.1, f e.1 e.2)) =
      (Value.entry? name entries).map (f (.text name)) := by
  induction entries with
  | nil => rfl
  | cons e rest ih =>
    obtain ⟨key, v⟩ := e
    cases key with
    | text s =>
      rw [List.map_cons, entry?, entry?, ih]
      by_cases hs : s = name
      · rw [if_pos hs, if_pos hs, hs, Option.map_some]
      · rw [if_neg hs, if_neg hs]
    | _ => exact ih

theorem entry?_dropNulls (name : String) (entries : List (Value × Value)) :
    entry? name (dropNulls entries) = present? (Value.entry? name entries) := by
  rw [dropNulls, entry?_filter name (isPresent entries), isPresent]
  cases hv : present? (Value.entry? name entries) with
  | none => rfl
  | some v => exact (present?_eq_some_iff.mp hv).1

/-- Of two mappings, the second one has the named fields of the first that are not null. -/
def NullsDropped (names : List String) (v v' : Value) : Prop :=
  ∃ entries entries', v = dict entries ∧ v' = dict entries' ∧
    ∀ name ∈ names, entry? name entries' = present? (Value.entry? name entries)

theorem unfolded_eq_null_iff (v : Value) : v.unfolded = null ↔ v = null := by
  cases v <;> simp [unfolded]

theorem NullsDropped.unfolded {names : List String} {v v' : Value} (h : NullsDropped names v v') :
    NullsDropped names v.unfolded v'.unfolded := by
  obtain ⟨entries, entries', rfl, rfl, hlookup⟩ := h
  refine ⟨unfoldedEntries entries, unfoldedEntries entries', rfl, rfl, fun name hname => ?_⟩
  rw [entry?_unfoldedEntries, entry?_unfoldedEntries, hlookup name hname]
  cases hv : entry? name entries with
  | none => rfl
  | some v =>
    by_cases hnull : v = null
    · rw [hnull]
      rfl
    · rw [Option.map_some, present?_of_ne (by simpa using hnull),
        present?_of_ne (by simpa [unfolded_eq_null_iff] using hnull), Option.map_some]

end Value

open Value

namespace Schema

theorem Checked.items_ok {α : Type} (rs : List α) : Checked.items (rs.map .ok) = .ok rs := by
  have hnumbered : ∀ n : Nat, all (numbered n (rs.map .ok)) = .ok rs := by
    induction rs with
    | nil => exact fun _ => rfl
    | cons r rest ih =>
      intro n
      rw [List.map_cons, numbered, all, ih (n + 1)]
      rfl
  exact hnumbered 0

theorem closed_eq_ok_iff {α : Type} {names : List String} {entries : List (Value × Value)}
    {c : Checked α} {a : α} : closed names entries c = .ok a ↔
      c = .ok a ∧ ∀ e ∈ entries, otherKey names e.1 = [] := by
  rw [← List.flatMap_eq_nil_iff]
  change _ ↔ _ ∧ otherKeys names entries = []
  unfold closed
  cases hothers : otherKeys names entries with
  | nil => cases c <;> simp [Checked.both]
  | cons fault rest => cases c <;> simp [Checked.both]

namespace Shape

open Checked

theorem check_dict_eq_ok_iff {fields : List (String × Shape)} {entries : List (Value × Value)}
    {w : Value} : (record fields).check (.dict entries) = .ok w ↔
      ∃ checked, checkFields fields entries = .ok checked ∧
        (∀ e ∈ entries, otherKey (fields.map Prod.fst) e.1 = []) ∧ w = .dict checked := by
  rw [check]
  constructor
  · intro h
    obtain ⟨checked, hclosed, rfl⟩ := map_eq_ok h
    obtain ⟨hfields, hkeys⟩ := closed_eq_ok_iff.mp hclosed
    exact ⟨checked, hfields, hkeys, rfl⟩
  · rintro ⟨checked, hfields, hkeys, rfl⟩
    rw [closed_eq_ok_iff.mpr ⟨hfields, hkeys⟩]
    rfl

/-- Fields are accepted together if each that is there is accepted. -/
theorem exists_checkFields {fields : List (String × Shape)} {entries : List (Value × Value)}
    (h : ∀ field ∈ fields, ∀ v, entry? field.1 entries = some v → ∃ w, field.2.check v = .ok w) :
    ∃ checked, checkFields fields entries = .ok checked := by
  induction fields with
  | nil => exact ⟨[], rfl⟩
  | cons field rest ih =>
    obtain ⟨name, shape⟩ := field
    obtain ⟨hfirst, hrest⟩ := List.forall_mem_cons.mp h
    obtain ⟨checked, hchecked⟩ := ih hrest
    rw [checkFields]
    cases hv : entry? name entries with
    | none => exact ⟨checked, hchecked⟩
    | some v =>
      obtain ⟨w, hw⟩ := hfirst v hv
      have hshape : shape.check v = .ok w := hw
      refine ⟨(.text name, w) :: checked, ?_⟩
      simp only [hshape, hchecked]
      rfl

/-- Whether a shape takes nothing but null for null. -/
def NullOnly (s : Shape) : Prop := ∀ v w, s.check v = .ok w → (w = .null ↔ v = .null)

theorem nullOnly_any : NullOnly any := by
  rintro v w ⟨⟩
  rfl

theorem check_optional_of_ne (s : Shape) {v : Value} (hv : v ≠ .null) :
    (optional s).check v = s.check v := by
  cases v with
  | null => exact absurd rfl hv
  | _ => rfl

/-- Whether a shape takes nothing for null. -/
def NeverNull (s : Shape) : Prop := ∀ v w, s.check v = .ok w → w ≠ .null

theorem neverNull_list (item : Shape) : NeverNull (list item) := by
  intro v w h
  obtain ⟨_, ws, -, rfl, -⟩ := check_list_eq_ok h
  simp

theorem neverNull_limit : NeverNull limit := by
  intro v w h
  unfold check checkLimit at h
  split at h
  · cases h
    simp
  rcases alternative_eq_ok h with h | h
  · obtain ⟨n, -, rfl⟩ := map_eq_ok h
    simp
  rcases alternative_eq_ok h with h | h
  · obtain ⟨s, -, rfl⟩ := map_eq_ok h
    simp
  rcases alternative_eq_ok h with h | h
  · obtain ⟨items, -, rfl⟩ := map_eq_ok h
    simp
  · cases h

theorem neverNull_params : NeverNull params := by
  intro v w h
  rcases check_params_eq_ok h with ⟨ws, rfl⟩ | ⟨entries, rfl⟩ <;> simp

theorem nullOnly_optional {s : Shape} (h : NeverNull s) : NullOnly (optional s) := by
  intro v w hcheck
  by_cases hv : v = .null
  · subst hv
    cases hcheck
    exact ⟨fun _ => rfl, fun _ => rfl⟩
  · rw [check_optional_of_ne s hv] at hcheck
    exact ⟨fun hnull => absurd hnull (h v w hcheck), fun hnull => absurd hnull hv⟩

section

variable {fields : List (String × Shape)} (hnodup : (fields.map Prod.fst).Nodup)
  {entries checked : List (Value × Value)} (hfields : checkFields fields entries = .ok checked)

include hnodup hfields

/-- A field that is not null was accepted with its value. -/
theorem exists_check_of_dropNulls {field : String × Shape} (hfield : field ∈ fields) {v : Value}
    (hv : entry? field.1 (dropNulls entries) = some v) :
    v ≠ .null ∧ ∃ w, field.2.check v = .ok w ∧ entry? field.1 checked = some w := by
  rw [entry?_dropNulls, present?_eq_some_iff] at hv
  rcases entry?_checkFields hnodup hfields hfield with ⟨hnone, -⟩ | ⟨u, w, hu, hcheck, hw⟩
  · rw [hnone] at hv
    cases hv.1
  · obtain rfl : u = v := Option.some.inj (hu.symm.trans hv.1)
    exact ⟨hv.2, w, hcheck, hw⟩

/-- Checking gives the same fields without the nulls, but for those that were null. -/
theorem entry?_checkFields_dropNulls (hnulls : ∀ field ∈ fields, NullOnly field.2)
    {checked' : List (Value × Value)}
    (hfields' : checkFields fields (dropNulls entries) = .ok checked')
    {field : String × Shape} (hfield : field ∈ fields) :
    entry? field.1 checked' = present? (Value.entry? field.1 checked) := by
  rcases entry?_checkFields hnodup hfields' hfield with ⟨hnone, hnone'⟩ | ⟨v, w, hv, hcheck, hw⟩
  · rw [hnone']
    rw [entry?_dropNulls] at hnone
    rcases entry?_checkFields hnodup hfields hfield with ⟨-, hmissing⟩ | ⟨v, w, hv, hcheck, hw⟩
    · rw [hmissing, present?_none]
    · have hnull : v = .null := by
        by_contra hne
        rw [hv, present?_of_ne (by simpa using hne)] at hnone
        cases hnone
      rw [hw, (hnulls field hfield v w hcheck).mpr hnull, present?_null]
  · obtain ⟨hnull, w', hcheck', hw'⟩ := exists_check_of_dropNulls hnodup hfields hfield hv
    rw [hcheck] at hcheck'
    cases hcheck'
    have hpresent : some w ≠ some .null := by
      simpa [hnulls field hfield v w hcheck] using hnull
    rw [hw, hw', present?_of_ne hpresent]

end

/-- A record without its nulls is accepted, and checked to what it was but for the nulls. -/
theorem check_withoutNulls {fields : List (String × Shape)} (hnodup : (fields.map Prod.fst).Nodup)
    (hnulls : ∀ field ∈ fields, NullOnly field.2) {v w : Value}
    (h : (record fields).check v = .ok w) :
    ∃ w', (record fields).check v.withoutNulls = .ok w' ∧
      NullsDropped (fields.map Prod.fst) w w' := by
  obtain ⟨entries, _, rfl, -, -⟩ := check_record_eq_ok h
  obtain ⟨checked, hfields, hkeys, rfl⟩ := check_dict_eq_ok_iff.mp h
  obtain ⟨checked', hfields'⟩ : ∃ checked', checkFields fields (dropNulls entries) =
      .ok checked' := by
    refine exists_checkFields fun field hfield v hv => ?_
    obtain ⟨-, w, hcheck, -⟩ := exists_check_of_dropNulls hnodup hfields hfield hv
    exact ⟨w, hcheck⟩
  have hkeys' : ∀ e ∈ dropNulls entries, otherKey (fields.map Prod.fst) e.1 = [] :=
    fun e he => hkeys e (List.mem_of_mem_filter he)
  refine ⟨.dict checked', check_dict_eq_ok_iff.mpr ⟨checked', hfields', hkeys', rfl⟩, checked,
    checked', rfl, rfl, fun name hname => ?_⟩
  obtain ⟨field, hfield, rfl⟩ := List.mem_map.mp hname
  exact entry?_checkFields_dropNulls hnodup hfields hnulls hfields' hfield

/-- Items that are records are accepted without their nulls. -/
theorem check_mapItems_withoutNulls {fields : List (String × Shape)}
    (hnodup : (fields.map Prod.fst).Nodup) (hnulls : ∀ field ∈ fields, NullOnly field.2)
    {v w : Value} (h : (list (record fields)).check v = .ok w) :
    ∃ ws ws', w = .list ws ∧
      (list (record fields)).check (v.mapItems Value.withoutNulls) = .ok (.list ws') ∧
      List.Forall₂ (NullsDropped (fields.map Prod.fst)) ws ws' := by
  obtain ⟨items, ws, hitems, rfl, hws⟩ := check_list_eq_ok h
  have hmapped : listItems? (v.mapItems Value.withoutNulls) =
      some (items.map Value.withoutNulls) := by
    cases v with
    | list l =>
      cases hitems
      rfl
    | tuple l =>
      cases hitems
      rfl
    | condition c =>
      -- The named parts of a condition are no records.
      cases c <;> cases hitems <;> cases hws with
      | cons hfirst _ =>
        obtain ⟨_, _, hdict, -⟩ := check_record_eq_ok hfirst
        cases hdict
    | _ => cases hitems
  obtain ⟨ws', hws', hdropped⟩ : ∃ ws', (items.map Value.withoutNulls).map (check (record fields)) =
      ws'.map .ok ∧ List.Forall₂ (NullsDropped (fields.map Prod.fst)) ws ws' := by
    clear hmapped hitems h
    induction hws with
    | nil => exact ⟨[], rfl, .nil⟩
    | cons hfirst _ ih =>
      obtain ⟨w', hw', hdropped⟩ := check_withoutNulls hnodup hnulls hfirst
      obtain ⟨others, hothers, hrest⟩ := ih
      refine ⟨w' :: others, ?_, .cons hdropped hrest⟩
      rw [List.map_cons, List.map_cons, List.map_cons, hw', hothers]
  refine ⟨ws, ws', rfl, ?_, hdropped⟩
  have hitems' : Checked.items ((items.map Value.withoutNulls).map (check (record fields))) =
      .ok ws' := hws' ▸ Checked.items_ok ws'
  rw [check, hmapped]
  simp only [hitems', Except.map]

end Shape

end Schema

end SqlDraft
