import SqlDraft.Proofs.LastWrite

/-!
Mappings from texts merged into parameters. Each entry goes to the address of its key, the last one
if several keys have the same address, and everything at other addresses stays. The one way to fail
is a key of digits that is no numeral, since one of its digits has no place in a numeral: the
entries in front of it are stored then, and those behind it are not.
-/
namespace SqlDraft

open Text

namespace Address

/-- A text of digits, one of which has no place in a numeral. -/
def Illegible (s : String) : Prop :=
  s.toList.all isDigit = true ∧ s.toList.all isDecimal = false

instance (s : String) : Decidable (Illegible s) := inferInstanceAs (Decidable (_ ∧ _))

/-- A text that is not too long is no address only as such digits. -/
theorem ofKey_text_error_iff {s : String} (hlength : s.length ≤ Numeral.digitLimit)
    (fault : NumeralFault) :
    ofKey (.text s) = .error fault ↔ Illegible s ∧ fault = .notDecimal s := by
  have hrun : (s.toList.takeWhile isDecimal).length ≤ Numeral.digitLimit := by
    rw [← String.length_toList] at hlength
    exact Nat.le_trans (List.takeWhile_sublist _).length_le hlength
  rw [ofKey_error_iff, faulty_text_iff]
  constructor
  · rintro ⟨-, hdigits, hfaulty⟩
    cases hfaulty with
    | tooLong hlong => exact absurd hrun (Nat.not_le.mpr hlong)
    | @notDecimal c _ hc hdecimal =>
      exact ⟨⟨hdigits, List.all_eq_false.mpr ⟨c, hc, ne_true_of_eq_false hdecimal⟩⟩, rfl⟩
  · rintro ⟨⟨hdigits, hdecimal⟩, rfl⟩
    obtain ⟨c, hc, hnot⟩ := List.all_eq_false.mp hdecimal
    have hne : s ≠ "" := by
      rintro rfl
      cases hc
    exact ⟨hne, hdigits, .notDecimal hrun hc (eq_false_of_ne_true hnot)⟩

theorem ofKey_text {s : String} (hlength : s.length ≤ Numeral.digitLimit) (h : ¬Illegible s) :
    ofKey (.text s) = .ok (spelled s) := by
  cases hkey : ofKey (.text s) with
  | ok a => rw [keyed_of_ofKey hkey, keyed]
  | error fault => exact absurd ((ofKey_text_error_iff hlength fault).mp hkey).1 h

end Address

open Address

/-- A mapping whose keys are texts. -/
def Value.textKeyed (entries : List (String × Value)) : Value :=
  .dict (entries.map fun e => (.text e.1, e.2))

namespace Params

theorem writeAll_cons (p : Params) (w : Write) (rest : List Write) :
    p.writeAll (w :: rest) = (p.write w.1 w.2).writeAll rest := rfl

/-- An address that nothing is written to keeps what it holds. -/
theorem get?_writeAll_of_ne (p : Params) {writes : List Write} {a : Address}
    (h : ∀ w ∈ writes, w.1 ≠ a) : (p.writeAll writes).get? a = p.get? a := by
  induction writes generalizing p with
  | nil => rfl
  | cons w rest ih =>
    obtain ⟨hw, hrest⟩ := List.forall_mem_cons.mp h
    rw [writeAll_cons, ih _ hrest, get?_write, if_neg hw]

/-- What is written stays unless its address is written to again. -/
theorem get?_writeAll_of_last (p : Params) (front : List Write) (a : Address) (v : Value)
    {back : List Write} (h : ∀ w ∈ back, w.1 ≠ a) :
    (p.writeAll (front ++ (a, v) :: back)).get? a = some v := by
  rw [writeAll_append, writeAll_cons, get?_writeAll_of_ne _ h, get?_write, if_pos rfl]

theorem mergeMapping_append {p q : Params} {front : List (Value × Value)}
    (h : p.mergeMapping front = (q, none)) (back : List (Value × Value)) :
    p.mergeMapping (front ++ back) = q.mergeMapping back := by
  induction front generalizing p with
  | nil =>
    cases h
    rfl
  | cons entry rest ih =>
    obtain ⟨key, v⟩ := entry
    cases hkey : ofKey key with
    | error fault =>
      simp only [mergeMapping, hkey] at h
      cases h
    | ok a =>
      simp only [List.cons_append, mergeMapping, hkey] at h ⊢
      exact ih h

/-- The entries of a mapping as writes. -/
def entryWrites (entries : List (String × Value)) : List Write :=
  entries.map fun e => (.spelled e.1, e.2)

/-- Legible keys are written to one after the other. -/
theorem merge_textKeyed (p : Params) {entries : List (String × Value)}
    (hlength : ∀ e ∈ entries, e.1.length ≤ Numeral.digitLimit)
    (hlegible : ∀ e ∈ entries, ¬Illegible e.1) :
    p.merge (.textKeyed entries) = (p.writeAll (entryWrites entries), none) := by
  change p.mergeMapping _ = _
  induction entries generalizing p with
  | nil => rfl
  | cons e rest ih =>
    obtain ⟨hshort, hrestshort⟩ := List.forall_mem_cons.mp hlength
    obtain ⟨hkey, hrest⟩ := List.forall_mem_cons.mp hlegible
    simp only [List.map_cons, mergeMapping, ofKey_text hshort hkey]
    exact ih _ hrestshort hrest

/-- The first key that is not legible ends the merge. -/
theorem merge_textKeyed_illegible (p : Params) {before : List (String × Value)} {key : String}
    (v : Value) (after : List (String × Value))
    (hlength : ∀ e ∈ before ++ (key, v) :: after, e.1.length ≤ Numeral.digitLimit)
    (hbefore : ∀ e ∈ before, ¬Illegible e.1) (hkey : Illegible key) :
    p.merge (.textKeyed (before ++ (key, v) :: after)) =
      ((p.merge (.textKeyed before)).1, some (.numeral (.notDecimal key))) := by
  obtain ⟨hfront, hback⟩ := List.forall_mem_append.mp hlength
  have hmerged := merge_textKeyed p hfront hbefore
  have hfault : ofKey (.text key) = .error (.notDecimal key) :=
    (ofKey_text_error_iff (hback _ List.mem_cons_self) _).mpr ⟨hkey, rfl⟩
  rw [hmerged]
  change p.mergeMapping (List.map _ (before ++ (key, v) :: after)) = _
  rw [List.map_append, mergeMapping_append hmerged]
  simp only [List.map_cons, mergeMapping, hfault]

/-- A mapping from texts is merged exactly if no key is made of digits that are no numeral. Then
each entry is stored at the address of its key, in the slot of its number or under the name, unless
a later key has the same address, and no other address changes. Otherwise the entries in front of
the first such key are stored, and no others. -/
theorem merge_mapping (p : Params) (entries : List (String × Value))
    (hlength : ∀ e ∈ entries, e.1.length ≤ Numeral.digitLimit) :
    ((p.merge (.textKeyed entries)).2 = none ↔ ∀ e ∈ entries, ¬Illegible e.1) ∧
    ((∀ e ∈ entries, ¬Illegible e.1) →
      (∀ before key v after, entries = before ++ (key, v) :: after →
        (∀ e ∈ after, spelled e.1 ≠ spelled key) →
        (p.merge (.textKeyed entries)).1.get? (spelled key) = some v) ∧
      ∀ a, (∀ e ∈ entries, spelled e.1 ≠ a) →
        (p.merge (.textKeyed entries)).1.get? a = p.get? a) ∧
    ∀ before key v after, entries = before ++ (key, v) :: after →
      (∀ e ∈ before, ¬Illegible e.1) → Illegible key →
      p.merge (.textKeyed entries) =
        ((p.merge (.textKeyed before)).1, some (.numeral (.notDecimal key))) := by
  have hfailed (before key v after) (hsplit : entries = before ++ (key, v) :: after)
      (hbefore : ∀ e ∈ before, ¬Illegible e.1) (hkey : Illegible key) :
      p.merge (.textKeyed entries) =
        ((p.merge (.textKeyed before)).1, some (.numeral (.notDecimal key))) := by
    subst hsplit
    exact merge_textKeyed_illegible p v after hlength hbefore hkey
  refine ⟨⟨fun hdone => ?_, fun hlegible => ?_⟩, fun hlegible => ?_, hfailed⟩
  · -- The first illegible key would have ended the merge.
    cases hfirst : entries.find? fun e => decide (Illegible e.1) with
    | none => simpa using hfirst
    | some e =>
      obtain ⟨hkey, before, after, hsplit, hbefore⟩ := List.find?_eq_some_iff_append.mp hfirst
      rw [hfailed before e.1 e.2 after hsplit (by simpa using hbefore) (of_decide_eq_true hkey)]
        at hdone
      cases hdone
  · rw [merge_textKeyed p hlength hlegible]
  · rw [merge_textKeyed p hlength hlegible]
    constructor
    · rintro before key v after rfl hafter
      simp only [entryWrites, List.map_append, List.map_cons]
      exact get?_writeAll_of_last p _ _ v (List.forall_mem_map.mpr hafter)
    · intro a ha
      exact get?_writeAll_of_ne p (List.forall_mem_map.mpr ha)

/-- Two spellings of one slot and a name; and a superscript between two other keys. -/
theorem merge_mapping_superscript :
    let spelledTwice : List (String × Value) := [("7", .int 1), ("b", .null), ("٠07", .text "x")]
    let superscript : List (String × Value) := [("a", .int 1), ("²", .int 2), ("0", .int 3)]
    let p := (empty.merge (.list [.bool true])).1
    (∀ e ∈ spelledTwice ++ superscript, e.1.length ≤ Numeral.digitLimit) ∧
      (p.merge (.textKeyed spelledTwice)).2 = none ∧
      (p.merge (.textKeyed spelledTwice)).1.get? (.slot 7) = some (.text "x") ∧
      (p.merge (.textKeyed spelledTwice)).1.get? (.slot 0) = some (.bool true) ∧
      Illegible "²" ∧
      p.merge (.textKeyed superscript) =
        ((p.merge (.textKeyed [("a", .int 1)])).1, some (.numeral (.notDecimal "²"))) := by
  intro spelledTwice superscript p
  have hlength : ∀ e ∈ spelledTwice ++ superscript, e.1.length ≤ Numeral.digitLimit := by decide
  obtain ⟨hshort, hshort'⟩ := List.forall_mem_append.mp hlength
  have hlegible : ∀ e ∈ spelledTwice, ¬Illegible e.1 := by decide +kernel
  have hslot : spelled "٠07" = .slot 7 := by decide +kernel
  have hothers : ∀ e ∈ spelledTwice, spelled e.1 ≠ .slot 0 := by decide +kernel
  have hkey : Illegible "²" := by decide +kernel
  obtain ⟨hdone, hstored, -⟩ := merge_mapping p spelledTwice hshort
  obtain ⟨hlast, hkept⟩ := hstored hlegible
  refine ⟨hlength, hdone.mpr hlegible, ?_, ?_, hkey, ?_⟩
  · rw [← hslot]
    exact hlast [("7", .int 1), ("b", .null)] "٠07" (.text "x") [] rfl nofun
  · rw [hkept (.slot 0) hothers]
    rfl
  · have hfailed := (merge_mapping p superscript hshort').2.2
    exact hfailed [("a", .int 1)] "²" (.int 2) [("0", .int 3)] rfl (by decide +kernel) hkey

end Params

end SqlDraft
