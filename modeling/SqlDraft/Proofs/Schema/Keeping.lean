import Mathlib.Data.List.Forall2
import SqlDraft.Limit
import SqlDraft.Proofs.Json.Plain
import SqlDraft.Schema.Shape

/-!
What checking leaves of a JSON value. Most shapes keep a value they accept as it is, and a record
keeps the lookup of each field that is of such a shape. The limit alone turns values into others:
doubles without a fraction and truth values become whole numbers.
-/
namespace SqlDraft

namespace OrderedMap

variable {κ α : Type} [DecidableEq κ]

theorem write_of_notMem {k : κ} {l : List (κ × α)} (h : k ∉ l.map Prod.fst) (a : α) :
    write k a l = l ++ [(k, a)] := by
  induction l with
  | nil => rfl
  | cons e rest ih =>
    rw [List.map_cons, List.mem_cons, not_or] at h
    rw [write, if_neg (Ne.symm h.1), ih h.2]
    rfl

theorem entries_foldl_insert (l : List (κ × α)) (m : OrderedMap κ α)
    (h : (m.keys ++ l.map Prod.fst).Nodup) :
    (l.foldl (fun m e => m.insert e.1 e.2) m).entries = m.entries ++ l := by
  induction l generalizing m with
  | nil => simp
  | cons e rest ih =>
    have hnew : e.1 ∉ m.entries.map Prod.fst := by
      intro hmem
      exact (List.nodup_append.mp h).2.2 e.1 hmem e.1 (by simp) rfl
    have hentries : (m.insert e.1 e.2).entries = m.entries ++ [e] := write_of_notMem hnew e.2
    have hkeys : (m.insert e.1 e.2).keys = m.keys ++ [e.1] := by
      rw [keys, hentries, List.map_append]
      rfl
    have hnodup : ((m.insert e.1 e.2).keys ++ rest.map Prod.fst).Nodup := by
      rwa [hkeys, List.append_assoc]
    rw [List.foldl_cons, ih _ hnodup, hentries, List.append_assoc]
    rfl

/-- Reading the entries of a map again gives the map. -/
theorem entries_ofList (m : OrderedMap κ α) : (ofList m.entries).entries = m.entries := by
  have hempty : ((empty : OrderedMap κ α).keys ++ m.entries.map Prod.fst).Nodup := m.nodup
  rw [ofList, entries_foldl_insert m.entries empty hempty]
  rfl

end OrderedMap

namespace Value

theorem mem_of_lookup {name : String} {entries : List (Value × Value)} {v : Value}
    (h : entry? name entries = some v) : (.text name, v) ∈ entries := by
  induction entries with
  | nil => cases h
  | cons e rest ih =>
    obtain ⟨key, w⟩ := e
    cases key with
    | text s =>
      by_cases hs : s = name
      · rw [Value.entry?, if_pos hs] at h
        cases h
        exact hs ▸ List.mem_cons_self
      · rw [Value.entry?, if_neg hs] at h
        exact List.mem_cons_of_mem _ (ih h)
    | _ => exact List.mem_cons_of_mem _ (ih h)

theorem entry?_unfoldedEntries (name : String) (entries : List (Value × Value)) :
    entry? name (unfoldedEntries entries) = (Value.entry? name entries).map unfolded := by
  induction entries with
  | nil => rfl
  | cons e rest ih =>
    obtain ⟨key, v⟩ := e
    cases key with
    | text s =>
      rw [unfoldedEntries, entry?, entry?, ih]
      split <;> rfl
    | _ => rw [unfoldedEntries, entry?, entry?, ih] <;> simp

/-- A value of a JSON object is JSON. -/
theorem IsJson.of_lookup {entries : List (Value × Value)} (h : (Value.dict entries).IsJson)
    {name : String} {v : Value} (hv : Value.entry? name entries = some v) : v.IsJson := by
  cases h with
  | dict members hmembers =>
    obtain ⟨m, hm, heq⟩ := List.mem_map.mp (mem_of_lookup hv)
    cases heq
    exact hmembers m hm

end Value

namespace Schema

namespace Checked

variable {α β γ : Type}

theorem both_eq_ok {f : α → β → γ} {c : Checked α} {c' : Checked β} {r : γ}
    (h : both f c c' = .ok r) : ∃ a b, c = .ok a ∧ c' = .ok b ∧ r = f a b := by
  cases c with
  | error faults => cases c' <;> cases h
  | ok a =>
    cases c' with
    | error faults => cases h
    | ok b =>
      cases h
      exact ⟨a, b, rfl, rfl, rfl⟩

theorem under_eq_ok {step : Step} {c : Checked α} {a : α} (h : c.under step = .ok a) :
    c = .ok a := by
  cases c with
  | error faults => cases h
  | ok b => exact h

theorem map_eq_ok {f : α → β} {c : Checked α} {b : β} (h : c.map f = .ok b) :
    ∃ a, c = .ok a ∧ b = f a := by
  cases c with
  | error faults => cases h
  | ok a =>
    cases h
    exact ⟨a, rfl, rfl⟩

theorem all_eq_ok {l : List (Checked α)} {rs : List α} (h : all l = .ok rs) :
    l = rs.map .ok := by
  induction l generalizing rs with
  | nil =>
    cases h
    rfl
  | cons c rest ih =>
    obtain ⟨a, others, rfl, hothers, rfl⟩ := both_eq_ok h
    rw [List.map_cons, ih hothers]

/-- Items that are accepted together are accepted one by one. -/
theorem items_eq_ok {l : List (Checked α)} {rs : List α} (h : items l = .ok rs) :
    l = rs.map .ok := by
  have hnumbered : ∀ (l : List (Checked α)) (n : Nat) (rs : List α),
      numbered n l = rs.map .ok → l = rs.map .ok := by
    intro l
    induction l with
    | nil =>
      intro n rs h
      exact h
    | cons c rest ih =>
      intro n rs h
      cases rs with
      | nil => cases h
      | cons r others =>
        rw [numbered, List.map_cons, List.cons.injEq] at h
        rw [List.map_cons, under_eq_ok h.1, ih (n + 1) others h.2]
  exact hnumbered l 0 rs (all_eq_ok h)

end Checked

namespace Shape

open Checked

/-- Whether a shape leaves a JSON value that it accepts as it is. -/
def Keeps (s : Shape) : Prop := ∀ v w, v.IsJson → s.check v = .ok w → w = v

theorem keeps_any : Keeps any := by
  intro v w _ h
  cases h
  rfl

theorem keeps_text : Keeps text := by
  intro v w hv h
  obtain ⟨s, hs, rfl⟩ := map_eq_ok h
  cases hv with
  | text t =>
    cases hs
    rfl
  | _ => cases hs

theorem keeps_optional {s : Shape} (hs : Keeps s) : Keeps (optional s) := by
  intro v w hv h
  cases v with
  | null =>
    cases h
    rfl
  | _ => exact hs _ w hv h

/-- What is accepted as a list is one, of items that were accepted. -/
theorem check_list_eq_ok {item : Shape} {v w : Value} (h : (list item).check v = .ok w) :
    ∃ items ws, listItems? v = some items ∧ w = .list ws ∧
      List.Forall₂ (fun v w => item.check v = .ok w) items ws := by
  rw [check] at h
  cases hitems : listItems? v with
  | none =>
    rw [hitems] at h
    cases h
  | some items =>
    rw [hitems] at h
    obtain ⟨ws, hws, rfl⟩ := map_eq_ok h
    have hchecked : List.Forall₂ Eq (items.map (check item)) (ws.map .ok) :=
      List.forall₂_eq_eq_eq ▸ items_eq_ok hws
    exact ⟨items, ws, rfl, rfl,
      List.forall₂_map_right_iff.mp (List.forall₂_map_left_iff.mp hchecked)⟩

theorem keeps_list {item : Shape} (hitem : Keeps item) : Keeps (list item) := by
  intro v w hv h
  cases hv with
  | list items hitems =>
    obtain ⟨_, ws, hlist, rfl, hws⟩ := check_list_eq_ok h
    cases hlist
    clear h
    have heq : ws = items := by
      induction hws with
      | nil => rfl
      | @cons v w rest others hfirst _ ih =>
        have hrest : ∀ u ∈ rest, u.IsJson := fun u hu => hitems u (List.mem_cons_of_mem v hu)
        rw [hitem v w (hitems v List.mem_cons_self) hfirst, ih hrest]
    rw [heq]
  | _ => cases h

theorem checkNames_toEntries (members : List (String × Value)) :
    checkNames (members.map fun m => (.text m.1, m.2)) = .ok members := by
  induction members with
  | nil => rfl
  | cons m rest ih =>
    unfold checkNames at ih ⊢
    rw [List.map_cons, List.map_cons, Checked.all, ih]
    rfl

/-- The names of an object are read back in order, none of them twice. -/
theorem checkMapping_toEntries (members : OrderedMap String Value) :
    checkMapping (.dict members.toEntries) = .ok members.toEntries := by
  rw [checkMapping, OrderedMap.toEntries, checkNames_toEntries, Except.map,
    OrderedMap.entries_ofList]

theorem keeps_params : Keeps params := by
  intro v w hv h
  cases hv with
  | list items _ =>
    cases h
    rfl
  | dict members _ =>
    rw [check, checkParams, checkMapping_toEntries] at h
    cases h
    rfl
  | _ => cases h

theorem alternative_eq_ok {name : String} {c next : Checked Value} {v : Value}
    (h : alternative name c next = .ok v) : c = .ok v ∨ next = .ok v := by
  cases c with
  | ok w => exact Or.inl h
  | error faults =>
    cases next with
    | ok w => exact Or.inr h
    | error others => cases h

/-- Parameters are accepted as a list or as a mapping. -/
theorem check_params_eq_ok {v w : Value} (h : params.check v = .ok w) :
    (∃ ws, w = .list ws) ∨ ∃ entries, w = .dict entries := by
  rw [check, checkParams] at h
  rcases alternative_eq_ok h with h | h
  · obtain ⟨ws, -, rfl⟩ := map_eq_ok h
    exact Or.inl ⟨ws, rfl⟩
  rcases alternative_eq_ok h with h | h
  · obtain ⟨entries, -, rfl⟩ := map_eq_ok h
    exact Or.inr ⟨entries, rfl⟩
  · cases h

/-- A double that is accepted as a whole number is what it is truncated to. -/
theorem truncate_of_checkInt {x : Double} {n : Int} (h : checkInt (.float x) = .ok n) :
    x.truncate = n := by
  rw [checkInt] at h
  split at h
  · cases h
  · split at h
    · cases h
    · split at h
      · next m hm =>
        cases h
        obtain ⟨hint, -⟩ := Option.filter_eq_some_iff.mp hm
        rw [Double.toInt?] at hint
        split at hint
        · exact Option.some.inj hint
        · cases hint
      · cases h

/-- A limit is the same once it is checked, but for the truth value that becomes a number. -/
theorem checkLimit_cases {v w : Value} (hv : v.IsJson) (h : checkLimit v = .ok w) :
    (v = .bool true ∧ w = .int 1) ∨
      v ≠ .bool true ∧ w ≠ .null ∧ Limit.format w = Limit.format v := by
  cases hv with
  | null => cases h
  | bool b =>
    cases h
    cases b with
    | true => exact Or.inl ⟨rfl, rfl⟩
    | false => exact Or.inr ⟨by simp, by simp, rfl⟩
  | int n =>
    cases h
    exact Or.inr ⟨by simp, by simp, rfl⟩
  | float x =>
    rcases alternative_eq_ok h with hint | hother
    · obtain ⟨n, hn, rfl⟩ := map_eq_ok hint
      refine Or.inr ⟨by simp, by simp, ?_⟩
      simp [Limit.format, Value.items?, Limit.read, truncate_of_checkInt hn]
    · cases hother
  | text s =>
    cases h
    exact Or.inr ⟨by simp, by simp, rfl⟩
  | list items _ =>
    cases h
    exact Or.inr ⟨by simp, by simp, rfl⟩
  | dict members _ => cases h

/-- The fields of a record that were accepted. -/
theorem check_record_eq_ok {fields : List (String × Shape)} {v w : Value}
    (h : (record fields).check v = .ok w) :
    ∃ entries checked, v = .dict entries ∧ w = .dict checked ∧
      checkFields fields entries = .ok checked := by
  cases v with
  | dict entries =>
    rw [check] at h
    obtain ⟨checked, hclosed, rfl⟩ := map_eq_ok h
    obtain ⟨_, _, hgiven, -, rfl⟩ := both_eq_ok hclosed
    exact ⟨entries, checked, rfl, rfl, hgiven⟩
  | _ => cases h

theorem entry?_checkFields_of_notMem {fields : List (String × Shape)} {name : String}
    {entries checked : List (Value × Value)} (hname : name ∉ fields.map Prod.fst)
    (h : checkFields fields entries = .ok checked) : Value.entry? name checked = none := by
  induction fields generalizing checked with
  | nil =>
    cases h
    rfl
  | cons field rest ih =>
    obtain ⟨first, shape⟩ := field
    rw [List.map_cons, List.mem_cons, not_or] at hname
    rw [checkFields] at h
    cases hfirst : Value.entry? first entries with
    | none =>
      rw [hfirst] at h
      exact ih hname.2 h
    | some v =>
      rw [hfirst] at h
      obtain ⟨w, others, -, hothers, rfl⟩ := both_eq_ok h
      rw [Value.entry?, if_neg (Ne.symm hname.1)]
      exact ih hname.2 hothers

/-- A field is there after checking exactly if it was given, with its value checked. -/
theorem entry?_checkFields {fields : List (String × Shape)} (hnodup : (fields.map Prod.fst).Nodup)
    {entries checked : List (Value × Value)} (h : checkFields fields entries = .ok checked)
    {name : String} {shape : Shape} (hfield : (name, shape) ∈ fields) :
    (Value.entry? name entries = none ∧ Value.entry? name checked = none) ∨
      ∃ v w, Value.entry? name entries = some v ∧ shape.check v = .ok w ∧
        Value.entry? name checked = some w := by
  induction fields generalizing checked with
  | nil => cases hfield
  | cons field rest ih =>
    obtain ⟨first, firstShape⟩ := field
    obtain ⟨hfirst, hrest⟩ := List.nodup_cons.mp hnodup
    rw [checkFields] at h
    rcases List.mem_cons.mp hfield with heq | hmem
    · cases heq
      cases hgiven : Value.entry? name entries with
      | none =>
        rw [hgiven] at h
        exact Or.inl ⟨rfl, entry?_checkFields_of_notMem hfirst h⟩
      | some v =>
        rw [hgiven] at h
        obtain ⟨w, others, hw, -, rfl⟩ := both_eq_ok h
        exact Or.inr ⟨v, w, rfl, under_eq_ok hw, by rw [Value.entry?, if_pos rfl]⟩
    · have hne : first ≠ name := by
        rintro rfl
        exact hfirst (List.mem_map.mpr ⟨_, hmem, rfl⟩)
      cases hgiven : Value.entry? first entries with
      | none =>
        rw [hgiven] at h
        exact ih hrest h hmem
      | some v =>
        rw [hgiven] at h
        obtain ⟨w, others, -, hothers, rfl⟩ := both_eq_ok h
        rw [Value.entry?, if_neg hne]
        exact ih hrest hothers hmem

/-- Shapes that keep values keep what is found of a JSON object. -/
theorem entry?_checkFields_of_keeps {fields : List (String × Shape)}
    (hnodup : (fields.map Prod.fst).Nodup) {entries checked : List (Value × Value)}
    (hjson : (Value.dict entries).IsJson) (h : checkFields fields entries = .ok checked)
    {name : String} {shape : Shape} (hfield : (name, shape) ∈ fields) (hkeeps : Keeps shape) :
    Value.entry? name checked = Value.entry? name entries := by
  rcases entry?_checkFields hnodup h hfield with ⟨hnone, hnone'⟩ | ⟨v, w, hv, hcheck, hw⟩
  · rw [hnone, hnone']
  · rw [hv, hw, hkeeps v w (hjson.of_lookup hv) hcheck]

/-- The fields of a record. -/
def fields : Shape → List (String × Shape)
  | record fields => fields
  | _ => []

/-- Once its conditions are unfolded, a checked record of fields that are kept is read as the
object it was given as. -/
theorem unfolded_record {fields : List (String × Shape)}
    (hnodup : (fields.map Prod.fst).Nodup) (hkeeps : ∀ field ∈ fields, Keeps field.2)
    {v w : Value} (hv : v.IsJson) (h : (record fields).check v = .ok w) :
    ∃ entries unfolded, v = .dict entries ∧ w.unfolded = .dict unfolded ∧ w ≠ .null ∧
      ∀ name ∈ fields.map Prod.fst,
        Value.entry? name unfolded = Value.entry? name entries := by
  obtain ⟨entries, checked, rfl, rfl, hfields⟩ := check_record_eq_ok h
  refine ⟨entries, Value.unfoldedEntries checked, rfl, rfl, by simp, ?_⟩
  intro name hname
  obtain ⟨field, hfield, rfl⟩ := List.mem_map.mp hname
  rw [Value.entry?_unfoldedEntries,
    entry?_checkFields_of_keeps hnodup hv hfields hfield (hkeeps field hfield)]
  cases hlookup : Value.entry? field.1 entries with
  | none => rfl
  | some u => rw [Option.map_some, (hv.of_lookup hlookup).unfolded_eq]

end Shape

end Schema

end SqlDraft
