/-!
Finite maps that remember the order in which their keys first arrived. Writing to a
present key changes its value and keeps its place; a new key goes to the end.
-/
namespace SqlDraft

variable {κ α : Type}

structure OrderedMap (κ α : Type) where
  entries : List (κ × α)
  nodup : (entries.map Prod.fst).Nodup

namespace OrderedMap

def empty : OrderedMap κ α := ⟨[], List.nodup_nil⟩

instance : EmptyCollection (OrderedMap κ α) := ⟨empty⟩

instance : Inhabited (OrderedMap κ α) := ⟨empty⟩

def keys (m : OrderedMap κ α) : List κ := m.entries.map Prod.fst

def size (m : OrderedMap κ α) : Nat := m.entries.length

variable [DecidableEq κ]

def lookup (k : κ) : List (κ × α) → Option α
  | [] => none
  | (k', a) :: rest => if k' = k then some a else lookup k rest

def write (k : κ) (a : α) : List (κ × α) → List (κ × α)
  | [] => [(k, a)]
  | (k', b) :: rest => if k' = k then (k', a) :: rest else (k', b) :: write k a rest

theorem keys_write (k : κ) (a : α) (l : List (κ × α)) :
    (write k a l).map Prod.fst =
      if k ∈ l.map Prod.fst then l.map Prod.fst else l.map Prod.fst ++ [k] := by
  induction l with
  | nil => simp [write]
  | cons e rest ih =>
    obtain ⟨k', b⟩ := e
    by_cases h : k' = k
    · simp [write, h]
    · have h' : ¬k = k' := fun he => h he.symm
      simp only [write, h, if_false, List.map_cons, ih, List.mem_cons, h', false_or]
      split <;> simp

theorem nodup_write (k : κ) (a : α) (l : List (κ × α)) (h : (l.map Prod.fst).Nodup) :
    ((write k a l).map Prod.fst).Nodup := by
  rw [keys_write]
  split
  · exact h
  · next hk =>
    refine List.nodup_append.mpr ⟨h, by simp, ?_⟩
    intro x hx y hy he
    simp only [List.mem_singleton] at hy
    exact hk (hy ▸ he ▸ hx)

def get? (m : OrderedMap κ α) (k : κ) : Option α := lookup k m.entries

def contains (m : OrderedMap κ α) (k : κ) : Bool := (m.get? k).isSome

def insert (m : OrderedMap κ α) (k : κ) (a : α) : OrderedMap κ α :=
  ⟨write k a m.entries, nodup_write k a m.entries m.nodup⟩

def erase (m : OrderedMap κ α) (k : κ) : OrderedMap κ α :=
  ⟨m.entries.filter fun e => e.1 ≠ k,
    List.Nodup.sublist (List.Sublist.map _ List.filter_sublist) m.nodup⟩

def ofList (l : List (κ × α)) : OrderedMap κ α :=
  l.foldl (fun m e => m.insert e.1 e.2) empty

theorem keys_insert (m : OrderedMap κ α) (k : κ) (a : α) :
    (m.insert k a).keys = if k ∈ m.keys then m.keys else m.keys ++ [k] :=
  keys_write k a m.entries

theorem lookup_write_self (k : κ) (a : α) (l : List (κ × α)) :
    lookup k (write k a l) = some a := by
  induction l with
  | nil => simp [write, lookup]
  | cons e rest ih => by_cases h : e.1 = k <;> simp [write, lookup, h, ih]

theorem lookup_write_of_ne {k k' : κ} (h : k' ≠ k) (a : α) (l : List (κ × α)) :
    lookup k' (write k a l) = lookup k' l := by
  induction l with
  | nil => simp [write, lookup, h.symm]
  | cons e rest ih =>
    by_cases he : e.1 = k
    · simp [write, lookup, he, h.symm]
    · by_cases hk : e.1 = k' <;> simp [write, lookup, he, hk, h, ih]

@[simp] theorem get?_insert_self (m : OrderedMap κ α) (k : κ) (a : α) :
    (m.insert k a).get? k = some a :=
  lookup_write_self k a m.entries

theorem get?_insert_of_ne (m : OrderedMap κ α) {k k' : κ} (h : k' ≠ k) (a : α) :
    (m.insert k a).get? k' = m.get? k' :=
  lookup_write_of_ne h a m.entries

theorem lookup_of_notMem {k : κ} {l : List (κ × α)} (h : k ∉ l.map Prod.fst) :
    lookup k l = none := by
  induction l with
  | nil => rfl
  | cons e rest ih =>
    simp only [List.map_cons, List.mem_cons, not_or] at h
    simp only [lookup, if_neg (Ne.symm h.1), ih h.2]

theorem lookup_eq_some_iff {k : κ} {a : α} {l : List (κ × α)} (h : (l.map Prod.fst).Nodup) :
    lookup k l = some a ↔ (k, a) ∈ l := by
  induction l with
  | nil => simp [lookup]
  | cons e rest ih =>
    obtain ⟨k', b⟩ := e
    obtain ⟨hk', hrest⟩ := List.nodup_cons.mp h
    by_cases he : k' = k
    · subst he
      have hnot : (k', a) ∉ rest := fun hmem => hk' (List.mem_map.mpr ⟨_, hmem, rfl⟩)
      simp [lookup, hnot, eq_comm]
    · simp [lookup, he, Ne.symm he, ih hrest]

theorem get?_of_notMem_keys {m : OrderedMap κ α} {k : κ} (h : k ∉ m.keys) : m.get? k = none :=
  lookup_of_notMem h

theorem get?_eq_some_iff (m : OrderedMap κ α) (k : κ) (a : α) :
    m.get? k = some a ↔ (k, a) ∈ m.entries :=
  lookup_eq_some_iff m.nodup

end OrderedMap

end SqlDraft
