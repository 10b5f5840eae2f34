import Mathlib.Data.List.Induction
import SqlDraft.Proofs.Numerals
import SqlDraft.Proofs.Execution

/-!
Parameters as the writes that put them there. Each merge is a list of writes to addresses, and the
value at an address is that of the last write to it, over all merges. A placeholder whose name is
made of digits reads the address that the same digits have as a key: such names are never stored as
names, so it makes no difference that a placeholder looks for its name first.
-/
namespace SqlDraft

open Text

namespace Address

/-- The slot of its number for a text of digits, and the name itself for any other. -/
def spelled (s : String) : Address :=
  if s ≠ "" ∧ s.toList.all isDigit then .slot (Numeral.value s.toList) else .name s

def keyed : Value → Address
  | .int n => .slot n
  | .text s => spelled s
  | v => .name v.asText

def name? : Address → Option String
  | .slot _ => none
  | .name s => some s

theorem spelled_eq_name_iff {s name : String} :
    spelled s = .name name ↔ s = name ∧ ¬(name ≠ "" ∧ name.toList.all isDigit) := by
  unfold spelled
  split
  · next hdigits =>
    refine ⟨nofun, ?_⟩
    rintro ⟨rfl, hnot⟩
    exact absurd hdigits hnot
  · next hdigits =>
    constructor
    · rintro ⟨⟩
      exact ⟨rfl, hdigits⟩
    · rintro ⟨rfl, -⟩
      rfl

/-- A key that can be read has its address. -/
theorem keyed_of_ofKey {key : Value} {a : Address} (h : ofKey key = .ok a) : a = keyed key := by
  have hname (hwrite : key.write.map name = .ok a) : a = .name key.asText := by
    cases htext : key.write with
    | error fault =>
      rw [htext] at hwrite
      cases hwrite
    | ok text =>
      rw [htext] at hwrite
      cases hwrite
      rw [(Value.write_ok_iff.mp htext).2]
  cases key with
  | int n =>
    cases h
    rfl
  | text s =>
    simp only [ofKey, ofText] at h
    change a = spelled s
    unfold spelled
    split at h
    · next hdigits =>
      rw [if_pos hdigits]
      cases hread : Numeral.readDigits s with
      | error fault =>
        rw [hread] at h
        cases h
      | ok n =>
        rw [hread] at h
        cases h
        rw [((Numeral.readDigits_eq_ok_iff s n).mp hread).2.2]
    · next hdigits =>
      rw [if_neg hdigits]
      cases h
      rfl
  | _ => exact hname h

end Address

namespace Value

def isKey : Value → Bool
  | int _ => true
  | text _ => true
  | _ => false

/-- Whether the keys, if there are any, are whole numbers and texts. -/
def isKeyed : Value → Bool
  | dict entries => entries.all fun e => e.1.isKey
  | _ => true

end Value

/-- A value and where it is written to. -/
abbrev Write := Address × Value

/-- The value that was written last to an address. -/
def lastWrite (a : Address) (writes : List Write) : Option Value :=
  (writes.filter fun w => w.1 = a).getLast?.map Prod.snd

/-- The names among the addresses, each once and in the order of its first write. -/
def writtenNames (writes : List Write) : List String :=
  (writes.filterMap fun w => w.1.name?).eraseDups

theorem lastWrite_concat (a : Address) (writes : List Write) (w : Write) :
    lastWrite a (writes ++ [w]) = if w.1 = a then some w.2 else lastWrite a writes := by
  unfold lastWrite
  rw [List.filter_append]
  by_cases h : w.1 = a <;> simp [h]

theorem writtenNames_concat (writes : List Write) (w : Write) :
    writtenNames (writes ++ [w]) = match w.1.name? with
      | none => writtenNames writes
      | some s =>
        if s ∈ writtenNames writes then writtenNames writes else writtenNames writes ++ [s] := by
  unfold writtenNames
  rw [List.filterMap_append]
  cases hname : w.1.name? with
  | none => simp [hname]
  | some s =>
    have hlast : [w].filterMap (fun w => w.1.name?) = [s] := by simp [hname]
    rw [hlast, List.eraseDups_append]
    by_cases hs : s ∈ (writes.filterMap fun w => w.1.name?)
    · simp [List.removeAll, hs]
    · simp [List.removeAll, hs, List.eraseDups_cons]

namespace Params

/-- The writes of a merge: those of the entries of a mapping, or one for each slot in turn. -/
def writes : Value → List Write
  | .dict entries => entries.map fun e => (Address.keyed e.1, e.2)
  | v => (v.elements?.getD []).zipIdx.map fun e => (.slot e.2, e.1)

def writeAll (p : Params) (writes : List Write) : Params :=
  writes.foldl (fun p w => p.write w.1 w.2) p

/-- Merges one after the other, none of which fails. -/
inductive Merged : Params → List Value → Params → Prop where
  | nil (p : Params) : Merged p [] p
  | cons {p q r : Params} {v : Value} {rest : List Value} : p.merge v = (q, none) →
      Merged q rest r → Merged p (v :: rest) r

theorem writeAll_append (p : Params) (front back : List Write) :
    p.writeAll (front ++ back) = (p.writeAll front).writeAll back :=
  List.foldl_append

theorem get?_write (p : Params) (a b : Address) (v : Value) :
    (p.write a v).get? b = if a = b then some v else p.get? b := by
  cases a with
  | slot n =>
    cases b with
    | slot m =>
      by_cases h : n = m
      · simp [write, get?, h]
      · simp [write, get?, h, OrderedMap.get?_insert_of_ne _ (Ne.symm h)]
    | name s => simp [write, get?]
  | name s =>
    cases b with
    | slot m => simp [write, get?]
    | name t =>
      by_cases h : s = t
      · simp [write, get?, h]
      · simp [write, get?, h, OrderedMap.get?_insert_of_ne _ (Ne.symm h)]

/-- What a store holds at an address is what was last written there. -/
theorem get?_writeAll (writes : List Write) (a : Address) :
    (empty.writeAll writes).get? a = lastWrite a writes := by
  induction writes using List.reverseRecOn with
  | nil => cases a <;> rfl
  | append_singleton front w ih =>
    have hlast : empty.writeAll (front ++ [w]) = (empty.writeAll front).write w.1 w.2 :=
      writeAll_append empty front [w]
    rw [hlast, get?_write, lastWrite_concat, ih]

theorem names_write (p : Params) (a : Address) (v : Value) :
    (p.write a v).names.keys = match a.name? with
      | none => p.names.keys
      | some s => if s ∈ p.names.keys then p.names.keys else p.names.keys ++ [s] := by
  cases a with
  | slot n => rfl
  | name s => exact p.names.keys_insert s v

theorem names_writeAll (writes : List Write) :
    (empty.writeAll writes).names.keys = writtenNames writes := by
  induction writes using List.reverseRecOn with
  | nil => rfl
  | append_singleton front w ih =>
    have hlast : empty.writeAll (front ++ [w]) = (empty.writeAll front).write w.1 w.2 :=
      writeAll_append empty front [w]
    rw [hlast, names_write, writtenNames_concat, ih]

theorem mergeSequence_eq (p : Params) (n : Nat) (items : List Value) :
    p.mergeSequence n items = p.writeAll ((items.zipIdx n).map fun e => (.slot e.2, e.1)) := by
  induction items generalizing p n with
  | nil => rfl
  | cons v rest ih => exact ih (p.write (.slot n) v) (n + 1)

theorem mergeMapping_eq {p q : Params} {entries : List (Value × Value)}
    (h : p.mergeMapping entries = (q, none)) :
    q = p.writeAll (entries.map fun e => (Address.keyed e.1, e.2)) := by
  induction entries generalizing p with
  | nil =>
    cases h
    rfl
  | cons e rest ih =>
    obtain ⟨key, v⟩ := e
    rw [mergeMapping] at h
    cases hkey : Address.ofKey key with
    | error fault =>
      rw [hkey] at h
      cases h
    | ok a =>
      rw [hkey] at h
      rw [ih h, Address.keyed_of_ofKey hkey]
      rfl

/-- A merge that succeeds is its writes. -/
theorem merge_eq {p q : Params} {v : Value} (h : p.merge v = (q, none)) :
    q = p.writeAll (writes v) := by
  have hsequence (items : List Value) (hitems : v.elements? = some items)
      (hwrites : writes v = (v.elements?.getD []).zipIdx.map fun e => (.slot e.2, e.1))
      (hq : p.mergeSequence 0 items = q) : q = p.writeAll (writes v) := by
    rw [← hq, mergeSequence_eq, hwrites, hitems]
    rfl
  cases v with
  | dict entries => exact mergeMapping_eq h
  | _ =>
    unfold merge at h
    cases h
    all_goals exact hsequence _ rfl rfl rfl

theorem Merged.eq_writeAll {p q : Params} {values : List Value} (h : Merged p values q) :
    q = p.writeAll (values.flatMap writes) := by
  induction h with
  | nil p => rfl
  | cons hmerge _ ih => rw [ih, merge_eq hmerge, List.flatMap_cons, writeAll_append]

/-- Keys that are whole numbers or texts never write to a name of digits. -/
theorem not_digits_of_mem_writes {v : Value} (hkeyed : v.isKeyed) {w : Write} (hw : w ∈ writes v)
    {name : String} (hname : w.1 = .name name) : ¬(name ≠ "" ∧ name.toList.all isDigit) := by
  have hsequence (hmem : w ∈ (v.elements?.getD []).zipIdx.map
      fun e => ((.slot e.2, e.1) : Write)) : False := by
    obtain ⟨e, -, rfl⟩ := List.mem_map.mp hmem
    cases hname
  cases v with
  | dict entries =>
    obtain ⟨e, he, rfl⟩ := List.mem_map.mp hw
    have hkey := List.all_eq_true.mp hkeyed e he
    obtain ⟨key, v⟩ := e
    cases key with
    | int n => cases hname
    | text s => exact (Address.spelled_eq_name_iff.mp hname).2
    | _ => cases hkey
  | _ => exact (hsequence hw).elim

theorem Merged.not_digits_of_mem_names {p : Params} {values : List Value}
    (h : Merged empty values p) (hkeyed : ∀ v ∈ values, v.isKeyed) {name : String}
    (hname : name ∈ p.names.keys) : ¬(name ≠ "" ∧ name.toList.all isDigit) := by
  rw [h.eq_writeAll, names_writeAll, writtenNames, List.mem_eraseDups, List.mem_filterMap] at hname
  obtain ⟨w, hw, hname⟩ := hname
  obtain ⟨v, hv, hw⟩ := List.mem_flatMap.mp hw
  refine not_digits_of_mem_writes (hkeyed v hv) hw ?_
  obtain ⟨_ | s, value⟩ := w
  · cases hname
  · cases hname
    rfl

/-- A placeholder reads the address that its name has as a key. -/
theorem Merged.supplied?_eq {p : Params} {values : List Value} (h : Merged empty values p)
    (hkeyed : ∀ v ∈ values, v.isKeyed) {name : String} (hne : name ≠ "")
    (hname : name.toList.all isNameChar) : p.supplied? name = p.get? (.spelled name) := by
  have hdigits := all_isDigit_of_isNameChar hname
  unfold supplied? Address.spelled
  by_cases hall : name.toList.all Char.isDigit
  · -- No name is made of digits, so looking for one first finds nothing.
    have hfree : p.get? (.name name) = none := by
      refine OrderedMap.get?_of_notMem_keys fun hmem => ?_
      exact h.not_digits_of_mem_names hkeyed hmem ⟨hne, hdigits.trans hall⟩
    rw [hfree, if_pos hall, if_pos ⟨hne, hdigits.trans hall⟩]
  · rw [if_neg hall, if_neg fun hnot => hall (hdigits ▸ hnot.2)]
    cases p.get? (.name name) <;> rfl

end Params

/-- After merges that succeed, a named placeholder is the literal of what was last written to the
address of its name and moves no cursor, and a positional one that of what was last written to the
slot at the cursor. Only names that are no digits are stored as names, in the order of their first
write. -/
theorem Operand.resolve_lastWrite (scope : Scope) (values : List Value)
    (hkeyed : ∀ v ∈ values, v.isKeyed) (hmerged : Params.Merged .empty values scope.params) :
    (∀ name, name ≠ "" → name.toList.all isNameChar →
      (name.toList.all Char.isDigit → name.length ≤ Numeral.digitLimit) → ∀ force p,
        (resolve scope (.text ("?:" ++ name)) force).exec p =
          match lastWrite (.spelled name) (values.flatMap Params.writes) with
          | some v => (renderLiteral v force).exec p
          | none => (.ok (identifier scope (.text ("?:" ++ name)) force), p)) ∧
    (∀ force p, (resolve scope (.text "?") force).exec p =
      match lastWrite (.slot p.cursor) (values.flatMap Params.writes) with
      | some v => (renderLiteral v force).exec { p with cursor := p.cursor + 1 }
      | none =>
        if scope.strict then (.error (.missingParameter p.cursor), p)
        else (.ok (identifier scope (.text "?") force),
          { p with notices := p.notices ++ [.unresolved p.cursor] })) ∧
    (∀ name ∈ scope.params.names.keys, ¬(name ≠ "" ∧ name.toList.all isDigit)) ∧
    scope.params.names.keys = writtenNames (values.flatMap Params.writes) := by
  have hstore := hmerged.eq_writeAll
  have hget (a : Address) :
      scope.params.get? a = lastWrite a (values.flatMap Params.writes) := by
    rw [hstore, Params.get?_writeAll]
  refine ⟨?_, ?_, fun name hname => hmerged.not_digits_of_mem_names hkeyed hname, ?_⟩
  · intro name hne hname hlength force p
    have htoken : Token.ofValue (.text ("?:" ++ name)) = .named name :=
      (Token.ofValue_eq_named_iff _ name).mpr ⟨rfl, hne, hname⟩
    have hpositional : Value.text ("?:" ++ name) ≠ .text "?" := by
      intro heq
      rw [heq] at htoken
      cases htoken
    rw [exec_resolve_of_ne scope hpositional, lookup_named scope htoken, ← hget,
      ← hmerged.supplied?_eq hkeyed hne hname]
    cases hvalue : namedValue? scope.params name with
    | error fault =>
      obtain ⟨-, hdigits, hlong, -⟩ := (namedValue?_error_iff hname fault).mp hvalue
      exact absurd (hlength hdigits) (Nat.not_le.mpr hlong)
    | ok v? =>
      rw [← namedValue?_eq_ok hname hvalue]
      cases v? with
      | none => rfl
      | some v => exact (exec_renderLiteral v force p).symm
  · intro force p
    rw [exec_resolve_positional, hget]
    cases lastWrite (.slot p.cursor) (values.flatMap Params.writes) with
    | none => rfl
    | some v => exact (exec_renderLiteral v force _).symm
  · rw [hstore, Params.names_writeAll]

/-- Slots written by a list, by a whole number and by digits with zeros in front, and names. -/
theorem Operand.resolve_lastWrite_mixed :
    let first : Value := .list [.int 1, .int 2]
    let second : Value := .dict [(.text "b", .int 3), (.text "001", .text "x"), (.text "a", .int 1)]
    let third : Value := .dict [(.text "a", .null), (.int 0, .text "y")]
    let scope : Scope :=
      ⟨false, .empty, (((Params.empty.merge first).1.merge second).1.merge third).1⟩
    (∀ v ∈ [first, second, third], v.isKeyed) ∧
      Params.Merged .empty [first, second, third] scope.params ∧
      (resolve scope (.text "?:1") false).exec .start = (.ok (literal (.text "x") false), .start) ∧
      (resolve scope (.text "?:00") false).exec .start = (.ok (literal (.text "y") false), .start) ∧
      (resolve scope (.text "?:a") true).exec .start = (.ok (literal .null true), .start) ∧
      (resolve scope (.text "?") false).exec .start = (.ok (literal (.text "y") false), ⟨1, []⟩) ∧
      scope.params.names.keys = ["b", "a"] := by
  intro first second third scope
  have hkeyed : ∀ v ∈ [first, second, third], v.isKeyed := by
    simp [first, second, third, Value.isKeyed, Value.isKey]
  have hmerged : Params.Merged .empty [first, second, third] scope.params :=
    .cons rfl (.cons rfl (.cons rfl (.nil _)))
  obtain ⟨hnamed, hpositional, -, hnames⟩ :=
    resolve_lastWrite scope [first, second, third] hkeyed hmerged
  refine ⟨hkeyed, hmerged, ?_, ?_, ?_, ?_, hnames⟩
  · exact hnamed "1" (by decide) (by decide) (by decide) false .start
  · exact hnamed "00" (by decide) (by decide) (by decide) false .start
  · exact hnamed "a" (by decide) (by decide) (by decide) true .start
  · exact hpositional false .start

end SqlDraft
