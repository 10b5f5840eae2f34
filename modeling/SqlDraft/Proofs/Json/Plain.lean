import SqlDraft.Json.Reader
import SqlDraft.Value.Unfolding

/-!
Values that a JSON text can give: no octets, tuples, decimals or conditions, and only texts, each
of them once, as the names of an object. Whatever the reader accepts is one of them.
-/
namespace SqlDraft

/-- The entries of a JSON object. -/
def OrderedMap.toEntries (members : OrderedMap String Value) : List (Value × Value) :=
  members.entries.map fun m => (.text m.1, m.2)

/-- Values of JSON texts. -/
inductive Value.IsJson : Value → Prop where
  | null : IsJson .null
  | bool (b : Bool) : IsJson (.bool b)
  | int (n : Int) : IsJson (.int n)
  | float (x : Double) : IsJson (.float x)
  | text (s : String) : IsJson (.text s)
  | list (items : List Value) : (∀ v ∈ items, IsJson v) → IsJson (.list items)
  | dict (members : OrderedMap String Value) : (∀ m ∈ members.entries, IsJson m.2) →
      IsJson (.dict members.toEntries)

namespace Value

theorem unfoldedAll_eq {items : List Value} (h : ∀ v ∈ items, v.unfolded = v) :
    unfoldedAll items = items := by
  induction items with
  | nil => rfl
  | cons v rest ih =>
    rw [unfoldedAll, h v List.mem_cons_self, ih fun w hw => h w (List.mem_cons_of_mem v hw)]

theorem unfoldedEntries_eq {entries : List (Value × Value)}
    (h : ∀ e ∈ entries, e.2.unfolded = e.2) : unfoldedEntries entries = entries := by
  induction entries with
  | nil => rfl
  | cons e rest ih =>
    rw [unfoldedEntries, h e List.mem_cons_self, ih fun f hf => h f (List.mem_cons_of_mem e hf)]

/-- JSON has no conditions to unfold. -/
theorem IsJson.unfolded_eq {v : Value} (h : v.IsJson) : v.unfolded = v := by
  induction h with
  | list items _ ih => rw [unfolded, unfoldedAll_eq ih]
  | dict members _ ih =>
    rw [unfolded, unfoldedEntries_eq]
    intro e he
    obtain ⟨m, hm, rfl⟩ := List.mem_map.mp he
    exact ih m hm
  | _ => rfl

end Value

theorem OrderedMap.mem_write {κ α : Type} [DecidableEq κ] {k : κ} {a : α} {l : List (κ × α)}
    {e : κ × α} (h : e ∈ write k a l) : e.2 = a ∨ e ∈ l := by
  induction l with
  | nil =>
    rw [write, List.mem_singleton] at h
    exact Or.inl (congrArg Prod.snd h)
  | cons first rest ih =>
    rw [write] at h
    split at h
    · rcases List.mem_cons.mp h with rfl | h
      · exact Or.inl rfl
      · exact Or.inr (List.mem_cons_of_mem _ h)
    · rcases List.mem_cons.mp h with rfl | h
      · exact Or.inr List.mem_cons_self
      · exact (ih h).imp_right (List.mem_cons_of_mem _)

namespace Json

open Value

/-- A number is whole, or a double once there is a fraction or a power. -/
theorem readNumber_isJson {c next : Cursor} {v : Value} (h : readNumber c = .ok (v, next)) :
    v.IsJson := by
  unfold readNumber at h
  dsimp only at h
  repeat' split at h
  all_goals cases h
  all_goals first | exact .int _ | exact .float _

theorem readScalar_isJson {c next : Cursor} {v : Value} (h : readScalar c = .ok (v, next)) :
    v.IsJson := by
  unfold readScalar at h
  split at h
  · next l hl =>
    cases h
    have hmem := List.mem_of_find?_eq_some hl
    simp only [literals, List.mem_cons, List.not_mem_nil, or_false] at hmem
    rcases hmem with rfl | rfl | rfl | rfl | rfl | rfl
    · exact .null
    · exact .bool true
    · exact .bool false
    · exact .float _
    · exact .float _
    · exact .float _
  · exact readNumber_isJson h

theorem bind_eq_ok {ε α β : Type} {c : Except ε α} {f : α → Except ε β} {b : β}
    (h : (c >>= f) = .ok b) : ∃ a, c = .ok a ∧ f a = .ok b := by
  cases c with
  | error e => cases h
  | ok a => exact ⟨a, rfl, h⟩

/-- What the readers of values, items and members give is JSON, by induction on the fuel. -/
theorem readers_isJson (fuel : Nat) :
    (∀ c v next, readValue fuel c = .ok (v, next) → v.IsJson) ∧
    (∀ c items next, readItems fuel c = .ok (items, next) → ∀ v ∈ items, v.IsJson) ∧
    (∀ given c (members : OrderedMap String Value) next,
      (∀ m ∈ given.entries, m.2.IsJson) → readMembers fuel given c = .ok (members, next) →
      ∀ m ∈ members.entries, m.2.IsJson) := by
  induction fuel with
  | zero =>
    refine ⟨fun c v next h => ?_, fun c items next h => ?_, fun given c members next _ h => ?_⟩
    · simp [readValue, fail] at h
    · simp [readItems, fail] at h
    · simp [readMembers, fail] at h
  | succ fuel ih =>
    obtain ⟨ihvalue, ihitems, ihmembers⟩ := ih
    refine ⟨fun c v next h => ?_, fun c items next h => ?_, fun given c members next hgiven h => ?_⟩
    · rw [readValue] at h
      split at h
      · obtain ⟨⟨chars, after⟩, -, h⟩ := bind_eq_ok h
        cases h
        exact .text _
      · simp only at h
        split at h
        · cases h
          exact .list [] (by simp)
        · obtain ⟨⟨items, after⟩, hitems, h⟩ := bind_eq_ok h
          cases h
          exact .list items (ihitems _ items after hitems)
      · simp only at h
        split at h
        · cases h
          exact .dict ∅ (by simp [EmptyCollection.emptyCollection, OrderedMap.empty])
        · obtain ⟨⟨members, after⟩, hmembers, h⟩ := bind_eq_ok h
          cases h
          refine .dict members (ihmembers ∅ _ members after ?_ hmembers)
          simp [EmptyCollection.emptyCollection, OrderedMap.empty]
      · exact readScalar_isJson h
    · rw [readItems] at h
      obtain ⟨⟨item, after⟩, hitem, h⟩ := bind_eq_ok h
      have hfirst : item.IsJson := ihvalue c item after hitem
      simp only at h
      split at h
      · cases h
        intro v hv
        exact List.mem_singleton.mp hv ▸ hfirst
      · obtain ⟨⟨others, last⟩, hothers, h⟩ := bind_eq_ok h
        cases h
        intro v hv
        rcases List.mem_cons.mp hv with rfl | hv
        · exact hfirst
        · exact ihitems _ others last hothers v hv
      · cases h
    · rw [readMembers] at h
      split at h
      · obtain ⟨⟨name, colon⟩, -, h⟩ := bind_eq_ok h
        simp only at h
        split at h
        · obtain ⟨⟨value, after⟩, hvalue, h⟩ := bind_eq_ok h
          have hfirst : value.IsJson := ihvalue _ value after hvalue
          have hinsert : ∀ m ∈ (given.insert (String.ofList name) value).entries, m.2.IsJson := by
            intro m hm
            rcases OrderedMap.mem_write hm with heq | hm
            · exact heq ▸ hfirst
            · exact hgiven m hm
          simp only at h
          split at h
          · cases h
            exact hinsert
          · exact ihmembers _ _ members next hinsert h
          · cases h
        · cases h
      · cases h

theorem readAll_isJson {text : List Char} {v : Value} (h : readAll text = .ok v) : v.IsJson := by
  obtain ⟨⟨value, next⟩, hvalue, h⟩ := bind_eq_ok h
  simp only at h
  split at h
  · cases h
    exact (readers_isJson _).1 _ v next hvalue
  · cases h

theorem readChars_isJson {text : List Char} {v : Value} (h : readChars text = .ok v) :
    v.IsJson := by
  unfold readChars at h
  split at h
  · next value hvalue =>
    cases h
    exact readAll_isJson hvalue
  · cases h
  · cases h

/-- What is read from a text is JSON. -/
theorem read_isJson {text : String} {v : Value} (h : read text = .ok v) : v.IsJson := by
  unfold read at h
  split at h
  · cases h
  · exact readChars_isJson h

theorem readOctets_isJson {bytes : List UInt8} {v : Value} (h : readOctets bytes = .ok v) :
    v.IsJson := by
  unfold readOctets at h
  split at h
  · exact readChars_isJson h
  · cases h

end Json

end SqlDraft
