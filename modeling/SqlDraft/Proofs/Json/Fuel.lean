import SqlDraft.Proofs.Json.Unreadable

/-!
The fuel that reading a text starts with is enough. Two supplies that cover what is left to read
give the same value or the same stop, so more fuel changes nothing. A value needs two units for each
character before it and one more, and items a unit above that, for they hand the same characters to
the reader of values. What a reader hands on behind a bracket, a comma or a colon is shorter.
-/
namespace SqlDraft.Json

/-- Behind one character and the blanks after it less is left. -/
theorem length_behind {c : Cursor} {d : Char} {rest : List Char} (h : c.rest = d :: rest) :
    (c.drop 1).skipBlanks.rest.length < c.rest.length := by
  have hblanks : (c.drop 1).skipBlanks.rest.length ≤ (c.drop 1).rest.length :=
    (suffix_skipBlanks _).length_le
  have hdrop : (c.drop 1).rest.length = rest.length := by
    simp only [Cursor.drop, h, List.drop_succ_cons, List.drop_zero]
  rw [h, List.length_cons]
  omega

namespace Reads

/-- Behind two readers that do the same it matters only what is done where they leave off. -/
theorem bind_congr {α β : Type} {text : List Char} {m m' : Except Stop (α × Cursor)}
    {f f' : α × Cursor → Except Stop (β × Cursor)} (hm : Reads text m) (hsame : m = m')
    (hf : ∀ a next, next.rest <:+ text → f (a, next) = f' (a, next)) :
    m >>= f = m' >>= f' := by
  subst hsame
  cases hm with
  | ok hnext => exact hf _ _ hnext
  | stop hstop => rfl

end Reads

/-- A text needs a unit for each character and one more. -/
theorem readText_enough (start : Nat) {k l : Nat} {c : Cursor} (hk : c.rest.length < k)
    (hl : c.rest.length < l) : readText start k c = readText start l c := by
  induction k generalizing l c with
  | zero => exact absurd hk (Nat.not_lt_zero _)
  | succ k ih =>
    obtain ⟨l, rfl⟩ := Nat.exists_eq_add_one_of_ne_zero (Nat.ne_zero_of_lt hl)
    rw [readText, readText]
    split
    · rfl
    · rfl
    · rfl
    · next rest hrest =>
      have hlength : (c.drop 2).rest.length + 2 = c.rest.length := by simp [Cursor.drop, hrest]
      refine (reads_unicodeEscape (c.drop 2)).bind_congr rfl ?_
      intro char next hnext
      have hle := hnext.length_le
      dsimp only
      rw [ih (l := l) (c := next) (by omega) (by omega)]
    · next e rest hne hrest =>
      have hlength : (c.drop 2).rest.length + 2 = c.rest.length := by simp [Cursor.drop, hrest]
      rw [ih (l := l) (c := c.drop 2) (by omega) (by omega)]
    · next char rest hne hlone hunicode hescape hrest =>
      have hlength : (c.drop 1).rest.length + 1 = c.rest.length := by simp [Cursor.drop, hrest]
      rw [ih (l := l) (c := c.drop 1) (by omega) (by omega)]

/-- Wherever both supplies cover what is left, the reader of values does the same with either. -/
def ValueAgrees (k l : Nat) : Prop :=
  ∀ c : Cursor, 2 * c.rest.length + 1 ≤ k → 2 * c.rest.length + 1 ≤ l →
    readValue k c = readValue l c

def ItemsAgree (k l : Nat) : Prop :=
  ∀ c : Cursor, 2 * c.rest.length + 2 ≤ k → 2 * c.rest.length + 2 ≤ l →
    readItems k c = readItems l c

def MembersAgree (k l : Nat) : Prop :=
  ∀ members (c : Cursor), 2 * c.rest.length + 1 ≤ k → 2 * c.rest.length + 1 ≤ l →
    readMembers k members c = readMembers l members c

section

variable {k l : Nat}

theorem valueAgrees_succ (hitems : ItemsAgree k l) (hmembers : MembersAgree k l) :
    ValueAgrees (k + 1) (l + 1) := by
  intro c hk hl
  rw [readValue, readValue]
  split
  · rfl
  · next rest hrest =>
    have hless := length_behind hrest
    dsimp only
    rw [hitems _ (by omega) (by omega)]
  · next rest hrest =>
    have hless := length_behind hrest
    dsimp only
    rw [hmembers ∅ _ (by omega) (by omega)]
  · rfl

theorem itemsAgree_succ (hvalue : ValueAgrees k l) (hitems : ItemsAgree k l) :
    ItemsAgree (k + 1) (l + 1) := by
  intro c hk hl
  rw [readItems, readItems]
  refine ((reads_readers k).1 c).bind_congr (hvalue c (by omega) (by omega)) ?_
  intro item next hnext
  have hafter : next.skipBlanks.rest.length ≤ c.rest.length :=
    ((suffix_skipBlanks next).trans hnext).length_le
  dsimp only
  split
  · rfl
  · next rest hrest =>
    have hless := length_behind hrest
    rw [hitems _ (by omega) (by omega)]
  · rfl

theorem membersAgree_succ (hvalue : ValueAgrees k l) (hmembers : MembersAgree k l) :
    MembersAgree (k + 1) (l + 1) := by
  intro members c hk hl
  rw [readMembers, readMembers]
  split
  · next rest hrest =>
    have hname : (c.drop 1).rest.length < c.rest.length := by simp [Cursor.drop, hrest]
    refine (reads_readText c.offset _ (c.drop 1)).bind_congr rfl ?_
    intro name colon hcolon
    have hle : colon.skipBlanks.rest.length ≤ (c.drop 1).rest.length :=
      ((suffix_skipBlanks colon).trans hcolon).length_le
    dsimp only
    split
    · next tail htail =>
      have hless := length_behind htail
      refine ((reads_readers k).1 _).bind_congr (hvalue _ (by omega) (by omega)) ?_
      intro value next hnext
      have hafter := ((suffix_skipBlanks next).trans hnext).length_le
      dsimp only
      split
      · rfl
      · next after hcomma =>
        have hbehind := length_behind hcomma
        exact hmembers _ _ (by omega) (by omega)
      · rfl
    · rfl
  · rfl

end

/-- With a unit less on both sides, each reader agrees if those it calls do. -/
theorem readers_agree (k l : Nat) : ValueAgrees k l ∧ ItemsAgree k l ∧ MembersAgree k l := by
  induction k generalizing l with
  | zero =>
    exact ⟨fun c hk => by omega, fun c hk => by omega, fun members c hk => by omega⟩
  | succ k ih =>
    cases l with
    | zero =>
      exact ⟨fun c _ hl => by omega, fun c _ hl => by omega, fun members c _ hl => by omega⟩
    | succ l =>
      obtain ⟨hvalue, hitems, hmembers⟩ := ih l
      exact ⟨valueAgrees_succ hitems hmembers, itemsAgree_succ hvalue hitems,
        membersAgree_succ hvalue hmembers⟩

/-- More fuel reads the same from a text. -/
theorem readAll_enough {text : List Char} {fuel : Nat} (h : 2 * text.length + 2 ≤ fuel) :
    readAll text = (do
      let (value, next) ← readValue fuel (Cursor.skipBlanks ⟨text, 0⟩)
      let last := next.skipBlanks
      if last.rest = [] then return value else fail .extraData last.offset) := by
  have hle : (Cursor.skipBlanks ⟨text, 0⟩).rest.length ≤ text.length :=
    (suffix_skipBlanks ⟨text, 0⟩).length_le
  rw [readAll, (readers_agree (2 * text.length + 2) fuel).1 _ (by omega) (by omega)]

-- Unclosed brackets take the most fuel: what is missing is an item behind the last one.
example : readAll "[[[".toList = fail .valueExpected 3 := by rfl

end SqlDraft.Json
