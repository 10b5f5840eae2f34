import Mathlib.Data.List.TakeWhile
import SqlDraft.Operand

/-!
Numerals that cannot be read. Digits fail when there are too many of them, or when one is among them
that has no place in a numeral. The digits of a placeholder are those of ASCII, so it fails by its
length alone.
-/
namespace SqlDraft

open Text

namespace Numeral

/-- What is wrong with a text of digits that is no numeral. -/
inductive Faulty (s : String) : NumeralFault → Prop where
  | tooLong (h : digitLimit < (s.toList.takeWhile isDecimal).length) :
      Faulty s (.tooLong (s.toList.takeWhile isDecimal).length)
  | notDecimal {c : Char} (h : (s.toList.takeWhile isDecimal).length ≤ digitLimit)
      (hc : c ∈ s.toList) (hdecimal : isDecimal c = false) : Faulty s (.notDecimal s)

theorem length_takeWhile_lt_iff {α : Type} (p : α → Bool) (l : List α) :
    (l.takeWhile p).length < l.length ↔ ∃ a ∈ l, p a = false := by
  induction l with
  | nil => simp
  | cons a rest ih => cases h : p a <;> simp [h, ih]

theorem readDigits_error_iff (s : String) (fault : NumeralFault) :
    readDigits s = .error fault ↔ Faulty s fault := by
  have hshort : (s.toList.takeWhile isDecimal).length < s.length ↔
      ∃ c ∈ s.toList, isDecimal c = false := by
    rw [← String.length_toList, length_takeWhile_lt_iff]
  unfold readDigits
  constructor
  · intro h
    dsimp only at h
    split at h
    · next hlong =>
      cases h
      exact .tooLong hlong
    · next hlong =>
      split at h
      · next hrun =>
        cases h
        obtain ⟨c, hc, hdecimal⟩ := hshort.mp hrun
        exact .notDecimal (Nat.not_lt.mp hlong) hc hdecimal
      · cases h
  · intro h
    dsimp only
    cases h with
    | tooLong hlong => rw [if_pos hlong]
    | notDecimal hlength hc hdecimal =>
      rw [if_neg (Nat.not_lt.mpr hlength), if_pos (hshort.mpr ⟨_, hc, hdecimal⟩)]

/-- Digits that have a place in a numeral fail by their number alone. -/
theorem readDigits_error_iff_of_decimal {s : String} (h : ∀ c ∈ s.toList, isDecimal c)
    (fault : NumeralFault) :
    readDigits s = .error fault ↔ digitLimit < s.length ∧ fault = .tooLong s.length := by
  have hrun : s.toList.takeWhile isDecimal = s.toList := List.takeWhile_eq_self_iff.mpr h
  rw [readDigits_error_iff]
  constructor
  · intro hfaulty
    cases hfaulty with
    | tooLong hlong =>
      rw [hrun, String.length_toList] at hlong ⊢
      exact ⟨hlong, rfl⟩
    | notDecimal _ hc hnot => simp [h _ hc] at hnot
  · rintro ⟨hlong, rfl⟩
    have hfaulty : Faulty s (.tooLong (s.toList.takeWhile isDecimal).length) :=
      .tooLong (by rwa [hrun, String.length_toList])
    rwa [hrun, String.length_toList] at hfaulty

/-- Digits that have a place in a numeral, and not too many of them, are read as their number. -/
theorem readDigits_eq_ok_iff (s : String) (n : Nat) :
    readDigits s = .ok n ↔
      (∀ c ∈ s.toList, isDecimal c) ∧ s.length ≤ digitLimit ∧ n = value s.toList := by
  constructor
  · intro h
    unfold readDigits at h
    dsimp only at h
    split at h
    · cases h
    · next hlong =>
      split at h
      · cases h
      · next hrun =>
        have hdecimal : ∀ c ∈ s.toList, isDecimal c := by
          rw [← String.length_toList, length_takeWhile_lt_iff] at hrun
          intro c hc
          by_contra hnot
          exact hrun ⟨c, hc, by simpa using hnot⟩
        rw [List.takeWhile_eq_self_iff.mpr hdecimal] at h hlong
        rw [String.length_toList] at hlong
        cases h
        exact ⟨hdecimal, Nat.not_lt.mp hlong, rfl⟩
  · rintro ⟨hdecimal, hlength, rfl⟩
    have hrun : s.toList.takeWhile isDecimal = s.toList := List.takeWhile_eq_self_iff.mpr hdecimal
    unfold readDigits
    dsimp only
    rw [hrun, String.length_toList, if_neg (Nat.not_lt.mpr hlength), if_neg (Nat.lt_irrefl _)]

end Numeral

namespace Address

/-- The keys that are no address: a text of digits that is no numeral, and a key other than an
integer that cannot be written as a name. -/
inductive Faulty : Value → NumeralFault → Prop where
  | digits {s : String} {fault : NumeralFault} (hne : s ≠ "") (hdigits : s.toList.all isDigit)
      (hfault : Numeral.Faulty s fault) : Faulty (.text s) fault
  | name {key : Value} (hint : ∀ n, key ≠ .int n) (hkey : key.isWritable = false) :
      Faulty key .unwritable

theorem faulty_text_iff (s : String) (fault : NumeralFault) :
    Faulty (.text s) fault ↔ s ≠ "" ∧ s.toList.all isDigit ∧ Numeral.Faulty s fault := by
  constructor
  · intro h
    cases h with
    | digits hne hdigits hfault => exact ⟨hne, hdigits, hfault⟩
    | name _ hkey => cases hkey
  · rintro ⟨hne, hdigits, hfault⟩
    exact .digits hne hdigits hfault

theorem ofKey_error_iff (key : Value) (fault : NumeralFault) :
    ofKey key = .error fault ↔ Faulty key fault := by
  have hname (hint : ∀ n, key ≠ .int n) (htext : ∀ s, key ≠ .text s) :
      key.write.map Address.name = .error fault ↔ Faulty key fault := by
    constructor
    · intro h
      cases hwrite : key.write with
      | ok text =>
        rw [hwrite] at h
        cases h
      | error other =>
        rw [hwrite] at h
        cases h
        obtain ⟨hkey, rfl⟩ := Value.write_error_iff.mp hwrite
        exact .name hint hkey
    · intro h
      cases h with
      | @digits s _ hne hdigits hfault => exact absurd rfl (htext s)
      | name _ hkey => rw [Value.write_of_not_isWritable hkey]; rfl
  cases key with
  | int n =>
    refine ⟨nofun, fun h => ?_⟩
    cases h with
    | name hint => exact absurd rfl (hint n)
  | text s =>
    rw [faulty_text_iff, ← Numeral.readDigits_error_iff]
    simp only [ofKey, ofText]
    by_cases hdigits : s ≠ "" ∧ s.toList.all isDigit
    · rw [if_pos hdigits]
      cases Numeral.readDigits s with
      | ok n => simp [Except.map, Functor.map]
      | error other => simp [Except.map, Functor.map, hdigits.1, hdigits.2]
    · rw [if_neg hdigits]
      simp only [reduceCtorEq, false_iff]
      rintro ⟨hs, hall, -⟩
      exact hdigits ⟨hs, hall⟩
  | _ => exact hname nofun nofun

end Address

namespace Token

theorem namedPlaceholder?_eq_some_iff (s name : String) :
    namedPlaceholder? s = some name ↔
      s = "?:" ++ name ∧ name ≠ "" ∧ name.toList.all isNameChar := by
  constructor
  · intro h
    unfold namedPlaceholder? at h
    split at h
    · next rest hs =>
      split at h
      · next hname =>
        cases h
        have hrest : (String.ofList rest).toList = rest := String.toList_ofList
        refine ⟨?_, ?_, ?_⟩
        · rw [← String.toList_inj, hs, String.toList_append, hrest]
          rfl
        · rw [Ne, ← String.toList_inj, hrest]
          exact hname.1
        · rw [hrest]
          exact hname.2
      · cases h
    · cases h
  · rintro ⟨rfl, hne, hname⟩
    have hchars : ("?:" ++ name).toList = '?' :: ':' :: name.toList := by
      rw [String.toList_append]
      rfl
    have hchar : name.toList ≠ [] := by simpa using hne
    unfold namedPlaceholder?
    rw [hchars]
    simp [hchar, hname]

theorem ofValue_eq_named_iff (v : Value) (name : String) :
    ofValue v = named name ↔
      v = .text ("?:" ++ name) ∧ name ≠ "" ∧ name.toList.all isNameChar := by
  cases v with
  | text s =>
    have hmark : namedPlaceholder? "?" = none := by rfl
    simp only [ofValue, ofText, Value.text.injEq, ← namedPlaceholder?_eq_some_iff]
    by_cases hs : s = "?"
    · simp [hs, hmark]
    · rw [if_neg hs]
      cases namedPlaceholder? s <;> simp
  | _ => simp [ofValue]

end Token

theorem toNat_lt_of_isNameChar {c : Char} (h : isNameChar c) : c.toNat < 128 := by
  have hcases : ((c.isUpper ∨ c.isLower) ∨ c.isDigit) ∨ c = '_' := by
    simpa only [Bool.or_eq_true, decide_eq_true_eq] using
      (show (c.isUpper || c.isLower || c.isDigit || decide (c = '_')) = true from h)
  rcases hcases with ((h | h) | h) | h
  · have hle : c.val ≤ 'Z'.val := (of_decide_eq_true h).2
    exact Nat.lt_of_le_of_lt hle (by decide)
  · have hle : c.val ≤ 'z'.val := of_decide_eq_true (Bool.and_eq_true_iff.mp h).2
    exact Nat.lt_of_le_of_lt hle (by decide)
  · have hle : c.val ≤ '9'.val := of_decide_eq_true (Bool.and_eq_true_iff.mp h).2
    exact Nat.lt_of_le_of_lt hle (by decide)
  · rw [h]
    decide

theorem isNameChar_of_isDigit {c : Char} (h : c.isDigit) : isNameChar c := by
  show (c.isAlpha || c.isDigit || decide (c = '_')) = true
  rw [h, Bool.or_true, Bool.true_or]

/-- A name character is a digit only as a digit of ASCII, and these have a place in numerals. -/
theorem isDigit_of_isNameChar {c : Char} (h : isNameChar c) :
    isDigit c = c.isDigit ∧ isDecimal c = c.isDigit := by
  have hascii := toNat_lt_of_isNameChar h
  have henclosed : ∀ n < 128, ¬enclosedDigitTable.rank n % 2 = 1 := by decide +kernel
  have hdecimal : isDecimal c = c.isDigit := by
    rw [isDecimal, decimalValue?, if_pos hascii]
    cases c.isDigit <;> rfl
  refine ⟨?_, hdecimal⟩
  rw [isDigit, hdecimal, CharSet.contains, decide_eq_false (henclosed _ hascii), Bool.or_false]

/-- The digits of a name are those of ASCII. -/
theorem all_isDigit_of_isNameChar {name : String} (h : name.toList.all isNameChar) :
    name.toList.all isDigit = name.toList.all Char.isDigit := by
  rw [Bool.eq_iff_iff, List.all_eq_true, List.all_eq_true]
  exact forall₂_congr fun c hc => by
    rw [(isDigit_of_isNameChar (List.all_eq_true.mp h c hc)).1]

theorem isDecimal_of_isNameChar {name : String} (h : name.toList.all isNameChar)
    (hdigits : name.toList.all Char.isDigit) (c : Char) (hc : c ∈ name.toList) :
    isDecimal c = true := by
  rw [(isDigit_of_isNameChar (List.all_eq_true.mp h c hc)).2]
  exact List.all_eq_true.mp hdigits c hc

/-- The value that parameters give to a name: the one under it or, for digits under which there is
none, the one in the slot of their number. -/
def Params.supplied? (p : Params) (name : String) : Option Value :=
  match p.get? (.name name) with
  | some v => some v
  | none =>
    if name.toList.all Char.isDigit then p.get? (.slot (Numeral.value name.toList)) else none

namespace Operand

/-- A placeholder of more digits than a numeral may have, which is no name of a parameter. -/
inductive Unreadable (params : Params) : Value → NumeralFault → Prop where
  | digits {name : String} (hdigits : name.toList.all Char.isDigit)
      (hlong : Numeral.digitLimit < name.length) (hfree : params.get? (.name name) = none) :
      Unreadable params (.text ("?:" ++ name)) (.tooLong name.length)

theorem namedValue?_error_iff {params : Params} {name : String}
    (hname : name.toList.all isNameChar) (fault : NumeralFault) :
    namedValue? params name = .error fault ↔ params.get? (.name name) = none ∧
      name.toList.all Char.isDigit ∧ Numeral.digitLimit < name.length ∧
      fault = .tooLong name.length := by
  unfold namedValue?
  rw [all_isDigit_of_isNameChar hname]
  cases params.get? (.name name) with
  | some v => simp
  | none =>
    by_cases hall : name.toList.all Char.isDigit
    · have hdecimal := isDecimal_of_isNameChar hname hall
      simp only [hall, if_true, true_and]
      rw [← Numeral.readDigits_error_iff_of_decimal hdecimal]
      cases Numeral.readDigits name <;> simp [Except.map, Functor.map]
    · simp [hall]

/-- Unless its digits are too many, a placeholder stands for the value that its name has. -/
theorem namedValue?_eq_ok {params : Params} {name : String} {v? : Option Value}
    (hname : name.toList.all isNameChar) (h : namedValue? params name = .ok v?) :
    v? = params.supplied? name := by
  unfold namedValue? at h
  unfold Params.supplied?
  rw [all_isDigit_of_isNameChar hname] at h
  cases hfound : params.get? (.name name) with
  | some v =>
    rw [hfound] at h
    cases h
    rfl
  | none =>
    rw [hfound] at h
    by_cases hall : name.toList.all Char.isDigit
    · simp only [hall, if_true] at h ⊢
      cases hread : Numeral.readDigits name with
      | error fault =>
        rw [hread] at h
        cases h
      | ok n =>
        rw [hread] at h
        cases h
        rw [((Numeral.readDigits_eq_ok_iff name n).mp hread).2.2]
    · simp only [hall, Bool.false_eq_true, if_false, Except.ok.injEq] at h ⊢
      exact h.symm

/-- A token reads no number exactly if it is such a placeholder. -/
theorem unreadable_iff (params : Params) (token : Value) (fault : NumeralFault) :
    Unreadable params token fault ↔
      ∃ name, Token.ofValue token = .named name ∧ namedValue? params name = .error fault := by
  constructor
  · intro h
    cases h with
    | @digits name hdigits hlong hfree =>
      have hname : name.toList.all isNameChar := by
        rw [List.all_eq_true] at hdigits ⊢
        intro c hc
        exact isNameChar_of_isDigit (hdigits c hc)
      have hne : name ≠ "" := by
        rintro rfl
        exact absurd hlong (by decide)
      exact ⟨name, (Token.ofValue_eq_named_iff _ name).mpr ⟨rfl, hne, hname⟩,
        (namedValue?_error_iff hname _).mpr ⟨hfree, hdigits, hlong, rfl⟩⟩
  · rintro ⟨name, htoken, hfault⟩
    obtain ⟨rfl, -, hname⟩ := (Token.ofValue_eq_named_iff token name).mp htoken
    obtain ⟨hfree, hdigits, hlong, rfl⟩ := (namedValue?_error_iff hname fault).mp hfault
    exact .digits hdigits hlong hfree

end Operand

end SqlDraft
