import Mathlib.Algebra.Order.Floor.Semifield
import Mathlib.Data.List.Induction
import Mathlib.Data.List.TakeWhile
import Mathlib.Data.Nat.Digits.Defs
import Mathlib.Data.Rat.Floor
import Mathlib.Tactic.IntervalCases
import SqlDraft.Limit

/-!
The text of a limit. Each of its two numbers is read of the value that is given for it: a whole
number as it is, a double rounded toward zero, a text as the number it starts with, and anything
else as zero. A positive offset is written in front of the other number, whatever that is; without
one only a positive number is written. The numbers are decimal numerals, and nothing else of the
values gets into the text.
-/
namespace SqlDraft

open Text

namespace Numeral

/-- The plain decimal numeral of a number: ASCII digits, with no zero in front of others. -/
structure Plain (text : String) (n : Nat) : Prop where
  nonempty : text ≠ ""
  digits : ∀ c ∈ text.toList, c.isDigit
  leading : text.toList.head? = some '0' → text = "0"
  value : Nat.ofDigitChars 10 text.toList 0 = n

/-- A plain numeral, behind a minus sign if the number is negative. -/
inductive Signed : String → Int → Prop where
  | natural {text : String} {n : Nat} (h : Plain text n) : Signed text n
  | negative {text : String} {n : Nat} (hpos : 0 < n) (h : Plain text n) : Signed ("-" ++ text) (-n)

theorem head?_toDigits (n : Nat) (h : (Nat.toDigits 10 n).head? = some '0') : n = 0 := by
  induction n using Nat.base_induction 10 (by decide) with
  | single m hm =>
    rw [Nat.toDigits_of_lt_base hm] at h
    interval_cases m <;> first | rfl | cases h
  | digit m k hk hm ih =>
    rw [← Nat.toDigits_append_toDigits (by decide) hm hk, List.head?_append_of_ne_nil] at h
    · exact absurd (ih h) (Nat.ne_of_gt hm)
    · exact Nat.toDigits_ne_nil

theorem plain_repr (n : Nat) : Plain n.repr n where
  nonempty h := by
    have hnil : Nat.toDigits 10 n = [] := by rw [← Nat.toList_repr, h]; rfl
    exact Nat.toDigits_ne_nil hnil
  digits c hc := by
    rw [Nat.toList_repr] at hc
    exact Nat.isDigit_of_mem_toDigits (by decide) (by decide) hc
  leading h := by
    rw [Nat.toList_repr] at h
    rw [head?_toDigits n h]
    rfl
  value := by rw [Nat.toList_repr, Nat.ofDigitChars_ten_toDigits]

theorem plain_toString {n : Int} (h : 0 ≤ n) : Plain (toString n) n.toNat := by
  obtain ⟨m, rfl⟩ := Int.eq_ofNat_of_zero_le h
  exact plain_repr m

theorem signed_toString (n : Int) : Signed (toString n) n := by
  cases n with
  | ofNat n => exact .natural (plain_repr n)
  | negSucc n => exact .negative (Nat.succ_pos n) (plain_repr (n + 1))

theorem eq_toString_of_write {n : Int} {text : String} (h : write n = .ok text) :
    text = toString n := by
  unfold write at h
  split at h
  · cases h
    rfl
  · cases h

theorem write_of_isWritable {n : Int} (h : isWritable n = true) : write n = .ok (toString n) :=
  if_pos h

/-- The number that digits stand for, each worth ten times the next. -/
def placeValue (digits : List Char) : Nat :=
  Nat.ofDigits 10 (digits.reverse.map fun c => (decimalValue? c).getD 0)

theorem value_eq_placeValue (digits : List Char) : value digits = placeValue digits := by
  induction digits using List.reverseRecOn with
  | nil => rfl
  | append_singleton digits c ih =>
    have hvalue : value (digits ++ [c]) = 10 * value digits + (decimalValue? c).getD 0 := by
      simp only [value, List.foldl_append, List.foldl_cons, List.foldl_nil]
    rw [hvalue, ih, placeValue, placeValue, List.reverse_concat, List.map_cons,
      Nat.ofDigits_cons, Nat.add_comm]

/-- At most one sign. -/
inductive Sign : Bool → List Char → Prop where
  | none : Sign false []
  | plus : Sign false ['+']
  | minus : Sign true ['-']

/-- What a text of a number starts with: white space, a sign, and digits up to the first character
that is none. -/
inductive Starts (negative : Bool) (digits : List Char) : List Char → Prop where
  | intro {blanks sign rest : List Char} (hblanks : ∀ c ∈ blanks, isBlank c = true)
      (hsign : Sign negative sign) (hsome : digits ≠ [])
      (hdigits : ∀ c ∈ digits, isDecimal c = true) (hrest : ∀ c ∈ rest.head?, isDecimal c = false) :
      Starts negative digits (blanks ++ (sign ++ (digits ++ rest)))

/-- The code points of white space. -/
def blankCodes : List Nat :=
  List.range' 9 5 ++ List.range' 28 5 ++ List.range' 0x2000 11 ++
    [0x85, 0xA0, 0x1680, 0x2028, 0x2029, 0x202F, 0x205F, 0x3000]

/-- White space holds no digit of any script. -/
theorem isDecimal_of_isBlank {c : Char} (h : isBlank c = true) : isDecimal c = false := by
  have hcode : c.toNat ∈ blankCodes := by
    simp only [isBlank, isSpace, Bool.or_eq_true, decide_eq_true_eq] at h
    simp only [blankCodes, List.mem_append, List.mem_range'_1, List.mem_cons, List.not_mem_nil,
      or_false]
    omega
  have hnone : ∀ n ∈ blankCodes, (n < 48 ∨ 57 < n) ∧ ¬decimalTable.rank n % 2 = 1 := by
    decide +kernel
  obtain ⟨hascii, hrank⟩ := hnone _ hcode
  have hdigit : ¬c.isDigit = true := fun hdigit => by
    obtain ⟨hlow, hhigh⟩ := Char.isDigit_iff_toNat.mp hdigit
    exact hascii.elim (Nat.not_lt.mpr hlow) (Nat.not_lt.mpr hhigh)
  simp [isDecimal, decimalValue?, hdigit, CharSet.offset?, hrank]

/-- Behind the white space stands what is no white space. -/
theorem dropWhile_isBlank {blanks body : List Char} (hblanks : ∀ c ∈ blanks, isBlank c = true)
    (hbody : ∀ c ∈ body.head?, isBlank c = false) :
    (blanks ++ body).dropWhile isBlank = body := by
  rw [List.dropWhile_append_of_pos hblanks]
  cases body with
  | nil => rfl
  | cons c rest => exact List.dropWhile_cons_of_neg (by simp [hbody c rfl])

theorem takeWhile_isDecimal {digits rest : List Char} (hdigits : ∀ c ∈ digits, isDecimal c = true)
    (hrest : ∀ c ∈ rest.head?, isDecimal c = false) :
    (digits ++ rest).takeWhile isDecimal = digits := by
  rw [List.takeWhile_append_of_pos hdigits]
  cases rest with
  | nil => exact List.append_nil digits
  | cons c rest => rw [List.takeWhile_cons_of_neg (by simp [hrest c rfl]), List.append_nil]

theorem head?_dropWhile {p : Char → Bool} {cs : List Char} :
    ∀ c ∈ (cs.dropWhile p).head?, p c = false := by
  intro c hc
  have hnot := List.head?_dropWhile_not p cs
  rwa [Option.mem_def.mp hc] at hnot

/-- The sign in front of digits is found as it is. -/
theorem leading?_of_sign {s : String} {negative : Bool} {sign digits rest : List Char}
    (hbody : s.toList.dropWhile isBlank = sign ++ (digits ++ rest)) (hsign : Sign negative sign)
    (hsome : digits ≠ []) (hdigits : ∀ c ∈ digits, isDecimal c = true)
    (hrest : ∀ c ∈ rest.head?, isDecimal c = false) :
    leading? isBlank s = some (negative, digits) := by
  have hrun := takeWhile_isDecimal hdigits hrest
  obtain ⟨c, others, rfl⟩ := List.exists_cons_of_ne_nil hsome
  simp only [List.cons_append] at hbody hrun
  unfold leading?
  rw [hbody]
  cases hsign with
  | none =>
    have hc := hdigits c List.mem_cons_self
    have hminus : c ≠ '-' := by
      rintro rfl
      cases hc
    have hplus : c ≠ '+' := by
      rintro rfl
      cases hc
    simp [hminus, hplus, hrun]
  | plus => simp [hrun]
  | minus => simp [hrun]

/-- Any sign, or none, and what stands behind it. -/
theorem starts_of_sign {s : String} {negative : Bool} {sign body : List Char}
    (hbody : s.toList.dropWhile isBlank = sign ++ body) (hsign : Sign negative sign)
    (hsome : body.takeWhile isDecimal ≠ []) :
    Starts negative (body.takeWhile isDecimal) s.toList := by
  have hsplit : s.toList = s.toList.takeWhile isBlank ++
      (sign ++ (body.takeWhile isDecimal ++ body.dropWhile isDecimal)) := by
    rw [List.takeWhile_append_dropWhile, ← hbody, List.takeWhile_append_dropWhile]
  rw [hsplit]
  exact .intro (fun _ hc => List.mem_takeWhile_imp hc) hsign hsome
    (fun _ hc => List.mem_takeWhile_imp hc) head?_dropWhile

/-- Behind the white space a sign is taken, if there is one, and then all digits. -/
theorem leading?_eq_ite (s : String) : ∃ negative sign body, Sign negative sign ∧
    s.toList.dropWhile isBlank = sign ++ body ∧
    leading? isBlank s = if body.takeWhile isDecimal = [] then none
      else some (negative, body.takeWhile isDecimal) := by
  unfold leading?
  rcases hbody : s.toList.dropWhile isBlank with _ | ⟨c, body⟩
  · exact ⟨false, [], [], .none, rfl, rfl⟩
  by_cases hminus : c = '-'
  · subst hminus
    refine ⟨true, ['-'], body, .minus, rfl, ?_⟩
    cases hdigits : body.takeWhile isDecimal <;> simp [hdigits]
  by_cases hplus : c = '+'
  · subst hplus
    refine ⟨false, ['+'], body, .plus, rfl, ?_⟩
    cases hdigits : body.takeWhile isDecimal <;> simp [hdigits]
  · refine ⟨false, [], c :: body, .none, rfl, ?_⟩
    cases hdigits : (c :: body).takeWhile isDecimal <;> simp [hminus, hplus, hdigits]

/-- A text is read as the number it starts with. -/
theorem leading?_eq_some_iff (s : String) (negative : Bool) (digits : List Char) :
    leading? isBlank s = some (negative, digits) ↔ Starts negative digits s.toList := by
  constructor
  · intro h
    obtain ⟨b, sign, body, hsign, hbody, hread⟩ := leading?_eq_ite s
    rw [hread] at h
    split at h
    · cases h
    · next hsome =>
      cases h
      exact starts_of_sign hbody hsign hsome
  · intro h
    generalize hs : s.toList = cs at h
    obtain @⟨blanks, sign, rest, hblanks, hsign, hsome, hdigits, hrest⟩ := h
    refine leading?_of_sign ?_ hsign hsome hdigits hrest
    rw [hs]
    refine dropWhile_isBlank hblanks fun c hc => ?_
    cases hsign with
    | none =>
      obtain ⟨first, others, rfl⟩ := List.exists_cons_of_ne_nil hsome
      have hfirst : first = c := Option.some_inj.mp hc
      by_contra hblank
      have hnot := isDecimal_of_isBlank ((Bool.not_eq_false _).mp hblank)
      rw [← hfirst, hdigits first List.mem_cons_self] at hnot
      cases hnot
    | plus =>
      cases hc
      rfl
    | minus =>
      cases hc
      rfl

end Numeral

namespace Double

/-- Truncation leaves the whole part of the size. -/
theorem truncate_finite (negative : Bool) (mantissa : Nat) (exponent : Int) :
    (finite negative mantissa exponent).truncate =
      if negative then -(⌊(mantissa : ℚ) * 2 ^ exponent⌋₊ : Int)
      else ⌊(mantissa : ℚ) * 2 ^ exponent⌋₊ := by
  have hsize : mantissa * twoTo exponent.toNat / twoTo (-exponent).toNat =
      ⌊(mantissa : ℚ) * 2 ^ exponent⌋₊ := by
    cases exponent with
    | ofNat n =>
      have hpower : (mantissa : ℚ) * 2 ^ (Int.ofNat n) = ((mantissa * 2 ^ n : ℕ) : ℚ) := by
        push_cast
        rfl
      rw [hpower, Nat.floor_natCast]
      simp [twoTo]
    | negSucc n =>
      have hpower : (mantissa : ℚ) * 2 ^ (Int.negSucc n) =
          (mantissa : ℚ) / ((2 ^ (n + 1) : ℕ) : ℚ) := by
        rw [zpow_negSucc, ← div_eq_mul_inv]
        push_cast
        rfl
      rw [hpower, Nat.floor_div_eq_div]
      simp [twoTo]
  simp only [truncate, hsize]

end Double

namespace Limit

open Numeral

/-- The whole number that a value is read as. -/
inductive Reads : Value → Int → Prop where
  | int (n : Int) : Reads (.int n) n
  | float (negative : Bool) (mantissa : Nat) (exponent : Int) :
      Reads (.float (.finite negative mantissa exponent))
        (if negative then -(⌊(mantissa : ℚ) * 2 ^ exponent⌋₊ : Int)
          else ⌊(mantissa : ℚ) * 2 ^ exponent⌋₊)
  | text {s : String} {negative : Bool} {digits : List Char}
      (h : Starts negative digits s.toList) :
      Reads (.text s) (if negative then -(placeValue digits : Int) else placeValue digits)
  | unreadable {s : String} (h : ¬∃ negative digits, Starts negative digits s.toList) :
      Reads (.text s) 0
  | other {v : Value} (hint : ∀ n, v ≠ .int n) (htext : ∀ s, v ≠ .text s)
      (hfloat : ∀ negative mantissa exponent, v ≠ .float (.finite negative mantissa exponent)) :
      Reads v 0

/-- A text that starts with a number has no more digits than a numeral may have. -/
def Legible (v : Value) : Prop :=
  ∀ s negative digits, v = .text s → Starts negative digits s.toList → digits.length ≤ digitLimit

theorem exists_reads (v : Value) : ∃ n, Reads v n := by
  cases v with
  | int n => exact ⟨n, .int n⟩
  | text s =>
    by_cases h : ∃ negative digits, Starts negative digits s.toList
    · obtain ⟨negative, digits, h⟩ := h
      exact ⟨_, .text h⟩
    · exact ⟨0, .unreadable h⟩
  | float x =>
    cases x with
    | finite negative mantissa exponent => exact ⟨_, .float negative mantissa exponent⟩
    | _ => exact ⟨0, .other nofun nofun nofun⟩
  | _ => exact ⟨0, .other nofun nofun nofun⟩

/-- A value is read as its number, unless it has too many digits. -/
theorem read_of_reads {v : Value} {n : Int} (h : Reads v n) :
    read v = .ok n ∨ ¬Legible v ∧ ∃ fault, read v = .error fault := by
  cases h with
  | int => exact Or.inl rfl
  | float negative mantissa exponent =>
    exact Or.inl (congrArg Except.ok (Double.truncate_finite negative mantissa exponent))
  | @text s negative digits hstarts =>
    have hleading := (leading?_eq_some_iff s negative digits).mpr hstarts
    simp only [read, readText, hleading, value_eq_placeValue]
    by_cases hlong : digits.length > digitLimit
    · rw [if_pos hlong]
      exact Or.inr ⟨fun hlegible => Nat.not_le.mpr hlong (hlegible s negative digits rfl hstarts),
        _, rfl⟩
    · rw [if_neg hlong]
      exact Or.inl rfl
  | @unreadable s hnone =>
    have hleading : leading? isBlank s = none := by
      rw [Option.eq_none_iff_forall_ne_some]
      rintro ⟨negative, digits⟩ hsome
      exact hnone ⟨negative, digits, (leading?_eq_some_iff s negative digits).mp hsome⟩
    exact Or.inl (by simp only [read, readText, hleading])
  | other hint htext hfloat =>
    cases v with
    | int n => exact absurd rfl (hint n)
    | text s => exact absurd rfl (htext s)
    | float x =>
      cases x with
      | finite negative mantissa exponent => exact absurd rfl (hfloat negative mantissa exponent)
      | _ => exact Or.inl rfl
    | _ => exact Or.inl rfl

/-- The offset and the number of a limit: the first two items of a list or a tuple, and no offset
for any other value. What is not there is null. -/
def parts (v : Value) : Value × Value :=
  match v.items? with
  | some items => (items[0]?.getD .null, items[1]?.getD .null)
  | none => (.null, v)

theorem readItem_eq (items : List Value) (n : Nat) :
    readItem items n = read (items[n]?.getD .null) := by
  unfold readItem
  cases items[n]? <;> rfl

theorem format_eq (v : Value) :
    format v = read (parts v).1 >>= fun offset => read (parts v).2 >>= clause offset := by
  unfold format parts
  cases v.items? with
  | some items => simp only [readItem_eq]
  | none => rfl

/-- The clause of an offset and a number. A positive offset is written with the number behind it,
also if that is zero or less. -/
inductive Written (offset count : Int) : Option String → Prop where
  | both {m n : String} (hoffset : 0 < offset) (hm : Plain m offset.toNat) (hn : Signed n count) :
      Written offset count (some ("LIMIT " ++ m ++ ", " ++ n ++ "\n"))
  | one {n : String} (hoffset : offset ≤ 0) (hcount : 0 < count) (hn : Plain n count.toNat) :
      Written offset count (some ("LIMIT " ++ n ++ "\n"))
  | nothing (hoffset : offset ≤ 0) (hcount : count ≤ 0) : Written offset count none

theorem clause_written {offset count : Int} {written : Option String}
    (h : clause offset count = .ok written) : Written offset count written := by
  unfold clause at h
  split at h
  · next hoffset =>
    cases hm : write offset with
    | error fault => simp [hm, bind, Except.bind] at h
    | ok m =>
      cases hn : write count with
      | error fault => simp [hm, hn, bind, Except.bind] at h
      | ok n =>
        rw [hm, hn] at h
        cases h
        rw [eq_toString_of_write hm, eq_toString_of_write hn]
        exact .both hoffset (plain_toString (Int.le_of_lt hoffset)) (signed_toString count)
  · next hoffset =>
    split at h
    · next hcount =>
      cases hn : write count with
      | error fault => simp [hn, bind, Except.bind] at h
      | ok n =>
        rw [hn] at h
        cases h
        rw [eq_toString_of_write hn]
        exact .one (Int.not_lt.mp hoffset) hcount (plain_toString (Int.le_of_lt hcount))
    · next hcount =>
      cases h
      exact .nothing (Int.not_lt.mp hoffset) (Int.not_lt.mp hcount)

theorem exists_clause {offset count : Int} (hoffset : isWritable offset = true)
    (hcount : isWritable count = true) : ∃ written, clause offset count = .ok written := by
  unfold clause
  rw [write_of_isWritable hoffset, write_of_isWritable hcount]
  split
  · exact ⟨_, rfl⟩
  · split <;> exact ⟨_, rfl⟩

/-- The parts of a limit are read as whole numbers, and a limit that is written has the clause of
its numbers, or none if neither is positive. It is written unless a numeral is too long. -/
theorem format_written (v : Value) :
    (∃ offset, Reads (parts v).1 offset) ∧ (∃ count, Reads (parts v).2 count) ∧
    ∀ offset count, Reads (parts v).1 offset → Reads (parts v).2 count →
      (∀ written, format v = .ok written → Written offset count written) ∧
      (Legible (parts v).1 → Legible (parts v).2 → isWritable offset = true →
        isWritable count = true → ∃ written, format v = .ok written) := by
  refine ⟨exists_reads _, exists_reads _, fun offset count hoffset hcount => ?_⟩
  rw [format_eq]
  rcases read_of_reads hoffset with ho | ⟨hlong, fault, ho⟩
  · rcases read_of_reads hcount with hc | ⟨hlong, fault, hc⟩
    · rw [ho, hc]
      exact ⟨fun written h => clause_written h, fun _ _ => exists_clause⟩
    · rw [ho, hc]
      exact ⟨nofun, fun _ hlegible => absurd hlegible hlong⟩
  · rw [ho]
    exact ⟨nofun, fun hlegible => absurd hlegible hlong⟩

theorem format_both {v : Value} {offset count : Int} (hoffset : read (parts v).1 = .ok offset)
    (hcount : read (parts v).2 = .ok count) (hpos : 0 < offset)
    (hfirst : isWritable offset = true) (hsecond : isWritable count = true) :
    format v = .ok (some ("LIMIT " ++ toString offset ++ ", " ++ toString count ++ "\n")) := by
  rw [format_eq, hoffset, hcount]
  change clause offset count = _
  unfold clause
  rw [if_pos hpos, write_of_isWritable hfirst, write_of_isWritable hsecond]
  rfl

/-- A digit of another script behind white space and a sign, and a double with a fraction. -/
theorem format_written_mixed :
    let v : Value := .tuple [.text " +٥ rows", .float (.finite false 5 (-1))]
    Reads (parts v).1 5 ∧ Reads (parts v).2 2 ∧ format v = .ok (some "LIMIT 5, 2\n") ∧
      Written 5 2 (some "LIMIT 5, 2\n") := by
  intro v
  have hfirst : leading? isBlank " +٥ rows" = some (false, ['٥']) := by decide +kernel
  have hoffset : Reads (parts v).1 5 := by
    have hreads := Reads.text ((leading?_eq_some_iff _ _ _).mp hfirst)
    rwa [← value_eq_placeValue, show value ['٥'] = 5 by decide +kernel] at hreads
  have hcount : Reads (parts v).2 2 := by
    have hreads := Reads.float false 5 (-1)
    rwa [← Double.truncate_finite] at hreads
  have hread : read (parts v).1 = .ok 5 := by
    change readText " +٥ rows" = .ok 5
    rw [readText, hfirst]
    decide +kernel
  have hsecond : read (parts v).2 = .ok 2 := rfl
  have htext : "LIMIT " ++ toString (5 : Int) ++ ", " ++ toString (2 : Int) ++ "\n" =
      "LIMIT 5, 2\n" := by decide
  have hformat : format v = .ok (some "LIMIT 5, 2\n") := by
    rw [format_both hread hsecond (by decide) (isWritable_digit (by decide))
      (isWritable_digit (by decide)), htext]
  exact ⟨hoffset, hcount, hformat, ((format_written v).2.2 5 2 hoffset hcount).1 _ hformat⟩

/-- The texts of a positive number, alone or with a number behind it that is not negative. -/
inductive WellFormed : String → Prop where
  | one {n : Nat} {digits : String} (hpos : 0 < n) (h : Plain digits n) :
      WellFormed ("LIMIT " ++ digits ++ "\n")
  | both {m n : Nat} {first second : String} (hpos : 0 < m) (hm : Plain first m)
      (hn : Plain second n) : WellFormed ("LIMIT " ++ first ++ ", " ++ second ++ "\n")

/-- Behind a positive offset a negative number is written with its sign. -/
theorem format_negative_count :
    let v : Value := .list [.int 5, .int (-3)]
    Reads (parts v).1 5 ∧ Reads (parts v).2 (-3) ∧ format v = .ok (some "LIMIT 5, -3\n") ∧
      ¬WellFormed "LIMIT 5, -3\n" := by
  intro v
  have hminus : '-' ∈ "LIMIT 5, -3\n".toList := by decide
  have htext : "LIMIT " ++ toString (5 : Int) ++ ", " ++ toString (-3 : Int) ++ "\n" =
      "LIMIT 5, -3\n" := by decide
  have hfirst : read (parts v).1 = .ok 5 := rfl
  have hsecond : read (parts v).2 = .ok (-3) := rfl
  have hformat : format v = .ok (some "LIMIT 5, -3\n") := by
    rw [format_both hfirst hsecond (by decide) (isWritable_digit (by decide))
      (isWritable_digit (by decide)), htext]
  refine ⟨.int 5, .int (-3), hformat, fun h => ?_⟩
  have hdigits {digits : String} {n : Nat} (h : Plain digits n) : '-' ∉ digits.toList :=
    fun hmem => absurd (h.digits _ hmem) (by decide)
  generalize "LIMIT 5, -3\n" = text at hminus h
  cases h with
  | one hpos h => simp [hdigits h] at hminus
  | both hpos hm hn => simp [hdigits hm, hdigits hn] at hminus

end Limit

end SqlDraft
