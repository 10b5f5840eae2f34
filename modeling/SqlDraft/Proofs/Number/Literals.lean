import Mathlib.Algebra.Order.Field.Power
import SqlDraft.Number.Decimal
import SqlDraft.Proofs.Limits

/-!
Numeric literals: ASCII digits with an optional sign, fraction and power of ten. Every finite
number is written as one. A decimal and a whole number are written exactly; the fewest digits that
read back to a double are laid out so that the literal denotes just these digits. What is not finite
is written as a name.
-/
namespace SqlDraft

namespace Numeral

def AsciiDigits (digits : List Char) : Prop := digits ≠ [] ∧ ∀ c ∈ digits, c.isDigit = true

/-- Digits, perhaps with a point among them, and the number they denote. -/
inductive Fixed : List Char → ℚ → Prop where
  | whole {digits : List Char} (h : AsciiDigits digits) :
      Fixed digits (Nat.ofDigitChars 10 digits 0)
  | point {whole places : List Char} (hwhole : AsciiDigits whole) (hplaces : AsciiDigits places) :
      Fixed (whole ++ '.' :: places)
        (Nat.ofDigitChars 10 (whole ++ places) 0 * 10 ^ (-(places.length : ℤ)))

/-- A power of ten behind its mark, or none. -/
inductive Power : List Char → ℤ → Prop where
  | none : Power [] 0
  | unsigned {mark : Char} {digits : List Char} (hmark : mark = 'e' ∨ mark = 'E')
      (h : AsciiDigits digits) : Power (mark :: digits) (Nat.ofDigitChars 10 digits 0)
  | plus {mark : Char} {digits : List Char} (hmark : mark = 'e' ∨ mark = 'E')
      (h : AsciiDigits digits) : Power (mark :: '+' :: digits) (Nat.ofDigitChars 10 digits 0)
  | minus {mark : Char} {digits : List Char} (hmark : mark = 'e' ∨ mark = 'E')
      (h : AsciiDigits digits) : Power (mark :: '-' :: digits) (-Nat.ofDigitChars 10 digits 0)

/-- A numeric literal and the number it denotes. -/
inductive Literal : String → ℚ → Prop where
  | positive {front back : List Char} {q : ℚ} {n : ℤ} (hfixed : Fixed front q)
      (hpower : Power back n) : Literal (String.ofList (front ++ back)) (q * 10 ^ n)
  | negative {front back : List Char} {q : ℚ} {n : ℤ} (hfixed : Fixed front q)
      (hpower : Power back n) : Literal (String.ofList ('-' :: (front ++ back))) (-(q * 10 ^ n))

theorem asciiDigits_toDigits (n : Nat) : AsciiDigits (Nat.toDigits 10 n) :=
  ⟨Nat.toDigits_ne_nil, fun _ hc => Nat.isDigit_of_mem_toDigits (by decide) (by decide) hc⟩

theorem AsciiDigits.append {digits others : List Char} (h : AsciiDigits digits)
    (hothers : ∀ c ∈ others, c.isDigit = true) : AsciiDigits (digits ++ others) :=
  ⟨List.append_ne_nil_of_left_ne_nil h.1 _, List.forall_mem_append.mpr ⟨h.2, hothers⟩⟩

theorem isDigit_of_mem_zeros (k : Nat) : ∀ c ∈ Double.zeros k, c.isDigit = true := by
  intro c hc
  rw [List.eq_of_mem_replicate hc]
  rfl

theorem asciiDigits_zero : AsciiDigits ['0'] :=
  ⟨List.cons_ne_nil _ _, isDigit_of_mem_zeros 1⟩

theorem AsciiDigits.zeros_append {digits : List Char} (h : AsciiDigits digits) (k : Nat) :
    AsciiDigits (Double.zeros k ++ digits) :=
  ⟨List.append_ne_nil_of_right_ne_nil _ h.1,
    List.forall_mem_append.mpr ⟨isDigit_of_mem_zeros k, h.2⟩⟩

theorem ofDigitChars_zeros_append (k : Nat) (digits : List Char) :
    Nat.ofDigitChars 10 (Double.zeros k ++ digits) 0 = Nat.ofDigitChars 10 digits 0 := by
  rw [Nat.ofDigitChars_append, Double.zeros, Nat.ofDigitChars_replicate_zero, Nat.mul_zero]

section Fixed

variable {digits : List Char} {point : ℤ}

/-- Zeros up to the point raise the number. -/
theorem cast_ofDigitChars_append_zeros (hlong : digits.length ≤ point) :
    (Nat.ofDigitChars 10 (digits ++ Double.zeros (point - digits.length).toNat) 0 : ℚ) =
      Nat.ofDigitChars 10 digits 0 * 10 ^ (point - digits.length) := by
  have hpower : point - digits.length = ((point - digits.length).toNat : ℤ) := by omega
  rw [Nat.ofDigitChars_append, Double.zeros, Nat.ofDigitChars_replicate_zero, Nat.mul_comm, hpower,
    zpow_natCast, Int.toNat_natCast]
  push_cast
  rfl

variable (h : AsciiDigits digits)
include h

/-- All digits stand behind the point, with zeros in front. -/
theorem fixed_behind (hpoint : point ≤ 0) :
    Fixed ('0' :: '.' :: Double.zeros (-point).toNat ++ digits)
      (Nat.ofDigitChars 10 digits 0 * 10 ^ (point - digits.length)) := by
  have hfixed := Fixed.point asciiDigits_zero (h.zeros_append (-point).toNat)
  have hvalue : Nat.ofDigitChars 10 (['0'] ++ (Double.zeros (-point).toNat ++ digits)) 0 =
      Nat.ofDigitChars 10 digits 0 := ofDigitChars_zeros_append ((-point).toNat + 1) digits
  have hplaces : -((Double.zeros (-point).toNat ++ digits).length : ℤ) = point - digits.length := by
    rw [List.length_append, Double.zeros, List.length_replicate]
    omega
  rwa [hvalue, hplaces] at hfixed

/-- The point stands among the digits. -/
theorem fixed_among (hpos : 0 < point) (hlt : point < digits.length) :
    Fixed (digits.take point.toNat ++ '.' :: digits.drop point.toNat)
      (Nat.ofDigitChars 10 digits 0 * 10 ^ (point - digits.length)) := by
  have hwhole : AsciiDigits (digits.take point.toNat) :=
    ⟨List.ne_nil_of_length_pos (by rw [List.length_take]; omega),
      fun c hc => h.2 c (List.mem_of_mem_take hc)⟩
  have hplaces : AsciiDigits (digits.drop point.toNat) :=
    ⟨List.ne_nil_of_length_pos (by rw [List.length_drop]; omega),
      fun c hc => h.2 c (List.mem_of_mem_drop hc)⟩
  have hfixed := Fixed.point hwhole hplaces
  have hlength : -((digits.drop point.toNat).length : ℤ) = point - digits.length := by
    rw [List.length_drop]
    omega
  rwa [List.take_append_drop, hlength] at hfixed

/-- The digits are all in front of the point. -/
theorem fixed_before (hlong : digits.length ≤ point) :
    Fixed (digits ++ Double.zeros (point - digits.length).toNat)
      (Nat.ofDigitChars 10 digits 0 * 10 ^ (point - digits.length)) := by
  rw [← cast_ofDigitChars_append_zeros hlong]
  exact .whole (h.append (isDigit_of_mem_zeros _))

/-- A fraction of one zero changes nothing. -/
theorem fixed_point_zero : Fixed (digits ++ ['.', '0']) (Nat.ofDigitChars 10 digits 0) := by
  have hfixed := Fixed.point h asciiDigits_zero
  have hvalue : Nat.ofDigitChars 10 (digits ++ ['0']) 0 = 10 * Nat.ofDigitChars 10 digits 0 := by
    rw [Nat.ofDigitChars_append]
    rfl
  rw [hvalue] at hfixed
  simpa [mul_comm] using hfixed

end Fixed

/-- A signed power of ten, with zeros in front of its digits. -/
theorem power_signed {mark : Char} (hmark : mark = 'e' ∨ mark = 'E') (n : ℤ) (k : Nat) :
    Power (mark :: (if n < 0 then '-' else '+') :: (Double.zeros k ++ Nat.toDigits 10 n.natAbs))
      n := by
  have hdigits := (asciiDigits_toDigits n.natAbs).zeros_append k
  have hvalue := ofDigitChars_zeros_append k (Nat.toDigits 10 n.natAbs)
  rw [Nat.ofDigitChars_ten_toDigits] at hvalue
  by_cases hn : n < 0
  · have hpower := Power.minus hmark hdigits
    rw [hvalue, show -(n.natAbs : ℤ) = n by omega] at hpower
    rwa [if_pos hn]
  · have hpower := Power.plus hmark hdigits
    rw [hvalue, show (n.natAbs : ℤ) = n by omega] at hpower
    rwa [if_neg hn]

theorem literal_withSign (negative : Bool) {front back : List Char} {q : ℚ} {n : ℤ}
    (hfixed : Fixed front q) (hpower : Power back n) :
    Literal (Decimal.withSign negative (front ++ back))
      ((if negative then -1 else 1) * (q * 10 ^ n)) := by
  cases negative with
  | false =>
    rw [if_neg Bool.false_ne_true, one_mul]
    exact .positive hfixed hpower
  | true =>
    rw [if_pos rfl, neg_one_mul]
    exact .negative hfixed hpower

theorem fixed_of_plain {text : String} {n : Nat} (h : Plain text n) : Fixed text.toList n := by
  have hdigits : AsciiDigits text.toList := ⟨by simpa using h.nonempty, h.digits⟩
  have hfixed := Fixed.whole hdigits
  rwa [h.value] at hfixed

theorem literal_of_signed {text : String} {n : ℤ} (h : Signed text n) : Literal text n := by
  cases h with
  | @natural text n h =>
    have hliteral := Literal.positive (fixed_of_plain h) .none
    simpa using hliteral
  | @negative text n hpos h =>
    have hliteral := Literal.negative (fixed_of_plain h) .none
    have htext : String.ofList ('-' :: (text.toList ++ [])) = "-" ++ text := by
      apply String.toList_injective
      simp
    rw [htext] at hliteral
    simpa using hliteral

/-- The characters that literals are made of. -/
def IsLiteralChar (c : Char) : Prop := c.isDigit = true ∨ c ∈ ['-', '+', '.', 'e', 'E']

instance (c : Char) : Decidable (IsLiteralChar c) := inferInstanceAs (Decidable (_ ∨ _))

theorem AsciiDigits.isLiteralChar {digits : List Char} (h : AsciiDigits digits) :
    ∀ c ∈ digits, IsLiteralChar c := fun c hc => Or.inl (h.2 c hc)

theorem Fixed.isLiteralChar {front : List Char} {q : ℚ} (h : Fixed front q) :
    ∀ c ∈ front, IsLiteralChar c := by
  cases h with
  | whole h => exact h.isLiteralChar
  | point hwhole hplaces =>
    exact List.forall_mem_append.mpr ⟨hwhole.isLiteralChar,
      List.forall_mem_cons.mpr ⟨by decide, hplaces.isLiteralChar⟩⟩

theorem Power.isLiteralChar {back : List Char} {n : ℤ} (h : Power back n) :
    ∀ c ∈ back, IsLiteralChar c := by
  have hmarks {mark : Char} (hmark : mark = 'e' ∨ mark = 'E') : IsLiteralChar mark := by
    rcases hmark with rfl | rfl <;> decide
  cases h with
  | none => exact nofun
  | unsigned hmark h => exact List.forall_mem_cons.mpr ⟨hmarks hmark, h.isLiteralChar⟩
  | plus hmark h =>
    exact List.forall_mem_cons.mpr ⟨hmarks hmark,
      List.forall_mem_cons.mpr ⟨by decide, h.isLiteralChar⟩⟩
  | minus hmark h =>
    exact List.forall_mem_cons.mpr ⟨hmarks hmark,
      List.forall_mem_cons.mpr ⟨by decide, h.isLiteralChar⟩⟩

theorem Literal.isLiteralChar {text : String} {q : ℚ} (h : Literal text q) :
    ∀ c ∈ text.toList, IsLiteralChar c := by
  cases h with
  | positive hfixed hpower =>
    rw [String.toList_ofList]
    exact List.forall_mem_append.mpr ⟨hfixed.isLiteralChar, hpower.isLiteralChar⟩
  | negative hfixed hpower =>
    rw [String.toList_ofList]
    exact List.forall_mem_cons.mpr ⟨by decide,
      List.forall_mem_append.mpr ⟨hfixed.isLiteralChar, hpower.isLiteralChar⟩⟩

/-- A text with any other character is no literal. -/
theorem not_literal {text : String} {c : Char} (hc : c ∈ text.toList) (hother : ¬IsLiteralChar c) :
    ¬∃ q, Literal text q :=
  fun ⟨_, h⟩ => hother (h.isLiteralChar c hc)

end Numeral

open Numeral

namespace Double

/-- The number that a double is. -/
def rational? : Double → Option ℚ
  | finite negative mantissa exponent =>
    some ((if negative then -1 else 1) * (mantissa * 2 ^ exponent))
  | _ => none

theorem fixed_positional {digits : List Char} (h : AsciiDigits digits) (point : ℤ) :
    Fixed (positional digits point)
      (Nat.ofDigitChars 10 digits 0 * 10 ^ (point - digits.length)) := by
  unfold positional
  split
  · next hpoint => exact fixed_behind h hpoint
  · next hpoint =>
    split
    · next hlong =>
      rw [← cast_ofDigitChars_append_zeros hlong]
      exact fixed_point_zero (h.append (isDigit_of_mem_zeros _))
    · next hlong => exact fixed_among h (by omega) (by omega)

/-- What a layout of digits denotes. -/
inductive Laid (q : ℚ) : List Char → Prop where
  | intro {front back : List Char} {r : ℚ} {n : ℤ} (hfixed : Fixed front r) (hpower : Power back n)
      (hvalue : r * 10 ^ n = q) : Laid q (front ++ back)

/-- One digit in front of the point, and no point if it is the only one. -/
theorem fixed_leading {digits : List Char} (h : AsciiDigits digits) :
    Fixed (digits.take 1 ++ match digits.drop 1 with
      | [] => []
      | rest => '.' :: rest) (Nat.ofDigitChars 10 digits 0 * 10 ^ (1 - (digits.length : ℤ))) := by
  cases hrest : digits.drop 1 with
  | nil =>
    have hlength : digits.length = 1 := by
      have hpos := List.length_pos_iff.mpr h.1
      have hle := List.drop_eq_nil_iff.mp hrest
      omega
    have hfixed := Fixed.whole h
    rw [← List.take_append_drop 1 digits, hrest, List.append_nil] at hfixed
    rw [List.append_nil, hlength, Nat.cast_one, sub_self, zpow_zero, mul_one]
    rwa [List.take_of_length_le hlength.le] at hfixed ⊢
  | cons c rest =>
    have hlength : 1 < digits.length := by
      have hdrop := congrArg List.length hrest
      simp only [List.length_drop, List.length_cons] at hdrop
      omega
    have hfixed := fixed_among h Int.one_pos (by exact_mod_cast hlength)
    rwa [Int.toNat_one, hrest] at hfixed

theorem laid_scientific {digits : List Char} (h : AsciiDigits digits) (lead : ℤ) :
    Laid (Nat.ofDigitChars 10 digits 0 * 10 ^ (lead + 1 - digits.length))
      (scientific standardLayout digits lead) := by
  have hmark : 'e' = 'e' ∨ 'e' = 'E' := Or.inl rfl
  have hpower := power_signed hmark lead (2 - (Nat.toDigits 10 lead.natAbs).length)
  have hlaid := Laid.intro (fixed_leading h) hpower rfl
  have hsum : (1 - (digits.length : ℤ)) + lead = lead + 1 - digits.length := by ring
  rw [mul_assoc, ← zpow_add₀ (by norm_num), hsum] at hlaid
  unfold scientific
  -- The match on the digits behind the first is not the one of `fixed_leading`, but unfolds to it.
  simp only [standardLayout, List.append_assoc, List.cons_append] at hlaid ⊢
  exact hlaid

/-- Digits are laid out with their power of ten, in either form. -/
theorem laid_layout (f : Figures) : Laid (f.digits * 10 ^ f.power) (layout standardLayout f) := by
  have hdigits := asciiDigits_toDigits f.digits
  have hpower : f.power + (Nat.toDigits 10 f.digits).length - 1 + 1 -
      (Nat.toDigits 10 f.digits).length = f.power := by ring
  unfold layout
  dsimp only
  split
  · have hfixed := fixed_positional hdigits (f.power + (Nat.toDigits 10 f.digits).length - 1 + 1)
    rw [Nat.ofDigitChars_ten_toDigits, hpower] at hfixed
    have hlaid := Laid.intro hfixed .none rfl
    rwa [zpow_zero, mul_one, List.append_nil] at hlaid
  · have hlaid := laid_scientific hdigits (f.power + (Nat.toDigits 10 f.digits).length - 1)
    rwa [Nat.ofDigitChars_ten_toDigits, hpower] at hlaid

theorem Laid.literal {q : ℚ} {cs : List Char} (h : Laid q cs) (negative : Bool) :
    Literal (Decimal.withSign negative cs) ((if negative then -1 else 1) * q) := by
  obtain ⟨hfixed, hpower, rfl⟩ := h
  exact literal_withSign negative hfixed hpower

/-- The sign stands in front of the digits, also in front of those of zero. -/
theorem render_finite (negative : Bool) (mantissa : Nat) (exponent : Int) :
    (finite negative mantissa exponent).render = Decimal.withSign negative
      (if mantissa = 0 then "0.0".toList
        else layout standardLayout (shortest mantissa exponent)) := by
  unfold render
  apply String.toList_injective
  by_cases hzero : mantissa = 0 <;> cases negative <;> simp [hzero, Decimal.withSign]

/-- A finite double is written as a literal. -/
theorem exists_literal_render (negative : Bool) (mantissa : Nat) (exponent : Int) :
    ∃ q, Literal (finite negative mantissa exponent).render q := by
  rw [render_finite]
  split
  · have hlaid := Laid.intro (fixed_point_zero asciiDigits_zero) .none rfl
    exact ⟨_, hlaid.literal negative⟩
  · exact ⟨_, (laid_layout (shortest mantissa exponent)).literal negative⟩

/-- The doubles that are no numbers are written as names. -/
theorem rational?_eq_none_iff (x : Double) :
    x.rational? = none ↔ ¬∃ q, Literal x.render q := by
  cases x with
  | nan => exact iff_of_true rfl (not_literal (c := 'n') (by decide) (by decide))
  | infinite negative =>
    refine iff_of_true rfl (not_literal (c := 'n') ?_ (by decide))
    cases negative <;> decide
  | finite negative mantissa exponent =>
    exact iff_of_false nofun (not_not.mpr (exists_literal_render negative mantissa exponent))

/-- The size of a double is whole exactly if no bit is behind the point. -/
theorem size_eq_natCast_iff (mantissa : Nat) (exponent : Int) (n : Nat) :
    (mantissa : ℚ) * 2 ^ exponent = n ↔ mantissa % twoTo (-exponent).toNat = 0 ∧
      mantissa * twoTo exponent.toNat / twoTo (-exponent).toNat = n := by
  cases exponent with
  | ofNat k =>
    have hone : twoTo (-Int.ofNat k).toNat = 1 := by
      rw [show (-Int.ofNat k).toNat = 0 by simp]
      rfl
    rw [hone, Nat.mod_one, Nat.div_one, Int.ofNat_eq_natCast, Int.toNat_natCast, zpow_natCast]
    simp only [twoTo, true_and]
    exact_mod_cast Iff.rfl
  | negSucc k =>
    have hpower : (-Int.negSucc k).toNat = k + 1 := rfl
    have hone : twoTo (Int.negSucc k).toNat = 1 := rfl
    have hpos : (0 : ℚ) < 2 ^ (k + 1) := by positivity
    rw [hpower, hone, Nat.mul_one, zpow_negSucc, ← div_eq_mul_inv, div_eq_iff hpos.ne', twoTo]
    constructor
    · intro h
      have hmantissa : mantissa = n * 2 ^ (k + 1) := by exact_mod_cast h
      rw [hmantissa]
      exact ⟨Nat.mul_mod_left _ _, Nat.mul_div_cancel _ (by positivity)⟩
    · rintro ⟨hmod, rfl⟩
      exact_mod_cast (Nat.div_mul_cancel (Nat.dvd_of_mod_eq_zero hmod)).symm

theorem toInt?_eq_some_iff (x : Double) (n : ℤ) :
    x.toInt? = some n ↔ x.rational? = some (n : ℚ) := by
  cases x with
  | finite negative mantissa exponent =>
    simp only [toInt?, isIntegral, truncate, rational?, decide_eq_true_eq, Option.some.injEq]
    constructor
    · intro h
      split at h
      · next hwhole =>
        have hsize := (size_eq_natCast_iff mantissa exponent _).mpr ⟨hwhole, rfl⟩
        generalize mantissa * twoTo exponent.toNat / twoTo (-exponent).toNat = size at h hsize
        cases h
        cases negative <;> simp [hsize]
      · cases h
    · intro h
      -- The sign stands apart from the size, so the size is the absolute value and whole as well.
      have hpositive : (0 : ℚ) ≤ mantissa * 2 ^ exponent := by positivity
      have hsize : (mantissa : ℚ) * 2 ^ exponent = n.natAbs := by
        rw [Nat.cast_natAbs, Int.cast_abs, ← h, abs_mul, abs_of_nonneg hpositive]
        cases negative <;> simp
      obtain ⟨hwhole, hnumber⟩ := (size_eq_natCast_iff mantissa exponent _).mp hsize
      rw [if_pos hwhole, hnumber]
      cases negative with
      | false =>
        have hn : 0 ≤ n := by
          rw [if_neg Bool.false_ne_true, one_mul] at h
          exact_mod_cast h ▸ hpositive
        simp only [Bool.false_eq_true, if_false, Option.some.injEq]
        omega
      | true =>
        have hn : n ≤ 0 := by
          rw [if_pos rfl, neg_one_mul] at h
          exact_mod_cast h ▸ neg_nonpos.mpr hpositive
        simp only [if_true, Option.some.injEq]
        omega
  | _ => simp [toInt?, isIntegral, rational?]

end Double

namespace Decimal

/-- The number that a decimal is. -/
def rational? : Decimal → Option ℚ
  | finite negative coefficient exponent =>
    some ((if negative then -1 else 1) * (coefficient * 10 ^ exponent))
  | _ => none

theorem fixed_pointed {digits : List Char} (h : AsciiDigits digits) (point : ℤ) :
    Fixed (pointed digits point)
      (Nat.ofDigitChars 10 digits 0 * 10 ^ (point - digits.length)) := by
  unfold pointed
  split
  · next hpoint => exact fixed_behind h hpoint
  · next hpoint =>
    split
    · next hlong => exact fixed_before h hlong
    · next hlong => exact fixed_among h (by omega) (by omega)

theorem power_powerSuffix (n : ℤ) : Power (powerSuffix n) n := by
  unfold powerSuffix
  split
  · next hn =>
    rw [hn]
    exact .none
  · exact power_signed (Or.inr rfl) n 0

/-- A finite decimal is written exactly. -/
theorem literal_render {d : Decimal} {q : ℚ} (h : d.rational? = some q) : Literal d.render q := by
  cases d with
  | finite negative coefficient exponent =>
    cases h
    have hdigits := asciiDigits_toDigits coefficient
    unfold render
    dsimp only
    generalize (if exponent ≤ 0 ∧ exponent + (Nat.toDigits 10 coefficient).length > -6 then
      exponent + ((Nat.toDigits 10 coefficient).length : ℤ) else 1) = point
    have hliteral := literal_withSign negative (fixed_pointed hdigits point)
      (power_powerSuffix (exponent + (Nat.toDigits 10 coefficient).length - point))
    have hpower : point - ((Nat.toDigits 10 coefficient).length : ℤ) +
        (exponent + (Nat.toDigits 10 coefficient).length - point) = exponent := by ring
    rwa [Nat.ofDigitChars_ten_toDigits, mul_assoc, ← zpow_add₀ (by norm_num), hpower] at hliteral
  | _ => cases h

/-- The decimals that are no numbers are written as names. -/
theorem rational?_eq_none_iff (d : Decimal) :
    d.rational? = none ↔ ¬∃ q, Literal d.render q := by
  cases d with
  | finite negative coefficient exponent =>
    exact iff_of_false nofun (not_not.mpr ⟨_, literal_render rfl⟩)
  | infinite negative =>
    refine iff_of_true rfl (not_literal (c := 'n') ?_ (by decide))
    cases negative <;> decide
  | nan negative signaling payload =>
    refine iff_of_true rfl (not_literal (c := 'a') ?_ (by decide))
    cases negative <;> cases signaling <;> simp [render, withSign]

end Decimal

end SqlDraft
