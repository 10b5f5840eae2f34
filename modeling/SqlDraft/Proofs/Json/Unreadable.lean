import Mathlib.Data.List.TakeWhile
import SqlDraft.Json.Reader

/-!
Why readers of JSON stop. A reader goes on in what it was given, so an integer of too many digits on
which it stops stands in the text. Each reader is shown to do so from the readers it calls.
-/
namespace SqlDraft.Json

/-- Too many digits are as many digits in a row of the text. -/
inductive Stop.CausedBy (text : List Char) : Stop → Prop where
  | problem (p : Problem) (offset : Nat) : CausedBy text (.problem p offset)
  | numeral {digits : List Char} (hdigits : digits <:+: text) (hall : digits.all Char.isDigit)
      (hlong : Numeral.digitLimit < digits.length) :
      CausedBy text (.numeral (.tooLong digits.length))

/-- A reader leaves an end of its text, or stops for a cause in it. -/
inductive Reads {α : Type} (text : List Char) : Except Stop (α × Cursor) → Prop where
  | ok {a : α} {next : Cursor} (h : next.rest <:+ text) : Reads text (.ok (a, next))
  | stop {stop : Stop} (h : stop.CausedBy text) : Reads text (.error stop)

theorem suffix_drop (c : Cursor) (n : Nat) : (c.drop n).rest <:+ c.rest :=
  List.drop_suffix n c.rest

theorem suffix_skipBlanks (c : Cursor) : c.skipBlanks.rest <:+ c.rest := suffix_drop c _

/-- What comes behind one character and the blanks after it. -/
theorem suffix_behind (c : Cursor) : (c.drop 1).skipBlanks.rest <:+ c.rest :=
  (suffix_skipBlanks _).trans (suffix_drop c 1)

namespace Reads

variable {α β : Type} {text : List Char} {m : Except Stop (α × Cursor)}

theorem fail (p : Problem) (offset : Nat) :
    Reads text (Json.fail p offset : Except Stop (α × Cursor)) :=
  .stop (.problem p offset)

theorem mono {text' : List Char} (h : Reads text m) (htext : text <:+ text') : Reads text' m := by
  cases h with
  | ok hnext => exact .ok (hnext.trans htext)
  | stop hstop =>
    cases hstop with
    | problem p offset => exact .fail p offset
    | numeral hdigits hall hlong => exact .stop (.numeral (hdigits.trans htext.isInfix) hall hlong)

/-- What follows a reader reads on where that left off. -/
theorem bind {f : α × Cursor → Except Stop (β × Cursor)} (hm : Reads text m)
    (hf : ∀ a next, next.rest <:+ text → Reads text (f (a, next))) : Reads text (m >>= f) := by
  cases hm with
  | ok hnext => exact hf _ _ hnext
  | stop hstop => exact .stop hstop

end Reads

theorem unicodeUnit_cases (c : Cursor) :
    (∃ n, unicodeUnit c = .ok n) ∨ ∃ p offset, unicodeUnit c = fail p offset := by
  unfold unicodeUnit
  split
  · exact Or.inr ⟨_, _, rfl⟩
  · split
    · exact Or.inl ⟨_, rfl⟩
    · exact Or.inr ⟨_, _, rfl⟩

theorem reads_unicodeEscape (c : Cursor) : Reads c.rest (unicodeEscape c) := by
  have hfour : (c.drop 4).rest <:+ c.rest := suffix_drop c 4
  unfold unicodeEscape
  rcases unicodeUnit_cases c with ⟨high, hhigh⟩ | ⟨p, offset, hhigh⟩
  · rw [hhigh]
    dsimp only [bind, Except.bind]
    split
    · rcases unicodeUnit_cases ((c.drop 4).drop 2) with ⟨low, hlow⟩ | ⟨p, offset, hlow⟩
      · rw [hlow]
        dsimp only
        split
        · exact .ok ((suffix_drop _ 6).trans hfour)
        · exact .ok hfour
      · rw [hlow]
        exact .fail p offset
    · exact .ok hfour
  · rw [hhigh]
    exact .fail p offset

theorem reads_readText (start fuel : Nat) (c : Cursor) : Reads c.rest (readText start fuel c) := by
  induction fuel generalizing c with
  | zero => exact .fail _ _
  | succ fuel ih =>
    rw [readText]
    split
    · exact .fail _ _
    · exact .ok (suffix_drop c 1)
    · exact .fail _ _
    · refine ((reads_unicodeEscape (c.drop 2)).mono (suffix_drop c 2)).bind ?_
      intro char next hnext
      refine ((ih next).mono hnext).bind ?_
      intro chars last hlast
      exact .ok hlast
    · split
      · exact .fail _ _
      · refine ((ih (c.drop 2)).mono (suffix_drop c 2)).bind ?_
        intro chars last hlast
        exact .ok hlast
    · split
      · exact .fail _ _
      · refine ((ih (c.drop 1)).mono (suffix_drop c 1)).bind ?_
        intro chars last hlast
        exact .ok hlast

theorem wholePart_prefix (cs : List Char) :
    wholePart cs <+: cs ∧ (wholePart cs).all Char.isDigit := by
  unfold wholePart
  split
  · exact ⟨⟨_, rfl⟩, by decide⟩
  · exact ⟨List.takeWhile_prefix _, List.all_takeWhile⟩

theorem reads_readNumber (c : Cursor) : Reads c.rest (readNumber c) := by
  unfold readNumber
  extract_lets negative start
  have hsuffix : start.rest <:+ c.rest := by
    dsimp only [start]
    split
    · exact suffix_drop c 1
    · exact List.suffix_rfl
  obtain ⟨hwhole, hdigits⟩ := wholePart_prefix start.rest
  split
  · exact .fail _ _
  · extract_lets afterWhole fraction afterFraction power
    have hafter : afterWhole.rest <:+ c.rest := (suffix_drop start _).trans hsuffix
    have hfraction : afterFraction.rest <:+ c.rest := by
      dsimp only [afterFraction]
      split
      · exact hafter
      · exact (suffix_drop _ _).trans hafter
    by_cases hint : fraction = [] ∧ power.isNone
    · rw [if_pos hint]
      split
      · next hlong => exact .stop (.numeral (hwhole.isInfix.trans hsuffix.isInfix) hdigits hlong)
      · exact .ok hafter
    · rw [if_neg hint]
      exact .ok ((suffix_drop afterFraction _).trans hfraction)

theorem reads_readScalar (c : Cursor) : Reads c.rest (readScalar c) := by
  unfold readScalar
  split
  · exact .ok (suffix_drop c _)
  · exact reads_readNumber c

section

variable {fuel : Nat}

theorem reads_readValue_succ (hitems : ∀ c, Reads c.rest (readItems fuel c))
    (hmembers : ∀ members c, Reads c.rest (readMembers fuel members c)) (c : Cursor) :
    Reads c.rest (readValue (fuel + 1) c) := by
  have hinner := suffix_behind c
  rw [readValue]
  split
  · refine ((reads_readText c.offset _ (c.drop 1)).mono (suffix_drop c 1)).bind ?_
    intro chars next hnext
    exact .ok hnext
  · dsimp only
    split
    · exact .ok ((suffix_drop _ 1).trans hinner)
    · refine ((hitems _).mono hinner).bind ?_
      intro items next hnext
      exact .ok hnext
  · dsimp only
    split
    · exact .ok ((suffix_drop _ 1).trans hinner)
    · refine ((hmembers ∅ _).mono hinner).bind ?_
      intro members next hnext
      exact .ok hnext
  · exact reads_readScalar c

theorem reads_readItems_succ (hvalue : ∀ c, Reads c.rest (readValue fuel c))
    (hitems : ∀ c, Reads c.rest (readItems fuel c)) (c : Cursor) :
    Reads c.rest (readItems (fuel + 1) c) := by
  rw [readItems]
  refine (hvalue c).bind ?_
  intro item next hnext
  have hafter : next.skipBlanks.rest <:+ c.rest := (suffix_skipBlanks next).trans hnext
  dsimp only
  split
  · exact .ok ((suffix_drop _ 1).trans hafter)
  · refine ((hitems _).mono ((suffix_behind _).trans hafter)).bind ?_
    intro items last hlast
    exact .ok hlast
  · exact .fail _ _

theorem reads_readMembers_succ (hvalue : ∀ c, Reads c.rest (readValue fuel c))
    (hmembers : ∀ members c, Reads c.rest (readMembers fuel members c))
    (members : OrderedMap String Value) (c : Cursor) :
    Reads c.rest (readMembers (fuel + 1) members c) := by
  rw [readMembers]
  split
  · refine ((reads_readText c.offset _ (c.drop 1)).mono (suffix_drop c 1)).bind ?_
    intro name colon hname
    have hcolon : colon.skipBlanks.rest <:+ c.rest := (suffix_skipBlanks colon).trans hname
    dsimp only
    split
    · refine ((hvalue _).mono ((suffix_behind _).trans hcolon)).bind ?_
      intro value next hnext
      have hafter : next.skipBlanks.rest <:+ c.rest := (suffix_skipBlanks next).trans hnext
      dsimp only
      split
      · exact .ok ((suffix_drop _ 1).trans hafter)
      · exact (hmembers _ _).mono ((suffix_behind _).trans hafter)
      · exact .fail _ _
    · exact .fail _ _
  · exact .fail _ _

end

theorem reads_readers (fuel : Nat) :
    (∀ c, Reads c.rest (readValue fuel c)) ∧ (∀ c, Reads c.rest (readItems fuel c)) ∧
      ∀ members c, Reads c.rest (readMembers fuel members c) := by
  induction fuel with
  | zero => exact ⟨fun c => .fail _ _, fun c => .fail _ _, fun members c => .fail _ _⟩
  | succ fuel ih =>
    obtain ⟨hvalue, hitems, hmembers⟩ := ih
    exact ⟨reads_readValue_succ hitems hmembers, reads_readItems_succ hvalue hitems,
      reads_readMembers_succ hvalue hmembers⟩

/-- A text that is not read has a problem, or too many digits in a row. -/
theorem causedBy_of_readAll {text : List Char} {stop : Stop} (h : readAll text = .error stop) :
    stop.CausedBy text := by
  have hreads : Reads text (readValue (2 * text.length + 2) (Cursor.skipBlanks ⟨text, 0⟩)) :=
    ((reads_readers _).1 _).mono (suffix_skipBlanks ⟨text, 0⟩)
  unfold readAll at h
  cases hvalue : readValue (2 * text.length + 2) (Cursor.skipBlanks ⟨text, 0⟩) with
  | error fault =>
    rw [hvalue] at h hreads
    cases h
    cases hreads with
    | stop hstop => exact hstop
  | ok read =>
    rw [hvalue] at h
    dsimp only [bind, Except.bind] at h
    split at h
    · cases h
    · cases h
      exact .problem _ _

theorem read_of_marked {s : String} (h : s.toList.head? = some '\uFEFF') :
    Json.read s = .error (.malformed (Fault.locate s.toList .byteOrderMark 0)) := by
  obtain ⟨rest, hrest⟩ := List.head?_eq_some_iff.mp h
  simp only [Json.read, hrest]

theorem read_of_unmarked {s : String} (h : s.toList.head? ≠ some '\uFEFF') :
    Json.read s = readChars s.toList := by
  unfold Json.read
  split
  · next rest hstart => exact absurd (congrArg List.head? hstart) h
  · rfl

theorem ne_of_isDigit {d : Char} (hd : d.isDigit) {e : Char} (he : e.isDigit = false) : d ≠ e := by
  rintro rfl
  rw [hd] at he
  cases he

theorem isBlank_of_isDigit {d : Char} (hd : d.isDigit) : isBlank d = false := by
  simp only [isBlank, Bool.or_eq_false_iff, decide_eq_false_iff_not]
  exact ⟨⟨⟨ne_of_isDigit hd rfl, ne_of_isDigit hd rfl⟩, ne_of_isDigit hd rfl⟩,
    ne_of_isDigit hd rfl⟩

theorem skipBlanks_of_head {d : Char} {c : Cursor} {rest : List Char} (hc : c.rest = d :: rest)
    (hd : isBlank d = false) : c.skipBlanks = c := by
  have hnone : (c.rest.takeWhile isBlank).length = 0 := by
    rw [hc, List.takeWhile_cons_of_neg (by simp [hd]), List.length_nil]
  rw [Cursor.skipBlanks, hnone]
  rfl

theorem readScalar_of_isDigit {d : Char} {c : Cursor} {rest : List Char} (hc : c.rest = d :: rest)
    (hd : d.isDigit) : readScalar c = readNumber c := by
  have hletter : ∀ e : Char, e.isDigit = false → (e == d) = false := fun e he =>
    beq_false_of_ne (ne_of_isDigit hd he).symm
  have hnone : literals.find? (fun l => l.1.isPrefixOf c.rest) = none := by
    simp [literals, hc, List.isPrefixOf, hletter]
  unfold readScalar
  rw [hnone]

theorem readValue_of_isDigit {d : Char} {c : Cursor} {rest : List Char} (fuel : Nat)
    (hc : c.rest = d :: rest) (hd : d.isDigit) : readValue (fuel + 1) c = readNumber c := by
  have hne : ∀ e tail, e.isDigit = false → c.rest ≠ e :: tail := by
    intro e tail he hcons
    rw [hc] at hcons
    exact ne_of_isDigit hd he (List.cons.inj hcons).1
  rw [readValue]
  split
  · next tail hcons => exact absurd hcons (hne _ tail rfl)
  · next tail hcons => exact absurd hcons (hne _ tail rfl)
  · next tail hcons => exact absurd hcons (hne _ tail rfl)
  · exact readScalar_of_isDigit hc hd

section

variable {digits : List Char} (hall : digits.all Char.isDigit) (hzero : digits.head? ≠ some '0')

include hall hzero

theorem wholePart_of_digits : wholePart digits = digits := by
  unfold wholePart
  split
  · exact absurd rfl hzero
  · exact List.takeWhile_eq_self_iff.mpr (List.all_eq_true.mp hall)

theorem readNumber_tooLong (hlong : Numeral.digitLimit < digits.length) (offset : Nat) :
    readNumber ⟨digits, offset⟩ = .error (.numeral (.tooLong digits.length)) := by
  have hwhole := wholePart_of_digits hall hzero
  have hsign : digits.head? ≠ some '-' := by
    intro hhead
    cases List.all_eq_true.mp hall _ (List.mem_of_head? hhead)
  cases digits with
  | nil => cases hlong
  | cons d rest =>
    unfold readNumber
    simp only [hsign, decide_false, if_false, hwhole, Cursor.drop,
      List.drop_length, fractionPart, powerPart, Option.isNone_none, and_self, if_true]
    exact if_pos hlong

omit hzero in
/-- Behind brackets and in front of digits nothing is skipped and no bracket closes. -/
theorem exists_head_nested (hlong : Numeral.digitLimit < digits.length) (depth : Nat) :
    ∃ d rest, List.replicate depth '[' ++ digits = d :: rest ∧ isBlank d = false ∧ d ≠ ']' := by
  cases depth with
  | zero =>
    cases digits with
    | nil => cases hlong
    | cons d rest =>
      have hd : d.isDigit := List.all_eq_true.mp hall d List.mem_cons_self
      exact ⟨d, rest, rfl, isBlank_of_isDigit hd, ne_of_isDigit hd rfl⟩
  | succ depth =>
    exact ⟨'[', List.replicate depth '[' ++ digits, by rw [List.replicate_succ, List.cons_append],
      by decide, by decide⟩

/-- Each bracket takes two units of fuel, one for the list and one for its first item. -/
theorem readValue_tooLong (hlong : Numeral.digitLimit < digits.length) (depth : Nat) {fuel : Nat}
    (hfuel : 2 * depth < fuel) (offset : Nat) :
    readValue fuel ⟨List.replicate depth '[' ++ digits, offset⟩ =
      .error (.numeral (.tooLong digits.length)) := by
  induction depth generalizing fuel offset with
  | zero =>
    obtain ⟨fuel, rfl⟩ := Nat.exists_eq_add_one_of_ne_zero (Nat.ne_zero_of_lt hfuel)
    have hnumber := readNumber_tooLong hall hzero hlong offset
    cases digits with
    | nil => cases hlong
    | cons d rest =>
      have hd : d.isDigit := List.all_eq_true.mp hall d List.mem_cons_self
      exact (readValue_of_isDigit fuel rfl hd).trans hnumber
  | succ depth ih =>
    obtain ⟨fuel, rfl⟩ : ∃ f, fuel = f + 2 := ⟨fuel - 2, by omega⟩
    obtain ⟨d, rest, hhead, hblank, hopen⟩ := exists_head_nested hall hlong depth
    have hskip := skipBlanks_of_head (c := ⟨List.replicate depth '[' ++ digits, offset + 1⟩) hhead
      hblank
    have hitems : readItems (fuel + 1) ⟨List.replicate depth '[' ++ digits, offset + 1⟩ =
        .error (.numeral (.tooLong digits.length)) := by
      rw [readItems, ih (by omega)]
      rfl
    simp only [List.replicate_succ, List.cons_append, readValue, Cursor.drop, List.drop_succ_cons,
      List.drop_zero, hskip]
    split
    · next tail hclose =>
      rw [hhead] at hclose
      exact absurd (List.cons.inj hclose).1 hopen
    · rw [hitems]
      rfl

/-- Too many digits are not read behind any number of opening brackets. -/
theorem readAll_tooLong (hlong : Numeral.digitLimit < digits.length) (depth : Nat) :
    readAll (List.replicate depth '[' ++ digits) = .error (.numeral (.tooLong digits.length)) := by
  obtain ⟨d, rest, hhead, hblank, -⟩ := exists_head_nested hall hlong depth
  have hfuel : 2 * depth < 2 * (List.replicate depth '[' ++ digits).length + 2 := by
    rw [List.length_append, List.length_replicate]
    omega
  rw [readAll, skipBlanks_of_head hhead hblank, readValue_tooLong hall hzero hlong depth hfuel]
  rfl

end

end SqlDraft.Json
