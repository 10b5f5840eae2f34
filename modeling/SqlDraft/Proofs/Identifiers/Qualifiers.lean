import Mathlib.Data.List.Basic
import SqlDraft.Proofs.Identifiers.Expressions

/-!
Names of declared tables as qualifiers. A column behind such a name and a point is quoted part by
part exactly if the name is a word, or a known word behind backticks: only a word before a point is
looked up, and no other name is one.
-/
namespace SqlDraft

open Text

/-- Each character that is escaped brings a backslash. -/
theorem Text.length_withoutTicks_escapeChars (cs : List Char) :
    (withoutTicks (escapeChars cs)).length =
      (withoutTicks cs).length + cs.countP fun c => (escapeLetter c).isSome := by
  induction cs with
  | nil => rfl
  | cons c rest ih =>
    cases hc : escapeLetter c with
    | some e =>
      have htick : c ≠ '`' := by
        rintro rfl
        cases hc
      have htick' : e ≠ '`' := by
        rintro rfl
        cases escapeLetter_eq_some_iff.mp hc
      rw [escapeChars_cons_of_some hc, withoutTicks_cons (by decide), withoutTicks_cons htick',
        withoutTicks_cons htick, List.countP_cons_of_pos (by simp [hc])]
      simp only [List.length_cons, ih]
      omega
    | none =>
      rw [escapeChars_cons_of_none hc, List.countP_cons_of_neg (by simp [hc])]
      by_cases htick : c = '`'
      · rw [htick, withoutTicks_tick, withoutTicks_tick, ih]
      · rw [withoutTicks_cons htick, withoutTicks_cons htick, List.length_cons, ih,
          List.length_cons]
        omega

theorem Text.escapeChars_of_length {cs : List Char}
    (h : (withoutTicks (escapeChars cs)).length = (withoutTicks cs).length) :
    escapeChars cs = cs := by
  rw [length_withoutTicks_escapeChars, Nat.add_eq_left, List.countP_eq_zero] at h
  exact escapeChars_of_plain fun c hc => by simpa using h c hc

namespace Segment

theorem PairScan.exists_run_append (state : PairScan) (cs : List Char) :
    ∃ (l : List Segment) (last : PairScan), (∀ rest, state.run (cs ++ rest) = l ++ last.run rest) ∧
      l.flatMap source ++ last.pending = state.pending ++ cs := by
  induction cs generalizing state with
  | nil => exact ⟨[], state, fun _ => rfl, by simp⟩
  | cons x rest ih =>
    obtain ⟨l, last, hrun, hpending⟩ := ih (state.step x).2
    refine ⟨(state.step x).1 ++ l, last, fun others => ?_, ?_⟩
    · rw [List.cons_append, run, hrun, List.append_assoc]
    · rw [List.flatMap_append, List.append_assoc, hpending, ← List.append_assoc, pending_step]
      simp

/-- Of a text with a point before its last word, the end is a pair, or the point and the word stand
for themselves. -/
theorem pairs_qualified (cs : List Char) (column : Word) :
    (∃ l w, cs = l.flatMap source ++ w ∧
      pairs (cs ++ '.' :: column.text.toList) = l ++ [.pair w column.text.toList]) ∨
    ∃ l, pairs (cs ++ '.' :: column.text.toList) =
      l ++ [.plain ['.'], .plain column.text.toList] := by
  obtain ⟨l, last, hrun, hpending⟩ := PairScan.exists_run_append .outside cs
  have hword : PairScan.outside.run column.text.toList = [.plain column.text.toList] := by
    have hend := column.pairs_append Apart.nil
    rwa [List.append_nil] at hend
  have hcolumn : ¬isColumnChar '.' := by decide
  cases last with
  | outside =>
    refine Or.inr ⟨l, ?_⟩
    rw [pairs, hrun, PairScan.run_plain (by decide), hword]
  | word w =>
    have hcolumn := Segment.all_isColumnChar column.named
    have hpair := PairScan.run_word_point hcolumn column.toList_ne_nil w []
    rw [List.append_nil] at hpair
    exact Or.inl ⟨l, w, hpending.symm, by rw [pairs, hrun, hpair]; rfl⟩
  | point w =>
    refine Or.inr ⟨l ++ [.plain w, .plain ['.']], ?_⟩
    rw [pairs, hrun, PairScan.run, PairScan.step, if_neg hcolumn, hword]
    simp
  | column w c =>
    refine Or.inr ⟨l ++ [.pair w c], ?_⟩
    rw [pairs, hrun, PairScan.run, PairScan.step, if_neg hcolumn, hword]
    simp

namespace AliasScan

variable (ids : Identifiers) {x : Char} (hx : isWordChar x = false) (hblank : x ≠ ' ')

include hx hblank

/-- A character that is neither of a word nor a space ends whatever was read before it. -/
theorem step_boundary (state : AliasScan) : ∃ before,
    (state.step x).1.flatMap (Segment.render ids) = before ++ [x] ∧
      (state.step x).2 = outside false := by
  have hname := isNameChar_eq_false hx
  have ha : x ≠ 'a' := ne_of_isWordChar hx (by decide)
  have hs : x ≠ 's' := ne_of_isWordChar hx (by decide)
  have hA : x ≠ 'A' := ne_of_isWordChar hx (by decide)
  have hS : x ≠ 'S' := ne_of_isWordChar hx (by decide)
  cases state with
  | outside inWord => exact ⟨[], by simp [step, pass, ha, hA, hx]⟩
  | letter k => exact ⟨[k], by simp [step, pass, hs, hS, hx]⟩
  | keyword k => exact ⟨k, by simp [step, pass, hblank, hx]⟩
  | blank k => exact ⟨k ++ [' '], by simp [step, pass, hname, hx]⟩
  | name k w => exact ⟨Segment.render ids (.aliased k w), by simp [step, pass, hname, hx]⟩

theorem written_boundary (state : AliasScan) (cs rest : List Char) : ∃ before,
    written ids state (cs ++ x :: rest) = before ++ x :: written ids (outside false) rest := by
  induction cs generalizing state with
  | nil =>
    obtain ⟨before, hgiven, hnext⟩ := step_boundary ids hx hblank state
    exact ⟨before, by rw [List.nil_append, written_cons, hgiven, hnext, List.append_assoc]; rfl⟩
  | cons c cs ih =>
    obtain ⟨before, hrest⟩ := ih (state.step c).2
    exact ⟨_, by rw [List.cons_append, written_cons, hrest, ← List.append_assoc]⟩

end AliasScan

end Segment

theorem Word.escapeChars_eq (w : Word) : escapeChars w.text.toList = w.text.toList :=
  escapeChars_of_plain fun c hc =>
    escapeLetter_of_isColumnChar (List.all_eq_true.mp (Segment.all_isColumnChar w.named) c hc)

namespace Identifiers

/-- Backticks in a row. -/
def ticks (k : Nat) : String := String.ofList (List.replicate k '`')

variable (ids : Identifiers) (name : String) (column : Word)

theorem toList_qualified : (quoteName name ++ "." ++ quoteName column.text).toList =
    '`' :: escapeChars name.toList ++ '`' :: '.' :: column.ticked.toList := by
  simp [quoteName, escape, ← column.toList_quoteName]

theorem isWordChar_of_mem_ticks {k : Nat} : ∀ c ∈ List.replicate k '`', isWordChar c = false := by
  intro c hc
  rw [List.eq_of_mem_replicate hc]
  decide

theorem escapeChars_ticks (k : Nat) (w : Word) :
    escapeChars (ticks k ++ w.text).toList = (ticks k ++ w.text).toList := by
  have hticks : escapeChars (List.replicate k '`') = List.replicate k '`' :=
    escapeChars_of_plain fun c hc => List.eq_of_mem_replicate hc ▸ escapeLetter_backtick
  rw [String.toList_append, ticks, String.toList_ofList, escapeChars_append, hticks,
    w.escapeChars_eq]

/-- A known word is quoted before a point, also behind backticks. -/
theorem quotedPairs_known {w : Word} (hw : w.text ∈ ids.names) (k : Nat) :
    ids.quotedPairs (ticks k ++ w.text ++ "." ++ column.text) =
      List.replicate k '`' ++ (w.ticked.toList ++ '.' :: (column.ticked.toList ++ [])) := by
  have htext : (ticks k ++ w.text ++ "." ++ column.text).toList =
      List.replicate k '`' ++ (w.text.toList ++ '.' :: column.text.toList ++ []) := by
    simp [ticks]
  have hpair := w.pairs_pair_append column.toList_ne_nil (Segment.all_isColumnChar column.named)
    Apart.nil
  have hpairs : Segment.pairs (ticks k ++ w.text ++ "." ++ column.text).toList =
      (List.replicate k '`').map (fun c => .plain [c]) ++
        [.pair w.text.toList column.text.toList] := by
    rw [htext, Segment.pairs, Segment.PairScan.run_separator isWordChar_of_mem_ticks]
    exact congrArg _ hpair
  rw [quotedPairs, hpairs, List.flatMap_append, List.flatMap_map, List.flatMap_singleton,
    w.render_pair, if_pos hw, column.quotePart_eq]
  simp

theorem quoteWithin_known {w : Word} (hw : w.text ∈ ids.names) (k : Nat) :
    (ids.quoteWithin (ticks k ++ w.text ++ "." ++ column.text)).1 =
      quoteName (ticks k ++ w.text) ++ "." ++ quoteName column.text := by
  have haliases : (Segment.AliasScan.outside false).written ids
      (ids.quotedPairs (ticks k ++ w.text ++ "." ++ column.text)) =
        List.replicate k '`' ++ (w.ticked.toList ++ '.' :: column.ticked.toList) := by
    rw [quotedPairs_known ids column hw,
      Segment.AliasScan.written_separator ids isWordChar_of_mem_ticks, w.written_ticked,
      Segment.AliasScan.written_outside ids (by decide), column.written_ticked]
    simp [Segment.AliasScan.finish]
  -- The backtick before the word may as well stand before the others.
  have hshift (l : List Char) : List.replicate k '`' ++ '`' :: l =
      '`' :: (List.replicate k '`' ++ l) := by
    rw [← List.cons_append, ← List.replicate_succ, List.replicate_succ', List.append_assoc]
    rfl
  apply String.toList_injective
  rw [toList_qualified, escapeChars_ticks]
  refine (String.toList_ofList.trans haliases).trans ?_
  simp [ticks, Word.ticked, hshift]

/-- A name and a column quoted each have two backticks more than both quoted as one. -/
theorem length_qualified : (quoteName name ++ "." ++ quoteName column.text).toList.length =
    (quoteName (name ++ "." ++ column.text)).toList.length + 2 := by
  have hpoint : escapeChars ('.' :: column.text.toList) = '.' :: column.text.toList := by
    rw [escapeChars_cons_of_none (by decide), column.escapeChars_eq]
  have hwhole : (quoteName (name ++ "." ++ column.text)).toList =
      '`' :: escapeChars name.toList ++ '.' :: column.text.toList ++ ['`'] := by
    simp [quoteName, escape, escapeChars_append, hpoint]
  rw [hwhole, toList_qualified]
  simp [Word.ticked]
  omega

variable {ids name column}

/-- Where a column behind a name is quoted part by part, no character of the name is escaped. -/
theorem toList_of_qualified (h : (ids.quoteWithin (name ++ "." ++ column.text)).1 =
    quoteName name ++ "." ++ quoteName column.text) :
    (ids.quoteWithin (name ++ "." ++ column.text)).1.toList =
      '`' :: name.toList ++ '`' :: '.' :: column.ticked.toList := by
  obtain ⟨capitals, hcapitals, hticks⟩ := ids.quoteWithin_ticked (name ++ "." ++ column.text)
  have hlength := hcapitals.length_withoutTicks
  rw [hticks.withoutTicks_eq, h, toList_qualified] at hlength
  have hescape : escapeChars name.toList = name.toList := by
    apply escapeChars_of_length
    have hcolumn : withoutTicks column.ticked.toList = withoutTicks column.text.toList := by
      have hticked := (Ticked.quoted column.text.toList).withoutTicks_eq
      rw [hticked]
      simp [Word.ticked]
    have hpoint : withoutTicks ".".toList = ['.'] := rfl
    have hbehind := withoutTicks_cons (show '.' ≠ '`' by decide) column.ticked.toList
    simp only [String.toList_append, List.cons_append, withoutTicks_append, withoutTicks_tick,
      hpoint, hbehind, hcolumn, List.length_append, List.length_cons, List.length_nil] at hlength
    omega
  rw [h, toList_qualified, hescape]

theorem toList_quoteWithin (ids : Identifiers) (text : String) :
    (ids.quoteWithin text).1.toList =
      (Segment.AliasScan.outside false).written ids (ids.quotedPairs text) := String.toList_ofList

/-- Where the scanner of pairs leaves a point and a column at the end, the one of aliases does. -/
theorem not_qualified_of_plain {text : String} {m n : List Char}
    (hpairs : ids.quotedPairs text = m ++ '.' :: column.text.toList) :
    (ids.quoteWithin text).1.toList ≠ '`' :: n ++ '`' :: '.' :: column.ticked.toList := by
  intro h
  obtain ⟨before, hwritten⟩ := Segment.AliasScan.written_boundary ids (x := '.') (by decide)
    (by decide) (.outside false) m column.text.toList
  have hword : (Segment.AliasScan.outside false).written ids column.text.toList =
      column.text.toList := by
    have hend := Segment.AliasScan.written_word ids column.all_isWordChar
      (show ∀ x ∈ [].head?, isWordChar x = false by simp) (by simp)
    simpa [Segment.AliasScan.finish] using hend
  rw [toList_quoteWithin, hpairs, hwritten, hword] at h
  have hlast := congrArg List.getLast? h
  have hcolumn : column.text.toList.getLast? = some '`' := by
    rw [List.getLast?_append_cons, List.getLast?_cons_of_ne_nil column.toList_ne_nil] at hlast
    rw [hlast]
    simp [Word.ticked, List.getLast?_append, List.getLast?_cons]
  have hmem := List.mem_of_getLast? hcolumn
  exact absurd (List.all_eq_true.mp column.named _ hmem) (by decide)

theorem eq_replicate_of_shift {c : Char} {l : List Char} (h : l ++ [c] = c :: l) :
    l = List.replicate l.length c := by
  induction l with
  | nil => rfl
  | cons d rest ih =>
    obtain ⟨rfl, hrest⟩ := List.cons_eq_cons.mp h
    rw [List.length_cons, List.replicate_succ, ← ih hrest]

/-- Before a pair of a known table nothing is left to quote, if the text is that of a qualified
name: it has no room for more backticks. -/
theorem toList_of_pair {l : List Segment} {w : Word} (hw : w.text ∈ ids.names)
    (hname : name.toList = l.flatMap Segment.source ++ w.text.toList)
    (hpairs : Segment.pairs (name ++ "." ++ column.text).toList =
      l ++ [.pair w.text.toList column.text.toList])
    (hwhole : (ids.quoteWithin (name ++ "." ++ column.text)).1.toList =
      '`' :: name.toList ++ '`' :: '.' :: column.ticked.toList) :
    (ids.quoteWithin (name ++ "." ++ column.text)).1.toList =
      l.flatMap Segment.source ++ w.ticked.toList ++ '.' :: column.ticked.toList := by
  have hquoted : ids.quotedPairs (name ++ "." ++ column.text) =
      l.flatMap (Segment.render ids) ++ w.ticked.toList ++ '.' :: column.ticked.toList := by
    rw [quotedPairs, hpairs, List.flatMap_append, List.flatMap_singleton, w.render_pair, if_pos hw,
      column.quotePart_eq, List.append_assoc]
  have hproper : ∀ s ∈ l, s.Proper := by
    intro s hs
    have hpair := Segment.proper_pairs (name ++ "." ++ column.text).toList s
    exact (hpair (hpairs ▸ List.mem_append_left _ hs)).1
  have halias := Segment.proper_aliases (ids.quotedPairs (name ++ "." ++ column.text))
  have hwritten : (ids.quoteWithin (name ++ "." ++ column.text)).1.toList =
      (Segment.aliases (ids.quotedPairs (name ++ "." ++ column.text))).flatMap
        (Segment.render ids) := ids.toList_quoteWithin _
  have hpairsLonger := Segment.length_source_le ids hproper
  have haliasesLonger := Segment.length_source_le ids halias
  have hsource := Segment.flatMap_source_aliases (ids.quotedPairs (name ++ "." ++ column.text))
  have hticked : w.ticked.toList.length = w.text.toList.length + 2 := by simp [Word.ticked]
  have hquotedLength := congrArg List.length hquoted
  have hlength := congrArg List.length hwhole
  rw [hname, hwritten] at hlength
  rw [hsource] at haliasesLonger
  simp only [List.length_append, List.length_cons, hticked] at hquotedLength hlength
  have hbefore := Segment.flatMap_render_of_length ids hproper (by omega)
  have hbehind := Segment.flatMap_render_of_length ids halias (by
    rw [hsource]
    omega)
  rw [hwritten, hbehind, hsource, hquoted, hbefore]

/-- Then the backtick before the word is the one in front of the name, so all between them are. -/
theorem eq_ticks_of_pair {l : List Segment} {w : Word} (hw : w.text ∈ ids.names)
    (hname : name.toList = l.flatMap Segment.source ++ w.text.toList)
    (hpairs : Segment.pairs (name ++ "." ++ column.text).toList =
      l ++ [.pair w.text.toList column.text.toList])
    (hwhole : (ids.quoteWithin (name ++ "." ++ column.text)).1.toList =
      '`' :: name.toList ++ '`' :: '.' :: column.ticked.toList) :
    name = ticks (l.flatMap Segment.source).length ++ w.text := by
  have hshift := toList_of_pair hw hname hpairs hwhole
  rw [hwhole, hname] at hshift
  have hbehind : ('`' :: l.flatMap Segment.source) ++
        (w.text.toList ++ '`' :: '.' :: column.ticked.toList) =
      (l.flatMap Segment.source ++ ['`']) ++
        (w.text.toList ++ '`' :: '.' :: column.ticked.toList) := by
    simpa [Word.ticked] using hshift
  apply String.toList_injective
  rw [hname, eq_replicate_of_shift (List.append_cancel_right hbehind).symm]
  simp [ticks]

/-- Where a column behind a name is quoted part by part, the scanner of pairs ends with a pair of a
known word, and all that stands before this word are backticks. -/
theorem known_of_qualified (h : (ids.quoteWithin (name ++ "." ++ column.text)).1 =
    quoteName name ++ "." ++ quoteName column.text) :
    ∃ (k : Nat) (w : Word), name = ticks k ++ w.text ∧ w.text ∈ ids.names := by
  have hwhole := toList_of_qualified h
  have htext : (name ++ "." ++ column.text).toList = name.toList ++ '.' :: column.text.toList := by
    simp
  have hproper := Segment.proper_pairs (name ++ "." ++ column.text).toList
  rcases Segment.pairs_qualified name.toList column with ⟨l, w, hname, hpairs⟩ | ⟨l, hpairs⟩
  · rw [← htext] at hpairs
    rw [hpairs] at hproper
    obtain ⟨-, hpair⟩ := List.forall_mem_append.mp hproper
    obtain ⟨⟨hne, hw, -⟩, -⟩ := hpair _ List.mem_cons_self
    obtain ⟨w, rfl⟩ : ∃ word : Word, w = word.text.toList :=
      ⟨⟨String.ofList w, by simpa using hne, by simpa using hw⟩, String.toList_ofList.symm⟩
    by_cases hknown : w.text ∈ ids.names
    · exact ⟨_, w, eq_ticks_of_pair hknown hname hpairs hwhole, hknown⟩
    · have hquoted : ids.quotedPairs (name ++ "." ++ column.text) =
          (l.flatMap (Segment.render ids) ++ w.text.toList) ++ '.' :: column.text.toList := by
        rw [quotedPairs, hpairs, List.flatMap_append, List.flatMap_singleton, w.render_pair,
          if_neg hknown, List.append_assoc]
      exact absurd hwhole (not_qualified_of_plain hquoted)
  · have hquoted : ids.quotedPairs (name ++ "." ++ column.text) =
        l.flatMap (Segment.render ids) ++ '.' :: column.text.toList := by
      rw [quotedPairs, htext, hpairs]
      simp
    exact absurd hwhole (not_qualified_of_plain hquoted)

/-- A column behind a name is quoted part by part exactly if the name is a known word, with or
without backticks before it. -/
theorem quote_qualified_iff (ids : Identifiers) (name : String) (column : Word) (force : Bool) :
    ids.quote (name ++ "." ++ column.text) force = quoteName name ++ "." ++ quoteName column.text ↔
      ∃ (k : Nat) (w : Word), name = ticks k ++ w.text ∧ w.text ∈ ids.names := by
  constructor
  · intro h
    cases force with
    | false => exact known_of_qualified (by rwa [quote_unforced] at h)
    | true =>
      rw [quote_forced, quote_unforced] at h
      split at h
      · exact known_of_qualified h
      · have hlength := length_qualified name column
        rw [← h] at hlength
        omega
  · rintro ⟨k, w, rfl, hw⟩
    have hknown := quoteWithin_known ids column hw k
    cases force with
    | false => rw [quote_unforced, hknown]
    | true =>
      rw [quote_forced, quote_unforced, if_pos, hknown]
      refine Or.inl fun hsame => ?_
      have htext := congrArg (fun text : String => text.toList.length) hsame
      simp [toList_of_qualified hknown, Word.ticked] at htext
      omega

end Identifiers

end SqlDraft
