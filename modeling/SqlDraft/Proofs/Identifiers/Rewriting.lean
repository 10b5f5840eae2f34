import SqlDraft.Identifiers.Quoting
import SqlDraft.Proofs.Text.Quoting

/-!
What quoting leaves of a text. Backticks are put in and the keywords of aliases go into capitals,
and that is all: no character is lost or changed in any other way. A text in which something is
quoted gets longer, so quoting by force wraps exactly the texts that would else be left as they
are, but for those with a space and the lone star.
-/
namespace SqlDraft

namespace Text

def withoutTicks (cs : List Char) : List Char := cs.filter (· ≠ '`')

theorem withoutTicks_tick (cs : List Char) : withoutTicks ('`' :: cs) = withoutTicks cs := rfl

theorem withoutTicks_cons {c : Char} (h : c ≠ '`') (cs : List Char) :
    withoutTicks (c :: cs) = c :: withoutTicks cs := by
  simp [withoutTicks, h]

theorem withoutTicks_append (cs ds : List Char) :
    withoutTicks (cs ++ ds) = withoutTicks cs ++ withoutTicks ds := List.filter_append ..

/-- A text, and the same with some backticks put in. -/
inductive Ticked : List Char → List Char → Prop where
  | nil : Ticked [] []
  | same (c : Char) {cs ds : List Char} (h : Ticked cs ds) : Ticked (c :: cs) (c :: ds)
  | tick {cs ds : List Char} (h : Ticked cs ds) : Ticked cs ('`' :: ds)

/-- A text, and the same with some words `as` in capitals, each before one space and a name. -/
inductive Capitalized : List Char → List Char → Prop where
  | nil : Capitalized [] []
  | same (c : Char) {cs ds : List Char} (h : Capitalized cs ds) : Capitalized (c :: cs) (c :: ds)
  | keyword {x : Char} {cs ds : List Char} (hx : isNameChar x) (h : Capitalized (x :: cs) ds) :
      Capitalized ('a' :: 's' :: ' ' :: x :: cs) ('A' :: 'S' :: ' ' :: ds)

namespace Ticked

theorem refl (cs : List Char) : Ticked cs cs := by
  induction cs with
  | nil => exact .nil
  | cons c rest ih => exact .same c ih

theorem append {cs ds es fs : List Char} (h : Ticked cs ds) (h' : Ticked es fs) :
    Ticked (cs ++ es) (ds ++ fs) := by
  induction h with
  | nil => exact h'
  | same c _ ih => exact .same c ih
  | tick _ ih => exact .tick ih

/-- A part in backticks. -/
theorem quoted (cs : List Char) : Ticked cs ('`' :: cs ++ ['`']) := by
  have hbehind : Ticked (cs ++ []) (cs ++ ['`']) := (refl cs).append (.tick .nil)
  rw [List.append_nil] at hbehind
  exact .tick hbehind

theorem trans {cs ds es : List Char} (h : Ticked cs ds) (h' : Ticked ds es) : Ticked cs es := by
  induction h' generalizing cs with
  | nil => exact h
  | same c _ ih =>
    cases h with
    | same _ h => exact .same c (ih h)
    | tick h => exact .tick (ih h)
  | tick _ ih => exact .tick (ih h)

/-- Characters other than backticks were there before. -/
theorem of_append {w : List Char} (hw : '`' ∉ w) {cs ds : List Char} (h : Ticked cs (w ++ ds)) :
    ∃ es, cs = w ++ es ∧ Ticked es ds := by
  induction w generalizing cs with
  | nil => exact ⟨cs, rfl, h⟩
  | cons c rest ih =>
    rw [List.mem_cons, not_or] at hw
    cases h with
    | same _ h =>
      obtain ⟨es, rfl, hes⟩ := ih hw.2 h
      exact ⟨es, rfl, hes⟩
    | tick _ => exact absurd rfl hw.1

theorem length_le {cs ds : List Char} (h : Ticked cs ds) : cs.length ≤ ds.length := by
  induction h with
  | nil => exact Nat.le_refl 0
  | same c _ ih => exact Nat.succ_le_succ ih
  | tick _ ih => exact Nat.le_succ_of_le ih

theorem withoutTicks_eq {cs ds : List Char} (h : Ticked cs ds) :
    withoutTicks cs = withoutTicks ds := by
  induction h with
  | nil => rfl
  | same c _ ih => rw [← List.singleton_append, withoutTicks_append, ih, ← withoutTicks_append,
      List.singleton_append]
  | tick _ ih => rw [withoutTicks_tick, ih]

end Ticked

namespace Capitalized

theorem refl (cs : List Char) : Capitalized cs cs := by
  induction cs with
  | nil => exact .nil
  | cons c rest ih => exact .same c ih

theorem append {cs ds es fs : List Char} (h : Capitalized cs ds) (h' : Capitalized es fs) :
    Capitalized (cs ++ es) (ds ++ fs) := by
  induction h with
  | nil => exact h'
  | same c _ ih => exact .same c ih
  | keyword hx _ ih => exact .keyword hx ih

theorem length_withoutTicks {cs ds : List Char} (h : Capitalized cs ds) :
    (withoutTicks ds).length = (withoutTicks cs).length := by
  induction h with
  | nil => rfl
  | same c _ ih =>
    by_cases hc : c = '`'
    · rw [hc, withoutTicks_tick, withoutTicks_tick, ih]
    · rw [withoutTicks_cons hc, withoutTicks_cons hc, List.length_cons, List.length_cons, ih]
  | keyword hx _ ih => simpa [withoutTicks_cons] using ih

/-- Keywords may be capitalized before the backticks are put in: no backtick stands between a
keyword and its name. -/
theorem of_ticked {cs ds es : List Char} (h : Ticked cs ds) (h' : Capitalized ds es) :
    ∃ fs, Capitalized cs fs ∧ Ticked fs es := by
  induction h' generalizing cs with
  | nil => exact ⟨cs, refl cs, h⟩
  | same c _ ih =>
    cases h with
    | same _ h =>
      obtain ⟨fs, hcapitals, hticks⟩ := ih h
      exact ⟨c :: fs, .same c hcapitals, .same c hticks⟩
    | tick h =>
      obtain ⟨fs, hcapitals, hticks⟩ := ih h
      exact ⟨fs, hcapitals, .tick hticks⟩
  | @keyword x _ _ hx _ ih =>
    have hname : '`' ∉ [x] := by
      rw [List.mem_singleton]
      rintro rfl
      exact absurd hx (by decide)
    obtain ⟨rest, rfl, hrest⟩ :=
      Ticked.of_append (show '`' ∉ ['a', 's', ' '] by decide) h
    obtain ⟨fs, hcapitals, hticks⟩ := ih hrest
    obtain ⟨behind, rfl, -⟩ := hrest.of_append hname
    exact ⟨_, .keyword hx hcapitals, .same 'A' (.same 'S' (.same ' ' hticks))⟩

end Capitalized

end Text

open Text

theorem escapeLetter_of_isColumnChar {c : Char} (h : Segment.isColumnChar c) :
    escapeLetter c = none := by
  unfold escapeLetter
  split
  all_goals first | rfl | exact absurd h (by decide)

namespace Segment

theorem toList_quoteName {w : List Char} (h : w.all isColumnChar) :
    (quoteName (String.ofList w)).toList = '`' :: w ++ ['`'] := by
  have hplain : ∀ c ∈ (String.ofList w).toList, escapeLetter c = none := by
    rw [String.toList_ofList]
    exact fun c hc => escapeLetter_of_isColumnChar (List.all_eq_true.mp h c hc)
  simp [quoteName, escape_eq_self _ hplain]

theorem all_isColumnChar {w : List Char} (h : w.all isNameChar) : w.all isColumnChar := by
  rw [List.all_eq_true] at h ⊢
  intro c hc
  simp [isColumnChar, h c hc]

/-- The words of a segment have the characters that the scanners look for. -/
def Proper : Segment → Prop
  | plain _ => True
  | pair table column => table ≠ [] ∧ table.all isNameChar ∧ column.all isColumnChar
  | aliased keyword name =>
    (keyword = ['a', 's'] ∨ keyword = ['A', 'S']) ∧ name ≠ [] ∧ name.all isNameChar

def IsAlias : Segment → Prop
  | aliased _ _ => True
  | _ => False

namespace PairScan

def Proper : PairScan → Prop
  | outside => True
  | word w => w ≠ [] ∧ w.all isNameChar
  | point w => w ≠ [] ∧ w.all isNameChar
  | column w c => w ≠ [] ∧ w.all isNameChar ∧ c.all isColumnChar

theorem proper_step {state : PairScan} (h : state.Proper) (x : Char) :
    (∀ s ∈ (state.step x).1, s.Proper ∧ ¬s.IsAlias) ∧ (state.step x).2.Proper := by
  cases state <;> simp only [step] <;> split <;> try split
  all_goals simp_all [Proper, Segment.Proper, IsAlias]

theorem proper_run {state : PairScan} (h : state.Proper) (cs : List Char) :
    ∀ s ∈ state.run cs, s.Proper ∧ ¬s.IsAlias := by
  induction cs generalizing state with
  | nil => cases state <;> simp_all [run, finish, Proper, Segment.Proper, IsAlias]
  | cons x rest ih =>
    intro s hs
    rw [run, List.mem_append] at hs
    exact hs.elim ((proper_step h x).1 s) (ih (proper_step h x).2 s)

end PairScan

namespace AliasScan

def Proper : AliasScan → Prop
  | outside _ => True
  | letter k => k = 'a' ∨ k = 'A'
  | keyword k => k = ['a', 's'] ∨ k = ['A', 'S']
  | blank k => k = ['a', 's'] ∨ k = ['A', 'S']
  | name k w => (k = ['a', 's'] ∨ k = ['A', 'S']) ∧ w ≠ [] ∧ w.all isNameChar

theorem proper_step {state : AliasScan} (h : state.Proper) (x : Char) :
    (∀ s ∈ (state.step x).1, s.Proper) ∧ (state.step x).2.Proper := by
  cases state <;> simp only [step] <;> split
  all_goals simp_all [pass, Proper, Segment.Proper]

theorem proper_run {state : AliasScan} (h : state.Proper) (cs : List Char) :
    ∀ s ∈ state.run cs, s.Proper := by
  induction cs generalizing state with
  | nil => cases state <;> simp_all [run, finish, Proper, Segment.Proper]
  | cons x rest ih =>
    intro s hs
    rw [run, List.mem_append] at hs
    exact hs.elim ((proper_step h x).1 s) (ih (proper_step h x).2 s)

end AliasScan

variable (ids : Identifiers)

theorem ticked_quotePart {part : List Char} (h : part.all isColumnChar) :
    Ticked part (quotePart part) := by
  unfold quotePart
  split
  · exact .refl part
  · rw [toList_quoteName h]
    exact .quoted part

/-- Besides an alias, a segment only gets backticks. -/
theorem ticked_render {s : Segment} (h : s.Proper) (halias : ¬s.IsAlias) :
    Ticked s.source (s.render ids) := by
  unfold render
  split
  · cases s with
    | plain chars => exact .refl chars
    | pair table column =>
      have htable := ticked_quotePart (all_isColumnChar h.2.1)
      exact htable.append (.same '.' (ticked_quotePart h.2.2))
    | aliased keyword name => exact absurd trivial halias
  · exact .refl s.source

/-- An alias gets its keyword in capitals and backticks. -/
theorem capitalized_render {s : Segment} (h : s.Proper) :
    ∃ capitals, Capitalized s.source capitals ∧ Ticked capitals (s.render ids) := by
  cases s with
  | aliased keyword name =>
    obtain ⟨hkeyword, hne, hname⟩ := h
    refine ⟨'A' :: 'S' :: ' ' :: name, ?_, ?_⟩
    · obtain ⟨x, rest, rfl⟩ := List.exists_cons_of_ne_nil hne
      have hx : isNameChar x := List.all_eq_true.mp hname x List.mem_cons_self
      rcases hkeyword with rfl | rfl
      · exact .keyword hx (.refl _)
      · exact .refl _
    · have hrender : render ids (aliased keyword name) =
          'A' :: 'S' :: ' ' :: ('`' :: name ++ ['`']) := by
        simp [render, isQuoted, toList_quoteName (all_isColumnChar hname)]
      rw [hrender]
      exact .same 'A' (.same 'S' (.same ' ' (.quoted name)))
  | _ => exact ⟨_, .refl _, ticked_render ids h id⟩

theorem length_quotePart {part : List Char} (h : part.all isNameChar) :
    (quotePart part).length = part.length + 2 := by
  have hstar : part ≠ ['*'] := by
    rintro rfl
    exact absurd h (by decide)
  rw [quotePart, if_neg hstar, toList_quoteName (all_isColumnChar h)]
  simp

/-- What is quoted gets longer, by two backticks at least. -/
theorem length_render {s : Segment} (h : s.Proper) :
    s.source.length + 2 * [s].countP (isQuoted ids) ≤ (s.render ids).length := by
  unfold render
  by_cases hquoted : s.isQuoted ids
  · rw [if_pos hquoted, List.countP_singleton, if_pos hquoted]
    cases s with
    | plain chars => cases hquoted
    | pair table column =>
      have htable := length_quotePart h.2.1
      have hcolumn := (ticked_quotePart h.2.2).length_le
      simp only [source, List.length_append, List.length_cons]
      omega
    | aliased keyword name =>
      obtain ⟨hkeyword, -, hname⟩ := h
      have hlength : keyword.length = 2 := by rcases hkeyword with rfl | rfl <;> rfl
      simp only [source, toList_quoteName (all_isColumnChar hname), List.length_append,
        List.length_cons, hlength]
      simp
      omega
  · rw [if_neg hquoted, List.countP_singleton, if_neg hquoted]
    exact Nat.le_refl _

variable {l : List Segment}

theorem ticked_flatMap (h : ∀ s ∈ l, s.Proper ∧ ¬s.IsAlias) :
    Ticked (l.flatMap source) (l.flatMap (render ids)) := by
  induction l with
  | nil => exact .nil
  | cons s rest ih =>
    obtain ⟨⟨hs, halias⟩, hrest⟩ := List.forall_mem_cons.mp h
    exact (ticked_render ids hs halias).append (ih hrest)

theorem capitalized_flatMap (h : ∀ s ∈ l, s.Proper) :
    ∃ capitals, Capitalized (l.flatMap source) capitals ∧
      Ticked capitals (l.flatMap (render ids)) := by
  induction l with
  | nil => exact ⟨[], .nil, .nil⟩
  | cons s rest ih =>
    obtain ⟨hs, hrest⟩ := List.forall_mem_cons.mp h
    obtain ⟨first, hfirst, hticks⟩ := capitalized_render ids hs
    obtain ⟨others, hothers, hticks'⟩ := ih hrest
    exact ⟨first ++ others, hfirst.append hothers, hticks.append hticks'⟩

theorem length_flatMap (h : ∀ s ∈ l, s.Proper) :
    (l.flatMap source).length + 2 * l.countP (isQuoted ids) ≤ (l.flatMap (render ids)).length := by
  induction l with
  | nil => exact Nat.le_refl 0
  | cons s rest ih =>
    obtain ⟨hs, hrest⟩ := List.forall_mem_cons.mp h
    have hfirst := length_render ids hs
    have hothers := ih hrest
    have hcount : (s :: rest).countP (isQuoted ids) =
        [s].countP (isQuoted ids) + rest.countP (isQuoted ids) := by
      rw [← List.singleton_append, List.countP_append]
    simp only [List.flatMap_cons, List.length_append, hcount]
    omega

theorem flatMap_render_of_plain {ids : Identifiers} {l : List Segment}
    (h : l.any (isQuoted ids) = false) : l.flatMap (render ids) = l.flatMap source := by
  induction l with
  | nil => rfl
  | cons s rest ih =>
    rw [List.any_cons, Bool.or_eq_false_iff] at h
    have hfirst : s.render ids = s.source := by
      unfold render
      simp [h.1]
    rw [List.flatMap_cons, List.flatMap_cons, ih h.2, hfirst]

theorem length_source_le (h : ∀ s ∈ l, s.Proper) :
    (l.flatMap source).length ≤ (l.flatMap (render ids)).length := by
  have hlonger := length_flatMap ids h
  omega

/-- Where nothing gets longer, nothing is quoted. -/
theorem flatMap_render_of_length (h : ∀ s ∈ l, s.Proper)
    (hlength : (l.flatMap (render ids)).length ≤ (l.flatMap source).length) :
    l.flatMap (render ids) = l.flatMap source := by
  have hlonger := length_flatMap ids h
  have hnone : l.countP (isQuoted ids) = 0 := by omega
  rw [List.countP_eq_zero] at hnone
  exact flatMap_render_of_plain (List.any_eq_false.mpr hnone)

theorem proper_pairs (cs : List Char) : ∀ s ∈ pairs cs, s.Proper ∧ ¬s.IsAlias :=
  PairScan.proper_run (show PairScan.Proper .outside from trivial) cs

theorem proper_aliases (cs : List Char) : ∀ s ∈ aliases cs, s.Proper :=
  AliasScan.proper_run (show AliasScan.Proper (.outside false) from trivial) cs

end Segment

namespace Identifiers

variable {ids : Identifiers} {text : String}

/-- The text between the two scanners: its pairs quoted, its aliases not yet. -/
def quotedPairs (ids : Identifiers) (text : String) : List Char :=
  (Segment.pairs text.toList).flatMap (Segment.render ids)

theorem ticked_quotedPairs (ids : Identifiers) (text : String) :
    Ticked text.toList (ids.quotedPairs text) := by
  have hticked := Segment.ticked_flatMap ids (Segment.proper_pairs text.toList)
  rwa [Segment.flatMap_source_pairs] at hticked

theorem quoteWithin_of_plain (h : (ids.quoteWithin text).2 = false) :
    (ids.quoteWithin text).1 = text := by
  simp only [quoteWithin, Bool.or_eq_false_iff] at h ⊢
  rw [Segment.flatMap_render_of_plain h.2, Segment.flatMap_source_aliases,
    Segment.flatMap_render_of_plain h.1, Segment.flatMap_source_pairs, String.ofList_toList]

/-- How often something is quoted in a text. -/
def quotations (ids : Identifiers) (text : String) : Nat :=
  (Segment.pairs text.toList).countP (Segment.isQuoted ids) +
    (Segment.aliases (ids.quotedPairs text)).countP (Segment.isQuoted ids)

theorem quoteWithin_snd_iff_quotations :
    (ids.quoteWithin text).2 = true ↔ 0 < ids.quotations text := by
  simp only [quoteWithin, quotations, quotedPairs, Bool.or_eq_true, List.any_eq_true,
    Nat.add_pos_iff_pos_or_pos, List.countP_pos_iff]

/-- A text gets longer where something in it is quoted. -/
theorem length_quoteWithin (ids : Identifiers) (text : String) :
    text.toList.length + 2 * ids.quotations text ≤ (ids.quoteWithin text).1.toList.length := by
  have hpairs := Segment.length_flatMap ids fun s hs => (Segment.proper_pairs text.toList s hs).1
  have haliases := Segment.length_flatMap ids (Segment.proper_aliases (ids.quotedPairs text))
  rw [Segment.flatMap_source_pairs] at hpairs
  rw [Segment.flatMap_source_aliases] at haliases
  simp only [quoteWithin, quotations, quotedPairs, String.toList_ofList] at hpairs haliases ⊢
  omega

/-- A text in which something is quoted is another. -/
theorem quoteWithin_snd_iff :
    (ids.quoteWithin text).2 = true ↔ (ids.quoteWithin text).1 ≠ text := by
  constructor
  · intro h hsame
    have hlength := ids.length_quoteWithin text
    rw [quoteWithin_snd_iff_quotations] at h
    rw [hsame] at hlength
    omega
  · intro h
    rw [← Bool.not_eq_false]
    exact fun hplain => h (quoteWithin_of_plain hplain)

@[simp] theorem quote_unforced (ids : Identifiers) (text : String) :
    ids.quote text false = (ids.quoteWithin text).1 := by
  simp [quote]

/-- Quoting inside a text only puts backticks in, once the keywords of aliases are in capitals. -/
theorem quoteWithin_ticked (ids : Identifiers) (text : String) :
    ∃ capitals, Capitalized text.toList capitals ∧
      Ticked capitals (ids.quoteWithin text).1.toList := by
  have hpairs := ids.ticked_quotedPairs text
  obtain ⟨capitals, hcapitals, hticks⟩ :=
    Segment.capitalized_flatMap ids (Segment.proper_aliases (ids.quotedPairs text))
  rw [Segment.flatMap_source_aliases] at hcapitals
  obtain ⟨first, hfirst, hbetween⟩ := Capitalized.of_ticked hpairs hcapitals
  refine ⟨first, hfirst, ?_⟩
  simp only [quoteWithin, String.toList_ofList]
  exact hbetween.trans hticks

/-- By force a text is quoted as a whole exactly if nothing inside changes, it has no space and it
is no lone star. -/
theorem quote_forced (ids : Identifiers) (text : String) : ids.quote text true =
    if ids.quote text false ≠ text ∨ ' ' ∈ text.toList ∨ text = "*" then ids.quote text false
    else quoteName text := by
  rw [quote_unforced]
  cases hquoted : (ids.quoteWithin text).2 with
  | true =>
    rw [if_pos (Or.inl (quoteWithin_snd_iff.mp hquoted))]
    simp [quote, hquoted]
  | false =>
    have hsame := quoteWithin_of_plain hquoted
    simp only [quote, hquoted, hsame]
    by_cases hblank : ' ' ∈ text.toList <;> by_cases hstar : text = "*" <;> simp [hblank, hstar]

/-- Without backticks a text is the same before and after it is quoted inside, but for words `as`
before one space and a name, which go into capitals. By force it is left like that if something
changed, if it has a space or if it is a lone star, and put in backticks as a whole otherwise. -/
theorem quote_keeps_text (ids : Identifiers) (text : String) :
    (∃ capitals, Capitalized text.toList capitals ∧
      withoutTicks (ids.quote text false).toList = withoutTicks capitals) ∧
    (withoutTicks (ids.quote text false).toList).length = (withoutTicks text.toList).length ∧
    ids.quote text true =
      if ids.quote text false ≠ text ∨ ' ' ∈ text.toList ∨ text = "*" then ids.quote text false
      else quoteName text := by
  obtain ⟨capitals, hcapitals, hticks⟩ := ids.quoteWithin_ticked text
  have hsame : withoutTicks (ids.quote text false).toList = withoutTicks capitals := by
    rw [quote_unforced, hticks.withoutTicks_eq]
  refine ⟨⟨capitals, hcapitals, hsame⟩, ?_, ids.quote_forced text⟩
  rw [hsame, hcapitals.length_withoutTicks]

example : (empty.register "t").quote "as t.a as x, t.*" false = "as `t`.`a` AS `x`, `t`.*" := by
  decide +kernel

end Identifiers

end SqlDraft
