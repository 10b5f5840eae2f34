import Mathlib.Tactic.Push
import SqlDraft.Proofs.Identifiers.Rewriting
import SqlDraft.Proofs.Numerals

/-!
Expressions of words, pairs and aliases. Between two of these stands something that neither scanner
takes for a part of them, so each is read on its own: the pairs of known tables and the aliases are
quoted, and everything else is left as it is.
-/
namespace SqlDraft

open Text

/-- A word in letters, digits and low lines of ASCII. -/
structure Word where
  text : String
  nonempty : text ≠ ""
  named : text.toList.all isNameChar

namespace Word

def IsKeyword (w : Word) : Prop := w.text = "as" ∨ w.text = "AS"

def keyword : Bool → Word
  | true => ⟨"AS", by decide, by decide⟩
  | false => ⟨"as", by decide, by decide⟩

def ticked (w : Word) : String := "`" ++ w.text ++ "`"

end Word

/-- What may stand between the items of an expression. -/
structure Separator where
  text : String
  apart : ∀ c ∈ text.toList, isWordChar c = false ∧ c ≠ '.' ∧ c ≠ '*'

namespace Expression

inductive Item where
  | pair (table column : Word) (h : ¬column.IsKeyword)
  | star (table : Word)
  | word (w : Word) (h : ¬w.IsKeyword)
  | aliased (capital : Bool) (name : Word)

namespace Item

def text : Item → String
  | pair table column _ => table.text ++ "." ++ column.text
  | star table => table.text ++ ".*"
  | word w _ => w.text
  | aliased capital name => (Word.keyword capital).text ++ " " ++ name.text

/-- The item in backticks: a pair of a known table part by part, of an alias its name. -/
def quoted (ids : Identifiers) : Item → String
  | pair table column h =>
    if table.text ∈ ids.names then table.ticked ++ "." ++ column.ticked
    else (pair table column h).text
  | star table => if table.text ∈ ids.names then table.ticked ++ ".*" else (star table).text
  | word w _ => w.text
  | aliased _ name => "AS " ++ name.ticked

end Item

end Expression

/-- Items with separators between them. The one in front and the last one may be empty. -/
structure Expression where
  before : Separator
  items : List (Expression.Item × Separator)
  apart : ∀ e ∈ items.dropLast, e.2.text ≠ ""

namespace Expression

def writeItems (write : Item → String) : List (Item × Separator) → String
  | [] => ""
  | (item, behind) :: rest => write item ++ behind.text ++ writeItems write rest

/-- The text of an expression whose items are written in a certain way. -/
def written (e : Expression) (write : Item → String) : String :=
  e.before.text ++ writeItems write e.items

end Expression

theorem Text.isWordChar_of_isNameChar {c : Char} (h : isNameChar c) : isWordChar c := by
  have hascii := toNat_lt_of_isNameChar h
  simpa only [isNameChar, isWordChar, isAlphanumeric, if_pos hascii] using h

theorem Text.isNameChar_eq_false {c : Char} (h : isWordChar c = false) : isNameChar c = false := by
  by_contra hname
  rw [isWordChar_of_isNameChar (Bool.not_eq_false _ ▸ hname)] at h
  cases h

theorem Text.ne_of_isWordChar {c d : Char} (h : isWordChar c = false) (hd : isWordChar d) :
    c ≠ d := by
  rintro rfl
  rw [hd] at h
  cases h

/-- Nothing here belongs to an item in front of it. -/
def Text.Apart (rest : List Char) : Prop :=
  ∀ x ∈ rest.head?, isWordChar x = false ∧ x ≠ '.' ∧ x ≠ '*'

theorem Text.Apart.nil : Apart [] := by
  rintro x ⟨⟩

namespace Segment

namespace PairScan

theorem run_plain {x : Char} (hx : isWordChar x = false) (cs : List Char) :
    outside.run (x :: cs) = plain [x] :: outside.run cs := by
  simp [run, step, isNameChar_eq_false hx]

theorem run_separator {s : List Char} (hs : ∀ c ∈ s, isWordChar c = false) (cs : List Char) :
    outside.run (s ++ cs) = s.map (fun c => plain [c]) ++ outside.run cs := by
  induction s with
  | nil => rfl
  | cons c rest ih =>
    obtain ⟨hc, hrest⟩ := List.forall_mem_cons.mp hs
    rw [List.cons_append, run_plain hc, ih hrest]
    rfl

theorem run_word {v : List Char} (hv : v.all isNameChar) (w cs : List Char) :
    (word w).run (v ++ cs) = (word (w ++ v)).run cs := by
  induction v generalizing w with
  | nil => simp
  | cons x rest ih =>
    rw [List.all_cons, Bool.and_eq_true] at hv
    rw [List.cons_append, run, step, if_pos hv.1, List.nil_append, ih hv.2]
    simp

theorem run_column {d : List Char} (hd : d.all isColumnChar) (w c cs : List Char) :
    (column w c).run (d ++ cs) = (column w (c ++ d)).run cs := by
  induction d generalizing c with
  | nil => simp
  | cons x rest ih =>
    rw [List.all_cons, Bool.and_eq_true] at hd
    rw [List.cons_append, run, step, if_pos hd.1, List.nil_append, ih hd.2]
    simp

/-- From outside a word is read up to where it ends. -/
theorem run_outside_word {w : List Char} (hw : w.all isNameChar) (hne : w ≠ []) (cs : List Char) :
    outside.run (w ++ cs) = (word w).run cs := by
  obtain ⟨x, rest, rfl⟩ := List.exists_cons_of_ne_nil hne
  rw [List.all_cons, Bool.and_eq_true] at hw
  rw [List.cons_append, run, step, if_pos hw.1, List.nil_append, run_word hw.2]
  rfl

/-- Behind a word and a point a column is read. -/
theorem run_word_point {c : List Char} (hc : c.all isColumnChar) (hne : c ≠ [])
    (w cs : List Char) : (word w).run ('.' :: c ++ cs) = (column w c).run cs := by
  obtain ⟨x, rest, rfl⟩ := List.exists_cons_of_ne_nil hne
  rw [List.all_cons, Bool.and_eq_true] at hc
  have hpoint : ¬isNameChar '.' := by decide
  rw [List.cons_append, run, step, if_neg hpoint, if_pos rfl, List.nil_append, List.cons_append,
    run, step, if_pos hc.1, List.nil_append, run_column hc.2]
  rfl

theorem run_word_apart {rest : List Char} (h : Apart rest) (w : List Char) :
    (word w).run rest = plain w :: outside.run rest := by
  cases rest with
  | nil => rfl
  | cons x cs =>
    obtain ⟨hword, hpoint, -⟩ := h x rfl
    simp [run, step, isNameChar_eq_false hword, hpoint]

theorem run_column_apart {rest : List Char} (h : Apart rest) (w c : List Char) :
    (column w c).run rest = pair w c :: outside.run rest := by
  cases rest with
  | nil => rfl
  | cons x cs =>
    obtain ⟨hword, -, hstar⟩ := h x rfl
    have hcolumn : isColumnChar x = false := by
      simp [isColumnChar, isNameChar_eq_false hword, hstar]
    simp [run, step, hcolumn, isNameChar_eq_false hword]

end PairScan

namespace AliasScan

variable (ids : Identifiers)

/-- What is written of a text that is read on from a state. -/
def written (state : AliasScan) (cs : List Char) : List Char :=
  (state.run cs).flatMap (Segment.render ids)

@[simp] theorem render_plain (chars : List Char) : Segment.render ids (.plain chars) = chars := rfl

@[simp] theorem written_nil (state : AliasScan) :
    written ids state [] = state.finish.flatMap (Segment.render ids) := rfl

theorem written_cons (state : AliasScan) (x : Char) (cs : List Char) :
    written ids state (x :: cs) =
      (state.step x).1.flatMap (Segment.render ids) ++ written ids (state.step x).2 cs := by
  rw [written, run, List.flatMap_append]
  rfl

/-- What is no part of a word is passed over, and a word may begin behind it. -/
theorem written_outside {x : Char} (hx : isWordChar x = false) (inWord : Bool) (cs : List Char) :
    written ids (outside inWord) (x :: cs) = x :: written ids (outside false) cs := by
  have hsmall : x ≠ 'a' := ne_of_isWordChar hx (by decide)
  have hcapital : x ≠ 'A' := ne_of_isWordChar hx (by decide)
  simp [written_cons, step, pass, hsmall, hcapital, hx]

/-- Inside of a word no alias begins. -/
theorem written_inside {v : List Char} (hv : v.all isWordChar) (cs : List Char) :
    written ids (outside true) (v ++ cs) = v ++ written ids (outside true) cs := by
  induction v with
  | nil => rfl
  | cons x rest ih =>
    rw [List.all_cons, Bool.and_eq_true] at hv
    simp [written_cons, step, pass, hv.1, ih hv.2]

theorem written_letter {k : Char} {cs : List Char}
    (h : ∀ x ∈ cs.head?, ¬(k = 'a' ∧ x = 's' ∨ k = 'A' ∧ x = 'S')) :
    written ids (letter k) cs = k :: written ids (outside true) cs := by
  cases cs with
  | nil => rfl
  | cons x rest => simp [written_cons, step, pass, h x rfl]

theorem written_keyword {k cs : List Char} (h : cs.head? ≠ some ' ') :
    written ids (keyword k) cs = k ++ written ids (outside true) cs := by
  cases cs with
  | nil => simp [finish]
  | cons x rest =>
    have hx : x ≠ ' ' := by simpa using h
    simp [written_cons, step, pass, hx]

/-- Behind a word it makes no difference which one it was. -/
theorem written_behind {cs : List Char} (hcs : ∀ x ∈ cs.head?, isWordChar x = false) :
    written ids (outside true) cs = written ids (outside false) cs := by
  cases cs with
  | nil => rfl
  | cons x rest => rw [written_outside ids (hcs x rfl), written_outside ids (hcs x rfl)]

/-- A word is left as it is, unless it is a keyword before a space. -/
theorem written_word {w cs : List Char} (hw : w.all isWordChar)
    (hcs : ∀ x ∈ cs.head?, isWordChar x = false)
    (hkeyword : w = ['a', 's'] ∨ w = ['A', 'S'] → cs.head? ≠ some ' ') :
    written ids (outside false) (w ++ cs) = w ++ written ids (outside false) cs := by
  rw [← written_behind ids hcs]
  cases w with
  | nil => exact (written_behind ids hcs).symm
  | cons x v =>
    rw [List.all_cons, Bool.and_eq_true] at hw
    have hfirst : written ids (outside false) (x :: v ++ cs) =
        if x = 'a' ∨ x = 'A' then written ids (letter x) (v ++ cs)
        else x :: written ids (outside true) (v ++ cs) := by
      rw [List.cons_append, written_cons, step]
      split <;> simp_all [pass]
    rw [hfirst]
    split
    · next hletter =>
      by_cases hcontinued : ∀ y ∈ (v ++ cs).head?, ¬(x = 'a' ∧ y = 's' ∨ x = 'A' ∧ y = 'S')
      · rw [written_letter ids hcontinued, written_inside ids hw.2, List.cons_append]
      · push Not at hcontinued
        obtain ⟨y, hy, hxy⟩ := hcontinued
        have hword : isWordChar y := by rcases hxy with ⟨-, rfl⟩ | ⟨-, rfl⟩ <;> decide
        cases v with
        | nil =>
          rw [hcs y hy] at hword
          cases hword
        | cons z u =>
          obtain rfl : z = y := Option.some.inj hy
          have hwhole : x :: z :: u = ['a', 's'] ++ u ∨ x :: z :: u = ['A', 'S'] ++ u := by
            rcases hxy with ⟨rfl, rfl⟩ | ⟨rfl, rfl⟩
            · exact Or.inl rfl
            · exact Or.inr rfl
          have hblank : (u ++ cs).head? ≠ some ' ' := by
            cases u with
            | nil => exact hkeyword hwhole
            | cons t rest =>
              rintro ⟨⟩
              have hspace : isWordChar ' ' = true := by simp_all
              exact absurd hspace (by decide)
          rw [List.all_cons, Bool.and_eq_true] at hw
          rw [List.cons_append, written_cons, step, if_pos hxy, List.flatMap_nil, List.nil_append,
            written_keyword ids hblank, written_inside ids hw.2.2]
          rfl
    · rw [written_inside ids hw.2, List.cons_append]

theorem written_name {v : List Char} (hv : v.all isNameChar) (k w cs : List Char) :
    written ids (name k w) (v ++ cs) = written ids (name k (w ++ v)) cs := by
  induction v generalizing w with
  | nil => simp
  | cons x rest ih =>
    rw [List.all_cons, Bool.and_eq_true] at hv
    rw [List.cons_append, written_cons, step, if_pos hv.1, List.flatMap_nil, List.nil_append,
      ih hv.2]
    simp

theorem written_name_behind {cs : List Char} (hcs : ∀ x ∈ cs.head?, isWordChar x = false)
    (k w : List Char) : written ids (name k w) cs =
      Segment.render ids (.aliased k w) ++ written ids (outside false) cs := by
  cases cs with
  | nil => simp [finish]
  | cons x rest =>
    have hx := hcs x rfl
    rw [written_outside ids hx]
    simp [written_cons, step, pass, isNameChar_eq_false hx, hx]

/-- An alias gets its keyword in capitals and its name in backticks. -/
theorem written_alias {k w cs : List Char} (hk : k = ['a', 's'] ∨ k = ['A', 'S'])
    (hw : w.all isNameChar) (hne : w ≠ []) (hcs : ∀ x ∈ cs.head?, isWordChar x = false) :
    written ids (outside false) (k ++ ' ' :: w ++ cs) =
      "AS `".toList ++ w ++ '`' :: written ids (outside false) cs := by
  have hrender : Segment.render ids (.aliased k w) = "AS `".toList ++ w ++ ['`'] := by
    simp [Segment.render, isQuoted, toList_quoteName (all_isColumnChar hw)]
  obtain ⟨x, rest, rfl⟩ := List.exists_cons_of_ne_nil hne
  obtain ⟨hx, hrest⟩ := Bool.and_eq_true_iff.mp (List.all_cons ▸ hw)
  have hopen : written ids (outside false) (k ++ ' ' :: (x :: rest) ++ cs) =
      written ids (name k [x]) (rest ++ cs) := by
    rcases hk with rfl | rfl <;> simp [written_cons, step, hx]
  rw [hopen, written_name ids hrest, written_name_behind ids hcs, List.singleton_append, hrender]
  simp

theorem written_separator {s : List Char} (hs : ∀ c ∈ s, isWordChar c = false) (cs : List Char) :
    written ids (outside false) (s ++ cs) = s ++ written ids (outside false) cs := by
  induction s with
  | nil => rfl
  | cons c rest ih =>
    obtain ⟨hc, hrest⟩ := List.forall_mem_cons.mp hs
    rw [List.cons_append, written_outside ids hc, ih hrest, List.cons_append]

end AliasScan

end Segment

namespace Word

theorem toList_ne_nil (w : Word) : w.text.toList ≠ [] := by
  intro h
  exact w.nonempty (String.toList_eq_nil_iff.mp h)

theorem all_isWordChar (w : Word) : w.text.toList.all isWordChar :=
  List.all_eq_true.mpr fun c hc => isWordChar_of_isNameChar (List.all_eq_true.mp w.named c hc)

theorem isKeyword_iff (w : Word) :
    w.IsKeyword ↔ w.text.toList = ['a', 's'] ∨ w.text.toList = ['A', 'S'] := by
  simp only [IsKeyword, ← String.toList_inj]
  rfl

theorem toList_quoteName (w : Word) : (quoteName w.text).toList = w.ticked.toList := by
  have h := Segment.toList_quoteName (Segment.all_isColumnChar w.named)
  rw [String.ofList_toList] at h
  rw [h, ticked]
  simp

/-- Inside backticks no alias begins. -/
theorem written_ticked (ids : Identifiers) (w : Word) (cs : List Char) :
    (Segment.AliasScan.outside false).written ids (w.ticked.toList ++ cs) =
      w.ticked.toList ++ (Segment.AliasScan.outside false).written ids cs := by
  have htick : isWordChar '`' = false := by decide
  have hsplit : w.ticked.toList ++ cs = '`' :: (w.text.toList ++ '`' :: cs) := by simp [ticked]
  rw [hsplit, Segment.AliasScan.written_outside ids htick,
    Segment.AliasScan.written_word ids w.all_isWordChar (by simp [htick]) (by simp),
    Segment.AliasScan.written_outside ids htick]
  simp [ticked]

theorem quotePart_eq (w : Word) : Segment.quotePart w.text.toList = w.ticked.toList := by
  have hstar : w.text.toList ≠ ['*'] := by
    intro h
    have hnamed := w.named
    rw [h] at hnamed
    exact absurd hnamed (by decide)
  rw [Segment.quotePart, if_neg hstar, String.ofList_toList, toList_quoteName]

/-- A pair is quoted if its table is known. -/
theorem render_pair (ids : Identifiers) (table : Word) (column : List Char) :
    Segment.render ids (.pair table.text.toList column) =
      if table.text ∈ ids.names then table.ticked.toList ++ '.' :: Segment.quotePart column
      else table.text.toList ++ '.' :: column := by
  simp [Segment.render, Segment.isQuoted, Identifiers.contains, Segment.source, quotePart_eq]

theorem pairs_append (w : Word) {rest : List Char} (h : Apart rest) :
    Segment.pairs (w.text.toList ++ rest) = .plain w.text.toList :: Segment.pairs rest := by
  rw [Segment.pairs, Segment.PairScan.run_outside_word w.named w.toList_ne_nil,
    Segment.PairScan.run_word_apart h]
  rfl

theorem pairs_pair_append (table : Word) {column rest : List Char} (hne : column ≠ [])
    (hcolumn : column.all Segment.isColumnChar) (h : Apart rest) :
    Segment.pairs (table.text.toList ++ '.' :: column ++ rest) =
      .pair table.text.toList column :: Segment.pairs rest := by
  rw [Segment.pairs, List.append_assoc,
    Segment.PairScan.run_outside_word table.named table.toList_ne_nil,
    Segment.PairScan.run_word_point hcolumn hne, Segment.PairScan.run_column_apart h]
  rfl

end Word

namespace Expression

/-- A way to write texts that leaves separators and writes each item on its own writes expressions
item by item. -/
theorem written_of_items {g : List Char → List Char} {write write' : Item → String}
    (hnil : g [] = []) (hseparator : ∀ (s : Separator) cs,
      g (s.text.toList ++ cs) = s.text.toList ++ g cs)
    (hitem : ∀ (item : Item) rest, Apart rest →
      g ((write item).toList ++ rest) = (write' item).toList ++ g rest) (e : Expression) :
    g (e.written write).toList = (e.written write').toList := by
  obtain ⟨before, items, hapart⟩ := e
  simp only [written, String.toList_append, hseparator]
  congr 1
  induction items with
  | nil => simpa [writeItems] using hnil
  | cons entry rest ih =>
    obtain ⟨item, behind⟩ := entry
    have hrest : ∀ e ∈ rest.dropLast, e.2.text ≠ "" := by
      cases rest with
      | nil => simp
      | cons next others => exact fun e he => hapart e (List.mem_cons_of_mem _ he)
    have hbehind : Apart (behind.text.toList ++ (writeItems write rest).toList) := by
      cases hs : behind.text.toList with
      | cons c cs =>
        rintro x ⟨⟩
        exact behind.apart c (hs ▸ List.mem_cons_self)
      | nil =>
        cases rest with
        | nil => simp [Apart, writeItems]
        | cons next others =>
          have hempty := hapart (item, behind) List.mem_cons_self
          exact absurd (String.toList_eq_nil_iff.mp hs) hempty
    simp only [writeItems, String.toList_append, List.append_assoc]
    rw [hitem item _ hbehind, hseparator, ih hrest]

namespace Item

/-- The item between the two scanners: a pair in backticks, an alias not yet. -/
def paired (ids : Identifiers) : Item → String
  | aliased capital name => (aliased capital name).text
  | item => item.quoted ids

theorem pairs_append (ids : Identifiers) (item : Item) {rest : List Char} (h : Apart rest) :
    (Segment.pairs (item.text.toList ++ rest)).flatMap (Segment.render ids) =
      (item.paired ids).toList ++ (Segment.pairs rest).flatMap (Segment.render ids) := by
  cases item with
  | pair table column hkeyword =>
    have hpairs := table.pairs_pair_append column.toList_ne_nil
      (Segment.all_isColumnChar column.named) h
    have htext : (pair table column hkeyword).text.toList =
        table.text.toList ++ '.' :: column.text.toList := by simp [text]
    rw [htext, hpairs, List.flatMap_cons, table.render_pair, column.quotePart_eq]
    simp only [paired, quoted, text]
    split <;> simp
  | star table =>
    have hpairs := table.pairs_pair_append (List.cons_ne_nil '*' []) (by decide) h
    have htext : (star table).text.toList = table.text.toList ++ '.' :: ['*'] := by simp [text]
    rw [htext, hpairs, List.flatMap_cons, table.render_pair]
    simp only [paired, quoted, text]
    split <;> simp [Segment.quotePart]
  | word w hkeyword =>
    rw [text, w.pairs_append h]
    rfl
  | aliased capital name =>
    have hblank : Apart (' ' :: (name.text.toList ++ rest)) := by
      rintro x ⟨⟩
      decide
    have htext : (aliased capital name).text.toList ++ rest =
        (Word.keyword capital).text.toList ++ ' ' :: (name.text.toList ++ rest) := by simp [text]
    have hspace : Segment.pairs (' ' :: (name.text.toList ++ rest)) =
        .plain [' '] :: Segment.pairs (name.text.toList ++ rest) :=
      Segment.PairScan.run_plain (by decide) _
    rw [htext, Word.pairs_append _ hblank, hspace, name.pairs_append h]
    simp [paired, text, List.flatMap_cons]

/-- An item that is no alias holds none, and what follows it begins none. -/
theorem aliases_append (ids : Identifiers) (item : Item) {rest : List Char} (h : Apart rest) :
    (Segment.AliasScan.outside false).written ids ((item.paired ids).toList ++ rest) =
      (item.quoted ids).toList ++ (Segment.AliasScan.outside false).written ids rest := by
  have hrest : ∀ x ∈ rest.head?, isWordChar x = false := fun x hx => (h x hx).1
  have hpoint : isWordChar '.' = false := by decide
  have hstar : isWordChar '*' = false := by decide
  have htable (table : Word) (cs : List Char) :
      (Segment.AliasScan.outside false).written ids (table.text.toList ++ '.' :: cs) =
        table.text.toList ++ '.' :: (Segment.AliasScan.outside false).written ids cs := by
    rw [Segment.AliasScan.written_word ids table.all_isWordChar (by simp [hpoint]) (by simp),
      Segment.AliasScan.written_outside ids hpoint]
  have hword (w : Word) (hkeyword : ¬w.IsKeyword) :
      (Segment.AliasScan.outside false).written ids (w.text.toList ++ rest) =
        w.text.toList ++ (Segment.AliasScan.outside false).written ids rest :=
    Segment.AliasScan.written_word ids w.all_isWordChar hrest
      fun hw => absurd (w.isKeyword_iff.mpr hw) hkeyword
  cases item with
  | pair table column hkeyword =>
    simp only [paired, quoted, text]
    split
    · simp [table.written_ticked, Segment.AliasScan.written_outside ids hpoint,
        column.written_ticked]
    · simp [htable, hword column hkeyword]
  | star table =>
    simp only [paired, quoted, text]
    split
    · simp [table.written_ticked, Segment.AliasScan.written_outside ids hpoint,
        Segment.AliasScan.written_outside ids hstar]
    · simp [htable, Segment.AliasScan.written_outside ids hstar]
  | word w hkeyword => exact hword w hkeyword
  | aliased capital name =>
    have hcapital : (Word.keyword capital).text.toList = ['a', 's'] ∨
        (Word.keyword capital).text.toList = ['A', 'S'] := by
      cases capital
      · exact Or.inl rfl
      · exact Or.inr rfl
    have halias := Segment.AliasScan.written_alias ids hcapital name.named name.toList_ne_nil hrest
    simpa [paired, quoted, text, Word.ticked] using halias

end Item

end Expression

namespace Identifiers

open Expression

/-- In an expression each pair of a known table is put in backticks part by part, each alias gets
its keyword in capitals and its name in backticks, and nothing else changes. -/
theorem quote_expression (ids : Identifiers) (e : Expression) :
    ids.quote (e.written Item.text) false = e.written (Item.quoted ids) := by
  have hpairs : ids.quotedPairs (e.written Item.text) = (e.written (Item.paired ids)).toList := by
    refine written_of_items (g := fun cs => (Segment.pairs cs).flatMap (Segment.render ids)) rfl ?_
      (fun item rest h => item.pairs_append ids h) e
    intro s cs
    have hsegments : Segment.pairs (s.text.toList ++ cs) =
        s.text.toList.map (fun c => .plain [c]) ++ Segment.pairs cs :=
      Segment.PairScan.run_separator (fun c hc => (s.apart c hc).1) cs
    simp [hsegments, List.flatMap_map]
  have haliases := written_of_items (g := (Segment.AliasScan.outside false).written ids) rfl
    (fun s cs => Segment.AliasScan.written_separator ids (fun c hc => (s.apart c hc).1) cs)
    (fun item rest h => item.aliases_append ids h) e
  apply String.toList_injective
  rw [quote_unforced, quoteWithin, String.toList_ofList, ← haliases, ← hpairs]
  rfl

end Identifiers

end SqlDraft
