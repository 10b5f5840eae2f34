import Mathlib.Data.List.Forall2
import SqlDraft.Proofs.Layout.Leaves

/-!
Data of a draft, apart from what is declared around it: the texts that operators of the LIKE and
call kinds embed as they stand. Drafts that are equal once these texts are masked have alike
layouts, which differ in the content of their data pieces and in nothing else.
-/
namespace SqlDraft

/-- A text without its content. -/
def Value.masked : Value → Value
  | text _ => .text ""
  | v => v

def Value.texts : Value → List String
  | text s => [s]
  | _ => []

/-- A value that is left unset is null, which has no content. -/
theorem Value.masked_unset {v w : Option Value} (h : v.map masked = w.map masked) :
    masked v = masked w := by
  have hcounts (u : Option Value) : masked u = (u.map masked : Option Value) := by
    cases u <;> rfl
  rw [hcounts v, h, ← hcounts w]

theorem Value.masked_eq_masked {v w : Value} (h : v.masked = w.masked) :
    (∃ s t, v = .text s ∧ w = .text t) ∨ v = w ∧ v.texts = [] := by
  cases v <;> cases w <;> simp_all [masked, texts]

/-- Whether a rule writes a text as a literal, without taking it for a token. -/
def OperatorRule.embeds : OperatorRule → Bool
  | call .. => true
  | like .. => true
  | _ => false

def OperatorTable.embeds (table : OperatorTable) (operator : Value) : Bool :=
  (table.find? operator).any OperatorRule.embeds

theorem OperatorTable.embeds_text_iff (table : OperatorTable) (s : String) :
    table.embeds (.text s) = true ↔
      s ∈ (table.entries.filter fun e => e.2.embeds).map Prod.fst := by
  simp [embeds, find?, Option.any_eq_true, OrderedMap.get?_eq_some_iff]

/-- Of the standard operators four embed their text. -/
theorem OperatorTable.standard_embeds_iff (operator : Value) :
    standard.embeds operator = true ↔
      ∃ name ∈ ["contains", "begins", "ends", "in set"], operator = .text name := by
  cases operator with
  | text s =>
    have hnames : (standard.entries.filter fun e => e.2.embeds).map Prod.fst =
        ["contains", "begins", "ends", "in set"] := rfl
    rw [embeds_text_iff, hnames]
    simp
  | _ => simp [embeds, find?]

namespace Condition

mutual

/-- The texts that comparisons embed lose their content; every other part stays. -/
def masked (operators : OperatorTable) : Condition → Condition
  | .leaf column operator v =>
    .leaf column operator (if operators.embeds operator then v.map Value.masked else v)
  | .group combinator children => .group combinator (maskedAll operators children)
  | .raw sql => .raw sql
termination_by structural c => c

def maskedAll (operators : OperatorTable) : List Condition → List Condition
  | [] => []
  | c :: rest => masked operators c :: maskedAll operators rest
termination_by structural cs => cs

end

end Condition

def Join.masked (operators : OperatorTable) (join : Join) : Join :=
  { join with conditions := Condition.maskedAll operators join.conditions }

def Leaf.texts (operators : OperatorTable) (leaf : Leaf) : List String :=
  if operators.embeds leaf.operator then leaf.value.texts else []

/-- The texts that comparisons embed, in rendering order. -/
def Draft.texts (d : Draft) (operators : OperatorTable) : List String :=
  d.leaves.flatMap (Leaf.texts operators)

/-- Drafts with one configuration and the same declarations and parameters, up to the content of
the texts that are parameters or embedded by comparisons. -/
structure Draft.SameButData (operators : OperatorTable) (d e : Draft) : Prop where
  strict : d.strict = e.strict
  identifiers : d.identifiers = e.identifiers
  params : ∀ a, (d.params.get? a).map Value.masked = (e.params.get? a).map Value.masked
  statement : d.statement = e.statement
  joins : d.joins.map (Join.masked operators) = e.joins.map (Join.masked operators)
  filter : Condition.maskedAll operators d.filter = Condition.maskedAll operators e.filter
  having : Condition.maskedAll operators d.having = Condition.maskedAll operators e.having
  grouping : d.grouping = e.grouping
  ordering : d.ordering = e.ordering
  limit : d.limit = e.limit

namespace Piece

def texts : Piece → List String
  | data s => [s]
  | _ => []

theorem quiet_texts : Quiet texts := ⟨fun _ => rfl, fun _ => rfl, fun _ => rfl⟩

/-- The same piece, or data on both sides. -/
inductive Alike : Piece → Piece → Prop where
  | same {piece : Piece} : piece.texts = [] → Alike piece piece
  | data (s t : String) : Alike (.data s) (.data t)

theorem Alike.refl (piece : Piece) : Alike piece piece := by
  cases piece with
  | data s => exact .data s s
  | _ => exact .same rfl

end Piece

namespace Layout

def texts (l : Layout) : List String := l.flatMap Piece.texts

@[simp] theorem texts_nil : texts [] = [] := rfl

@[simp] theorem texts_cons (piece : Piece) (l : Layout) :
    texts (piece :: l) = piece.texts ++ l.texts := rfl

@[simp] theorem texts_append (l m : Layout) : texts (l ++ m) = l.texts ++ m.texts :=
  List.flatMap_append

def Alike (l m : Layout) : Prop := List.Forall₂ Piece.Alike l m

namespace Alike

theorem refl (l : Layout) : Alike l l := List.forall₂_same.mpr fun piece _ => .refl piece

theorem append {l l' m m' : Layout} (h : Alike l m) (h' : Alike l' m') :
    Alike (l ++ l') (m ++ m') := List.rel_append h h'

theorem cons {l m : Layout} (piece : Piece) (h : Alike l m) : Alike (piece :: l) (piece :: m) :=
  List.Forall₂.cons (.refl piece) h

theorem separated {ls ms : List Layout} (separator : String) (h : List.Forall₂ Alike ls ms) :
    Alike (separated separator ls) (Layout.separated separator ms) := by
  induction h with
  | nil => exact refl []
  | @cons l m ls ms hl hls ih =>
    cases hls with
    | nil => exact hl
    | cons hnext hrest => exact hl.append (cons (.sql separator) ih)

theorem literal {v w : Value} (h : v.masked = w.masked) (force : Bool) :
    Alike (literal v force) (Layout.literal w force) := by
  rcases Value.masked_eq_masked h with ⟨s, t, rfl, rfl⟩ | ⟨rfl, -⟩
  · exact cons _ (List.Forall₂.cons (.data s t) (refl _))
  · exact refl _

theorem pattern {v w : Value} (h : v.masked = w.masked) (before after : String) :
    Alike (pattern before after v) (Layout.pattern before after w) := by
  rcases Value.masked_eq_masked h with ⟨s, t, rfl, rfl⟩ | ⟨rfl, -⟩
  · exact cons _ (List.Forall₂.cons (.data s t) (refl _))
  · exact refl _

end Alike

end Layout

open Layout

theorem OperatorRule.layout_alike {rule : OperatorRule} (hrule : rule.embeds = true)
    (column operator : Value) {v w : Value} (h : v.masked = w.masked) :
    Alike (rule.layout column operator v) (rule.layout column operator w) := by
  cases rule with
  | call function force =>
    exact ((((Alike.literal h force).append (.refl _)).cons _).cons _).cons _
  | like before after => exact ((Alike.pattern h before after).cons _).cons _
  | _ => cases hrule

namespace Condition

variable (operators : OperatorTable) (clause : Option String)

theorem leafLayout_alike (column operator : Value) {v w : Value}
    (h : (if operators.embeds operator then v.masked else v) =
      if operators.embeds operator then w.masked else w) :
    Alike (leafLayout operators clause column operator v)
      (leafLayout operators clause column operator w) := by
  unfold leafLayout
  unfold OperatorTable.embeds at h
  cases hrule : operators.find? operator with
  | none => exact .refl _
  | some rule =>
    simp only [hrule, Option.any_some] at h
    by_cases hembeds : rule.embeds
    · simp only [hembeds, if_true] at h
      exact rule.layout_alike hembeds column operator h
    · simp only [hembeds, Bool.false_eq_true, if_false] at h
      exact h ▸ .refl _

mutual

theorem layout_alike : (c c' : Condition) → masked operators c = masked operators c' →
    Alike (layout operators clause c) (layout operators clause c')
  | .leaf column operator v, .leaf column' operator' w, h => by
    simp only [masked, leaf.injEq] at h
    obtain ⟨rfl, rfl, hvalue⟩ := h
    refine leafLayout_alike operators clause column operator ?_
    by_cases hembeds : operators.embeds operator
    · simp only [hembeds, if_true] at hvalue ⊢
      exact Value.masked_unset hvalue
    · simp only [hembeds, Bool.false_eq_true, if_false] at hvalue ⊢
      rw [hvalue]
  | .group combinator children, .group combinator' children', h => by
    simp only [masked, group.injEq] at h
    obtain ⟨rfl, hchildren⟩ := h
    exact ((Alike.separated _ (layoutAll_alike children children' hchildren)).append
      (.refl _)).cons _
  | .raw sql, .raw sql', h => by
    simp only [masked, raw.injEq] at h
    exact h ▸ .refl _
termination_by structural c => c

theorem layoutAll_alike : (cs cs' : List Condition) →
    maskedAll operators cs = maskedAll operators cs' →
    List.Forall₂ Alike (layoutAll operators clause cs) (layoutAll operators clause cs')
  | [], [], _ => .nil
  | c :: rest, c' :: rest', h => by
    simp only [maskedAll, List.cons.injEq] at h
    exact .cons (layout_alike c c' h.1) (layoutAll_alike rest rest' h.2)
termination_by structural cs => cs

end

end Condition

variable {operators : OperatorTable}

namespace Clause

theorem allOfLayout_alike (clause keyword : String) {cs cs' : List Condition}
    (h : Condition.maskedAll operators cs = Condition.maskedAll operators cs') :
    Alike (allOfLayout operators clause keyword cs) (allOfLayout operators clause keyword cs') :=
  ((Alike.separated _ (Condition.layoutAll_alike operators (some clause) cs cs' h)).append
    (.refl _)).cons _

theorem allOfAnyLayout_alike (clause keyword : String) {cs cs' : List Condition}
    (h : Condition.maskedAll operators cs = Condition.maskedAll operators cs') :
    Alike (allOfAnyLayout operators clause keyword cs)
      (allOfAnyLayout operators clause keyword cs') := by
  cases cs with
  | nil =>
    cases cs' with
    | nil => exact .refl _
    | cons c' rest' => cases h
  | cons c rest =>
    cases cs' with
    | nil => cases h
    | cons c' rest' => exact allOfLayout_alike clause keyword h

end Clause

theorem Join.layouts_alike {joins joins' : List Join}
    (h : joins.map (Join.masked operators) = joins'.map (Join.masked operators)) :
    Alike (joins.flatMap (Join.layout operators)) (joins'.flatMap (Join.layout operators)) := by
  induction joins generalizing joins' with
  | nil =>
    rw [List.map_eq_nil_iff.mp h.symm]
    exact .refl _
  | cons join rest ih =>
    cases joins' with
    | nil => cases h
    | cons join' rest' =>
      obtain ⟨type, table, conditions⟩ := join
      obtain ⟨type', table', conditions'⟩ := join'
      simp only [List.map_cons, List.cons.injEq, masked, mk.injEq] at h
      obtain ⟨⟨rfl, rfl, hconditions⟩, hrest⟩ := h
      exact (((Clause.allOfLayout_alike "on" "ON" hconditions).cons _).cons _).append (ih hrest)

theorem Statement.layout_alike {joins joins' : Layout} (h : Alike joins joins') (s : Statement) :
    Alike (s.layout joins) (s.layout joins') := by
  cases s with
  | select table columns => exact (Alike.refl _).append (h.cons _)
  | insert table columns duplicates => exact (Alike.refl _).append h
  | update table columns => exact ((h.cons _).append (.refl _)).append (.refl _)
  | delete table => exact h.cons _

/-- Data is all that the layouts of such drafts differ in. -/
theorem Draft.SameButData.layout_alike {d e : Draft} (h : SameButData operators d e) :
    Alike (d.layout operators) (e.layout operators) := by
  unfold layout
  rw [h.statement, h.grouping, h.ordering, h.limit]
  cases e.statement with
  | none => exact .refl _
  | some s =>
    have hhead := s.layout_alike (Join.layouts_alike h.joins)
    have hfilter := Clause.allOfAnyLayout_alike "where" "WHERE" h.filter
    have hhaving := Clause.allOfAnyLayout_alike "having" "HAVING" h.having
    exact ((((hhead.append hfilter).append (.refl _)).append hhaving).append (.refl _)).append
      (.refl _)

theorem OperatorRule.texts_layout (rule : OperatorRule) (column operator v : Value) :
    (rule.layout column operator v).texts = if rule.embeds then v.texts else [] := by
  have hlisted (items : List Value) : (separated "," (listed items)).texts = [] := by
    rw [Layout.texts, flatMap_separated Piece.quiet_texts, listed, List.flatMap_map]
    exact List.flatMap_eq_nil_iff.mpr fun _ _ => rfl
  cases rule with
  | call function force =>
    cases v <;> simp [layout, embeds, literal, Piece.texts, Value.texts]
  | like before after =>
    cases v <;> simp [layout, embeds, pattern, Piece.texts, Value.texts]
  | between =>
    rcases hitems : v.items? with _ | _ | ⟨low, _ | ⟨high, _ | ⟨third, rest⟩⟩⟩
    all_goals simp [layout, embeds, hitems, Piece.texts]
  | membership keyword =>
    cases hitems : v.items? with
    | none => simp [layout, embeds, hitems, Piece.texts]
    | some items => simp [layout, embeds, hitems, Piece.texts, hlisted]
  | _ => simp [layout, embeds, Piece.texts]

theorem Leaf.texts_layout (clause : Option String) (leaf : Leaf) :
    (leaf.layout operators clause).texts = leaf.texts operators := by
  unfold layout Condition.leafLayout texts OperatorTable.embeds
  cases operators.find? leaf.operator with
  | none => rfl
  | some rule => exact rule.texts_layout leaf.column leaf.operator leaf.value

/-- The data pieces of a statement are the texts that its comparisons embed. -/
theorem Draft.texts_layout (d : Draft) (h : d.statement.isSome) :
    (d.layout operators).texts = d.texts operators :=
  flatMap_layout_leaves Piece.quiet_texts (fun _ _ => rfl) (fun _ => rfl)
    (fun clause leaf => leaf.texts_layout clause) d h

end SqlDraft
