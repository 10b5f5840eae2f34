import SqlDraft.Condition.Rendering
import SqlDraft.Proofs.Logic.Skeleton

/-!
Rendering keeps the logic of conditions. The text of a list of conditions is a skeleton that the
conditions alone determine, filled with the texts of their comparisons and raw SQL from left to
right. SQL reads the skeleton as one formula, and that formula has the value of the conditions under
every truth assignment to the operands.
-/
namespace SqlDraft

open Logic

namespace Condition

mutual

/-- The comparisons and the raw SQL of a condition, from left to right. -/
def atoms : Condition → List Condition
  | .leaf column operator value => [.leaf column operator value]
  | .group _ children => atomsAll children
  | .raw sql => [.raw sql]
termination_by structural c => c

def atomsAll : List Condition → List Condition
  | [] => []
  | c :: rest => atoms c ++ atomsAll rest
termination_by structural cs => cs

end

mutual

/-- Whether every combination has something to combine. -/
def Populated : Condition → Prop
  | .leaf .. => True
  | .group _ children => children ≠ [] ∧ PopulatedAll children
  | .raw _ => True
termination_by structural c => c

def PopulatedAll : List Condition → Prop
  | [] => True
  | c :: rest => Populated c ∧ PopulatedAll rest
termination_by structural cs => cs

end

mutual

/-- The value of a condition whose atoms are numbered from `n` on. -/
def truth (v : Nat → Bool) (n : Nat) : Condition → Bool
  | .leaf .. => v n
  | .group k children => k.ofAll (truthAll v n children)
  | .raw _ => v n
termination_by structural c => c

def truthAll (v : Nat → Bool) (n : Nat) : List Condition → List Bool
  | [] => []
  | c :: rest => truth v n c :: truthAll v (n + (atoms c).length) rest
termination_by structural cs => cs

end

mutual

/-- The text of a condition without the texts of its atoms, which are numbered from `n` on. -/
def skeleton (n : Nat) : Condition → Skeleton
  | .leaf .. => [.operand n]
  | .group k children =>
    [.char '('] ++ Skeleton.separated (" " ++ k.keyword ++ " ") (skeletonAll n children) ++
      [.char ')']
  | .raw _ => [.operand n]
termination_by structural c => c

def skeletonAll (n : Nat) : List Condition → List Skeleton
  | [] => []
  | c :: rest => skeleton n c :: skeletonAll (n + (atoms c).length) rest
termination_by structural cs => cs

end

/-! The operands of a skeleton are its atoms, each once and in order. -/

mutual

theorem operands_skeleton : (c : Condition) → (n : Nat) →
    (skeleton n c).operands = List.range' n (atoms c).length
  | .leaf column operator value, n => rfl
  | .group k children, n => by
    simp [skeleton, atoms, Skeleton.operands_separated, operands_skeletonAll children n]
  | .raw sql, n => rfl
termination_by structural c => c

theorem operands_skeletonAll : (cs : List Condition) → (n : Nat) →
    (skeletonAll n cs).flatMap Skeleton.operands = List.range' n (atomsAll cs).length
  | [], n => rfl
  | c :: rest, n => by
    rw [skeletonAll, List.flatMap_cons, operands_skeleton c n, operands_skeletonAll rest,
      atomsAll, List.length_append, List.range'_append_1]
termination_by structural cs => cs

end

/-! Rendering fills the skeleton with the renderings of the atoms. -/

/-- The fragments of a list for the operands from `n` on. -/
def fragmentsFrom (n : Nat) (fragments : List String) (i : Nat) : String :=
  fragments.getD (i - n) ""

section Rendering

variable (ctx : RenderContext)

theorem renderAll_append (cs ds : List Condition) :
    renderAll ctx (cs ++ ds) = do
      let first ← renderAll ctx cs
      let others ← renderAll ctx ds
      return first ++ others := by
  induction cs with
  | nil => simp only [List.nil_append, renderAll, pure_bind, bind_pure]
  | cons c rest ih => simp only [List.cons_append, renderAll, ih, bind_assoc, pure_bind]

/-- What follows a rendering may take it for granted that there is a part for each condition. -/
theorem renderAll_bind_congr {α : Type} (cs : List Condition) {f g : List String → Render α}
    (h : ∀ parts, parts.length = cs.length → f parts = g parts) :
    renderAll ctx cs >>= f = renderAll ctx cs >>= g := by
  induction cs generalizing f g with
  | nil => simpa only [renderAll, pure_bind] using h [] rfl
  | cons c rest ih =>
    simp only [renderAll, bind_assoc, pure_bind]
    congr 1
    funext first
    exact ih fun others hlength => h (first :: others) (by simp [hlength])

mutual

theorem render_eq_fill : (c : Condition) → (n : Nat) →
    render ctx c = do
      let fragments ← renderAll ctx (atoms c)
      return (skeleton n c).fill (fragmentsFrom n fragments)
  | .leaf column operator value, n => by
    simp [render, atoms, renderAll, skeleton, Skeleton.fill, fragmentsFrom]
  | .group k children, n => by
    have hopening : String.singleton '(' = "(" := rfl
    have hclosing : String.singleton ')' = ")" := rfl
    simp only [render, atoms, skeleton, renderAll_eq_fill children n, bind_assoc, pure_bind,
      Skeleton.fill_append, Skeleton.fill_separated, Skeleton.fill, String.append_empty, hopening,
      hclosing]
  | .raw sql, n => by
    simp [render, atoms, renderAll, skeleton, Skeleton.fill, fragmentsFrom]
termination_by structural c => c

theorem renderAll_eq_fill : (cs : List Condition) → (n : Nat) →
    renderAll ctx cs = do
      let fragments ← renderAll ctx (atomsAll cs)
      return (skeletonAll n cs).map (Skeleton.fill (fragmentsFrom n fragments))
  | [], n => by simp [renderAll, atomsAll, skeletonAll]
  | c :: rest, n => by
    rw [renderAll, atomsAll, renderAll_append, render_eq_fill c n,
      renderAll_eq_fill rest (n + (atoms c).length)]
    simp only [bind_assoc, pure_bind]
    refine renderAll_bind_congr ctx (atoms c) fun first hlength => ?_
    congr 1
    funext others
    -- The atoms of `c` come first, so its operands find theirs in front and the others behind.
    have hfront : (skeleton n c).fill (fragmentsFrom n first) =
        (skeleton n c).fill (fragmentsFrom n (first ++ others)) := by
      refine Skeleton.fill_congr fun i hi => ?_
      rw [operands_skeleton, List.mem_range'_1] at hi
      rw [fragmentsFrom, fragmentsFrom, List.getD_eq_getElem?_getD, List.getD_eq_getElem?_getD,
        List.getElem?_append_left (by omega)]
    have hback : (skeletonAll (n + (atoms c).length) rest).map
          (Skeleton.fill (fragmentsFrom (n + (atoms c).length) others)) =
        (skeletonAll (n + (atoms c).length) rest).map
          (Skeleton.fill (fragmentsFrom n (first ++ others))) := by
      refine List.map_congr_left fun l hl => Skeleton.fill_congr fun i hi => ?_
      have hmem := List.mem_flatMap.mpr ⟨l, hl, hi⟩
      rw [operands_skeletonAll, List.mem_range'_1] at hmem
      rw [fragmentsFrom, fragmentsFrom, List.getD_eq_getElem?_getD, List.getD_eq_getElem?_getD,
        List.getElem?_append_right (by omega), hlength, Nat.sub_add_eq]
    rw [hfront, hback, skeletonAll, List.map_cons]
termination_by structural cs => cs

end

end Rendering

/-! SQL reads the skeleton as a formula with the value of the condition. -/

/-- A primary is a chain of either connective. -/
theorem derives_under {k : Combinator} {ts : List Lexeme} {f : Formula}
    (h : Derives .primary ts f) : Derives (.under k) ts f := by
  cases k with
  | and => exact h
  | or => exact .single h

/-- A chain of either connective is a whole expression. -/
theorem derives_expression {k : Combinator} {ts : List Lexeme} {f : Formula}
    (h : Derives (.chain k) ts f) : Derives (.chain .or) ts f := by
  cases k with
  | and => exact .single h
  | or => exact h

/-- What the scanner reads of a skeleton, as a formula that agrees with a value. -/
structure Reading (symbol : Nonterminal) (l : Skeleton) (value : (Nat → Bool) → Bool) where
  lexemes : List Lexeme
  formula : Formula
  last : Scan
  reads : Scan.Reads .free l lexemes last
  settled : last.finish = some []
  derives : Derives symbol lexemes formula
  holds : ∀ v, formula.holds v = value v

mutual

theorem skeleton_reading : (c : Condition) → Populated c → (n : Nat) →
    Nonempty (Reading .primary (skeleton n c) fun v => truth v n c)
  | .leaf column operator value, _, n =>
    ⟨[.operand n], .operand n, .behind, Scan.reads_symbol rfl, rfl, .operand n, fun _ => rfl⟩
  | .group k children, h, n => by
    obtain ⟨ts, f, last, hreads, hsettled, hderives, hholds⟩ :=
      skeletonAll_reading children h.1 h.2 n k ' ' rfl
    have hopening : Scan.Reads .free [.char '('] [.opening] .free := Scan.reads_symbol rfl
    have hclosing : Scan.Reads last [.char ')'] [.closing] .free :=
      Scan.reads_symbol (by simp [Scan.step, Scan.mark?, hsettled])
    exact ⟨_, f, .free, (hopening.append hreads).append hclosing, rfl,
      .parentheses (derives_expression hderives), hholds⟩
  | .raw sql, _, n =>
    ⟨[.operand n], .operand n, .behind, Scan.reads_symbol rfl, rfl, .operand n, fun _ => rfl⟩
termination_by structural c => c

theorem skeletonAll_reading : (cs : List Condition) → cs ≠ [] → PopulatedAll cs → (n : Nat) →
    (k : Combinator) → (blank : Char) → Scan.mark? blank = some [] →
    Nonempty (Reading (.chain k)
      (Skeleton.separated (String.singleton blank ++ k.keyword ++ " ") (skeletonAll n cs))
      fun v => k.ofAll (truthAll v n cs))
  | [], h, _, _, _, _, _ => absurd rfl h
  | [c], _, h, n, k, _, _ => by
    obtain ⟨ts, f, last, hreads, hsettled, hderives, hholds⟩ := skeleton_reading c h.1 n
    refine ⟨ts, f, last, hreads, hsettled, .single (derives_under hderives), fun v => ?_⟩
    rw [hholds, truthAll, truthAll, Combinator.ofAll_singleton]
  | c :: d :: rest, _, h, n, k, blank, hblank => by
    obtain ⟨ts, f, last, hreads, hsettled, hderives, hholds⟩ := skeleton_reading c h.1 n
    obtain ⟨us, g, last', hreads', hsettled', hderives', hholds'⟩ :=
      skeletonAll_reading (d :: rest) (List.cons_ne_nil d rest) h.2 (n + (atoms c).length) k blank
        hblank
    obtain ⟨joined, hjoined, hvalue⟩ := (derives_under hderives).join_front hderives'
    have hall := (hreads.append (Scan.reads_separator hsettled hblank k)).append hreads'
    refine ⟨_, joined, last', hall, hsettled', by simpa using hjoined, fun v => ?_⟩
    rw [hvalue, hholds, hholds', ← Combinator.ofAll_cons]
    rfl
termination_by structural cs => cs

end

/-- Rendering a list of conditions fills one skeleton with the renderings of its atoms, which are
its operands from left to right. SQL reads the skeleton as one formula and no other, and the
formula holds when the conditions do, all of them or, joined by OR, any. -/
theorem joined_preserves_logic (k : Combinator) {cs : List Condition} (hcs : cs ≠ [])
    (hpopulated : PopulatedAll cs) :
    ∃ l : Skeleton,
      (∀ ctx, (do
        let parts ← renderAll ctx cs
        return joined k.keyword parts) = (do
        let fragments ← renderAll ctx (atomsAll cs)
        return l.fill fun i => fragments.getD i "")) ∧
      l.operands = List.range (atomsAll cs).length ∧
      ∃ lexemes formula, l.lexemes? = some lexemes ∧
        (∀ f, Derives (.chain .or) lexemes f ↔ f = formula) ∧
        ∀ v, formula.holds v = k.ofAll (truthAll v 0 cs) := by
  obtain ⟨ts, f, last, hreads, hsettled, hderives, hholds⟩ :=
    skeletonAll_reading cs hcs hpopulated 0 k '\n' rfl
  have hexpression := derives_expression hderives
  refine ⟨_, fun ctx => ?_, ?_, ts, f, hreads.lexemes?_eq hsettled, fun g => ⟨fun hg => ?_, ?_⟩,
    hholds⟩
  · have hnewline : String.singleton '\n' = "\n" := rfl
    simp only [renderAll_eq_fill ctx cs 0, bind_assoc, pure_bind, joined,
      Skeleton.fill_separated, hnewline]
    rfl
  · rw [Skeleton.operands_separated, operands_skeletonAll, List.range_eq_range']
  · exact hg.unique hexpression
  · rintro rfl
    exact hexpression

/-- A disjunction with a conjunction inside, beside raw SQL. -/
def nested : List Condition :=
  [.group .or [.leaf (.text "age") (.text "<") (some (.int 18)), .group .and [.raw "a", .raw "b"]],
    .raw "c OR d"]

theorem joined_preserves_logic_nested :
    nested ≠ [] ∧ PopulatedAll nested ∧
      ∃ l : Skeleton,
        (∀ ctx, (do
          let parts ← renderAll ctx nested
          return joined "AND" parts) = (do
          let fragments ← renderAll ctx (atomsAll nested)
          return l.fill fun i => fragments.getD i "")) ∧
        l.operands = [0, 1, 2, 3] ∧
        ∃ lexemes formula, l.lexemes? = some lexemes ∧
          (∀ f, Derives (.chain .or) lexemes f ↔ f = formula) ∧
          ∀ v, formula.holds v = ((v 0 || (v 1 && v 2)) && v 3) := by
  have hpopulated : PopulatedAll nested := by simp [nested, PopulatedAll, Populated]
  have hne : nested ≠ [] := by simp [nested]
  obtain ⟨l, hfill, hoperands, lexemes, formula, hlexemes, hderives, hholds⟩ :=
    joined_preserves_logic .and hne hpopulated
  refine ⟨hne, hpopulated, l, hfill, hoperands, lexemes, formula, hlexemes, hderives, ?_⟩
  intro v
  rw [hholds]
  simp [nested, truthAll, truth, Combinator.ofAll, atoms, atomsAll]

end Condition

end SqlDraft
