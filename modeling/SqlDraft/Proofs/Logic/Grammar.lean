import SqlDraft.Value

/-!
Formulas of AND, OR and parentheses over numbered operands, as SQL reads them. A text is a list of
symbols in which an operand is one symbol, and it is cut into lexemes: parentheses, connectives that
stand apart from operands, and operands. The grammar has a nonterminal for each connective, and OR
joins what AND joins, so AND binds tighter. Each list of lexemes has one formula at most: a machine
with a stack for the open parentheses reads every formula that the grammar derives.
-/
namespace SqlDraft

def Combinator.apply : Combinator → Bool → Bool → Bool
  | and, a, b => a && b
  | or, a, b => a || b

/-- Whether all of them hold, or any. -/
def Combinator.ofAll : Combinator → List Bool → Bool
  | and, l => l.all id
  | or, l => l.any id

theorem Combinator.ofAll_singleton (k : Combinator) (b : Bool) : k.ofAll [b] = b := by
  cases k <;> simp [ofAll]

theorem Combinator.ofAll_cons (k : Combinator) (b : Bool) (l : List Bool) :
    k.ofAll (b :: l) = k.apply b (k.ofAll l) := by
  cases k <;> simp [ofAll, apply]

theorem Combinator.apply_assoc (k : Combinator) (a b c : Bool) :
    k.apply (k.apply a b) c = k.apply a (k.apply b c) := by
  cases k <;> simp [apply, Bool.and_assoc, Bool.or_assoc]

namespace Logic

inductive Formula where
  | operand (i : Nat)
  | join (k : Combinator) (f g : Formula)

/-- The value under a truth assignment to the operands. -/
def Formula.holds (v : Nat → Bool) : Formula → Bool
  | operand i => v i
  | join k f g => k.apply (f.holds v) (g.holds v)

inductive Lexeme where
  | opening
  | closing
  | connective (k : Combinator)
  | operand (i : Nat)

/-- A primary is an operand or stands in parentheses; a chain joins formulas by one connective. -/
inductive Nonterminal where
  | primary
  | chain (k : Combinator)

/-- What a connective joins: OR joins chains of AND, and AND joins primaries. -/
def Nonterminal.under : Combinator → Nonterminal
  | .or => .chain .and
  | .and => .primary

inductive Derives : Nonterminal → List Lexeme → Formula → Prop where
  | operand (i : Nat) : Derives .primary [.operand i] (.operand i)
  | parentheses {ts : List Lexeme} {f : Formula} :
      Derives (.chain .or) ts f → Derives .primary (.opening :: ts ++ [.closing]) f
  | single {k : Combinator} {ts : List Lexeme} {f : Formula} :
      Derives (.under k) ts f → Derives (.chain k) ts f
  | join {k : Combinator} {ts us : List Lexeme} {f g : Formula} :
      Derives (.chain k) ts f → Derives (.under k) us g →
      Derives (.chain k) (ts ++ .connective k :: us) (.join k f g)

/-- A chain may be longer in front. The formula is another one, since chains group to the left,
but its value is the same. -/
theorem Derives.join_front {k : Combinator} {ts us : List Lexeme} {f g : Formula}
    (hf : Derives (.under k) ts f) (hg : Derives (.chain k) us g) :
    ∃ h, Derives (.chain k) (ts ++ .connective k :: us) h ∧
      ∀ v, h.holds v = k.apply (f.holds v) (g.holds v) := by
  generalize hchain : Nonterminal.chain k = n at hg
  induction hg with
  | operand i => cases hchain
  | parentheses hinner _ => cases hchain
  | single hsingle _ =>
    cases hchain
    exact ⟨_, .join (.single hf) hsingle, fun v => rfl⟩
  | join hfront hlast ihfront _ =>
    cases hchain
    obtain ⟨h, hderives, hholds⟩ := ihfront rfl
    refine ⟨_, by simpa using hderives.join hlast, fun v => ?_⟩
    simp only [Formula.holds, hholds, Combinator.apply_assoc]

/-- What a chain of OR holds in front of the primary that is read next. -/
structure Pending where
  ors : Option Formula
  ands : Option Formula

namespace Pending

def none : Pending := ⟨.none, .none⟩

def joined (k : Combinator) : Option Formula → Formula → Formula
  | .none, f => f
  | some g, f => .join k g f

def chain (p : Pending) (f : Formula) : Formula := joined .or p.ors (joined .and p.ands f)

end Pending

/-- The machine wants a primary, or has just read one. Below stands what each open parenthesis
has in front of it. -/
inductive Machine where
  | wants (stack : List Pending) (here : Pending)
  | has (stack : List Pending) (here : Pending) (f : Formula)

namespace Machine

def step : Machine → Lexeme → Option Machine
  | wants stack here, .operand i => some (has stack here (.operand i))
  | wants stack here, .opening => some (wants (here :: stack) .none)
  | has stack here f, .connective .and =>
    some (wants stack ⟨here.ors, some (Pending.joined .and here.ands f)⟩)
  | has stack here f, .connective .or => some (wants stack ⟨some (here.chain f), none⟩)
  | has (outer :: stack) here f, .closing => some (has stack outer (here.chain f))
  | _, _ => none

def run (m : Machine) (ts : List Lexeme) : Option Machine := ts.foldlM step m

theorem run_cons {m m' : Machine} {t : Lexeme} (h : m.step t = some m') (ts : List Lexeme) :
    m.run (t :: ts) = m'.run ts := by
  simp [run, h]

theorem run_append {m m' : Machine} {ts : List Lexeme} (h : m.run ts = some m')
    (us : List Lexeme) : m.run (ts ++ us) = m'.run us := by
  have h' : ts.foldlM step m = some m' := h
  simp [run, List.foldlM_append, h']

end Machine

/-- How the machine reads the formulas of a nonterminal. -/
def Nonterminal.Reads (n : Nonterminal) (ts : List Lexeme) (f : Formula) : Prop :=
  match n with
  | primary => ∀ stack here, (Machine.wants stack here).run ts = some (.has stack here f)
  | chain .and => ∀ stack ors, ∃ ands g,
      (Machine.wants stack ⟨ors, none⟩).run ts = some (.has stack ⟨ors, ands⟩ g) ∧
        Pending.joined .and ands g = f
  | chain .or => ∀ stack, ∃ here g,
      (Machine.wants stack .none).run ts = some (.has stack here g) ∧ here.chain g = f

theorem Derives.reads {n : Nonterminal} {ts : List Lexeme} {f : Formula} (h : Derives n ts f) :
    n.Reads ts f := by
  induction h with
  | operand i => exact fun stack here => rfl
  | @parentheses ts f _ ih =>
    intro stack here
    obtain ⟨inner, g, hrun, hchain⟩ := ih (here :: stack)
    have hopened : (Machine.wants stack here).step .opening =
        some (.wants (here :: stack) .none) := rfl
    have hclosed := Machine.run_append hrun [.closing]
    rw [List.cons_append, Machine.run_cons hopened, hclosed, ← hchain]
    rfl
  | @single k ts f _ ih =>
    cases k with
    | and => exact fun stack ors => ⟨none, f, ih stack ⟨ors, none⟩, rfl⟩
    | or =>
      intro stack
      obtain ⟨ands, g, hrun, hjoined⟩ := ih stack none
      exact ⟨⟨none, ands⟩, g, hrun, hjoined⟩
  | @join k ts us f g _ _ ihchain ihlast =>
    cases k with
    | and =>
      intro stack ors
      obtain ⟨ands, first, hrun, hjoined⟩ := ihchain stack ors
      refine ⟨some f, g, ?_, rfl⟩
      have hlast := ihlast stack ⟨ors, some f⟩
      rw [Machine.run_append hrun, ← hlast, ← hjoined]
      rfl
    | or =>
      intro stack
      obtain ⟨here, first, hrun, hchain⟩ := ihchain stack
      obtain ⟨ands, last, hlast, hjoined⟩ := ihlast stack (some f)
      refine ⟨⟨some f, ands⟩, last, ?_, ?_⟩
      · rw [Machine.run_append hrun, ← hlast, ← hchain]
        rfl
      · rw [← hjoined]
        rfl

/-- No list of lexemes has two formulas. -/
theorem Derives.unique {ts : List Lexeme} {f g : Formula} (hf : Derives (.chain .or) ts f)
    (hg : Derives (.chain .or) ts g) : f = g := by
  obtain ⟨here, x, hrun, hchain⟩ := hf.reads []
  obtain ⟨here', y, hrun', hchain'⟩ := hg.reads []
  have hsame := hrun.symm.trans hrun'
  simp only [Option.some.injEq, Machine.has.injEq] at hsame
  obtain ⟨-, rfl, rfl⟩ := hsame
  exact hchain.symm.trans hchain'

end Logic

end SqlDraft
