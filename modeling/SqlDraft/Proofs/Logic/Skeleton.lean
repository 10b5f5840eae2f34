import SqlDraft.Proofs.Logic.Grammar
import SqlDraft.Text.Join

/-!
Texts whose operands are indivisible. A skeleton has a symbol for each character and one for each
operand; filled with a text for each operand it is a text. A scanner cuts it into lexemes: blanks
separate, parentheses stand for themselves, and every word between them has to be a connective. An
operand has no character or operand directly beside it but blanks and parentheses.
-/
namespace SqlDraft.Logic

inductive Symbol where
  | char (c : Char)
  | operand (i : Nat)

abbrev Skeleton := List Symbol

namespace Skeleton

def ofText (s : String) : Skeleton := s.toList.map .char

/-- The numbers of the operands, from left to right. -/
def operands (l : Skeleton) : List Nat :=
  l.filterMap fun
    | .char _ => none
    | .operand i => some i

def fill (fragment : Nat → String) : Skeleton → String
  | [] => ""
  | .char c :: rest => String.singleton c ++ fill fragment rest
  | .operand i :: rest => fragment i ++ fill fragment rest

def separated (separator : String) : List Skeleton → Skeleton
  | [] => []
  | [l] => l
  | l :: m :: rest => l ++ ofText separator ++ separated separator (m :: rest)

@[simp] theorem operands_append (l m : Skeleton) :
    operands (l ++ m) = operands l ++ operands m := List.filterMap_append

@[simp] theorem operands_char_cons (c : Char) (l : Skeleton) :
    operands (.char c :: l) = operands l := rfl

@[simp] theorem operands_operand_cons (i : Nat) (l : Skeleton) :
    operands (.operand i :: l) = i :: operands l := rfl

@[simp] theorem operands_nil : operands [] = [] := rfl

theorem operands_ofText (s : String) : operands (ofText s) = [] := by
  rw [operands, ofText, List.filterMap_map, List.filterMap_eq_nil_iff]
  intro c _
  rfl

theorem operands_separated (separator : String) (l : List Skeleton) :
    operands (separated separator l) = l.flatMap operands := by
  induction l with
  | nil => rfl
  | cons first rest ih =>
    cases rest with
    | nil => simp [separated]
    | cons next rest => simp [separated, operands_ofText, ih]

theorem fill_append (fragment : Nat → String) (l m : Skeleton) :
    fill fragment (l ++ m) = fill fragment l ++ fill fragment m := by
  induction l with
  | nil => simp [fill]
  | cons x rest ih => cases x <;> simp [fill, ih, String.append_assoc]

theorem fill_ofText (fragment : Nat → String) (s : String) : fill fragment (ofText s) = s := by
  have hchars (cs : List Char) : fill fragment (cs.map .char) = String.ofList cs := by
    induction cs with
    | nil => rfl
    | cons c rest ih =>
      rw [List.map_cons, fill, ih]
      apply String.toList_inj.mp
      simp
  rw [ofText, hchars, String.ofList_toList]

theorem fill_separated (fragment : Nat → String) (separator : String) (l : List Skeleton) :
    fill fragment (separated separator l) = Text.joinWith separator (l.map (fill fragment)) := by
  induction l with
  | nil => rfl
  | cons first rest ih =>
    cases rest with
    | nil => rfl
    | cons next rest =>
      rw [separated, fill_append, fill_append, fill_ofText, ih]
      rfl

/-- Only the fragments of the operands that occur matter. -/
theorem fill_congr {fragment fragment' : Nat → String} {l : Skeleton}
    (h : ∀ i ∈ l.operands, fragment i = fragment' i) : fill fragment l = fill fragment' l := by
  induction l with
  | nil => rfl
  | cons x rest ih =>
    cases x with
    | char c => rw [fill, fill, ih h]
    | operand i =>
      rw [fill, fill, h i (by simp), ih fun j hj => h j (by simp [hj])]

end Skeleton

/-- The scanner stands apart from words and operands, inside a word, or behind an operand. -/
inductive Scan where
  | free
  | word (w : List Char)
  | behind

namespace Scan

def keyword? : List Char → Option Combinator
  | ['A', 'N', 'D'] => some .and
  | ['O', 'R'] => some .or
  | _ => none

/-- What a character that ends a word stands for. -/
def mark? : Char → Option (List Lexeme)
  | ' ' => some []
  | '\n' => some []
  | '(' => some [.opening]
  | ')' => some [.closing]
  | _ => none

def finish : Scan → Option (List Lexeme)
  | word w => (keyword? w).map fun k => [.connective k]
  | _ => some []

def step : Scan → Symbol → Option (List Lexeme × Scan)
  | free, .operand i => some ([.operand i], behind)
  | _, .operand _ => none
  | state, .char c =>
    match mark? c with
    | some lexemes => state.finish.map fun before => (before ++ lexemes, free)
    | none => match state with
      | free => some ([], word [c])
      | word w => some ([], word (w ++ [c]))
      | behind => none

def run (state : Scan) : Skeleton → Option (List Lexeme)
  | [] => state.finish
  | x :: rest =>
    match state.step x with
    | some (lexemes, next) => (run next rest).map (lexemes ++ ·)
    | none => none

/-- From `state` on, the symbols give the lexemes and lead to `next`, whatever follows. -/
def Reads (state : Scan) (l : Skeleton) (ts : List Lexeme) (next : Scan) : Prop :=
  ∀ rest, state.run (l ++ rest) = (next.run rest).map (ts ++ ·)

theorem Reads.append {state next last : Scan} {l m : Skeleton} {ts us : List Lexeme}
    (hl : Reads state l ts next) (hm : Reads next m us last) :
    Reads state (l ++ m) (ts ++ us) last := by
  intro rest
  rw [List.append_assoc, hl, hm, Option.map_map]
  congr 1
  funext vs
  simp

theorem reads_symbol {state next : Scan} {x : Symbol} {ts : List Lexeme}
    (h : state.step x = some (ts, next)) : Reads state [x] ts next := by
  intro rest
  simp [run, h]

/-- A blank, a connective and a space, from any place where no word has begun. -/
theorem reads_separator {state : Scan} (hstate : state.finish = some []) {blank : Char}
    (hblank : mark? blank = some []) (k : Combinator) :
    Reads state (Skeleton.ofText (String.singleton blank ++ k.keyword ++ " ")) [.connective k]
      free := by
  have hfirst : Reads state [.char blank] [] free :=
    reads_symbol (by cases state <;> simp_all [step, finish])
  have hword : Reads free (Skeleton.ofText (k.keyword ++ " ")) [.connective k] free := by
    intro rest
    cases k
    · simp [Skeleton.ofText, Combinator.keyword, run, step, mark?, finish, keyword?]
      rfl
    · simp [Skeleton.ofText, Combinator.keyword, run, step, mark?, finish, keyword?]
      rfl
  have hsplit : Skeleton.ofText (String.singleton blank ++ k.keyword ++ " ") =
      [.char blank] ++ Skeleton.ofText (k.keyword ++ " ") := by
    simp [Skeleton.ofText]
  rw [hsplit]
  exact hfirst.append hword

end Scan

def Skeleton.lexemes? (l : Skeleton) : Option (List Lexeme) := Scan.free.run l

theorem Scan.Reads.lexemes?_eq {l : Skeleton} {ts : List Lexeme} {next : Scan}
    (h : Reads .free l ts next) (hnext : next.finish = some []) : l.lexemes? = some ts := by
  have hrun := h []
  rw [List.append_nil] at hrun
  rw [Skeleton.lexemes?, hrun, run, hnext]
  simp

end SqlDraft.Logic
