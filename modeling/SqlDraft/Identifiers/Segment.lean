import SqlDraft.Text.Alphanumeric
import SqlDraft.Token

/-!
Expressions cut into segments by two scanners that read one character at a time. `pairs` finds
each word, point and column, the words as long as they go from left to right. `aliases` finds
each name behind a separate word `as` or `AS` and one space. All other text is plain, and the
sources of the segments make up the text again.
-/
namespace SqlDraft

inductive Segment where
  | plain (chars : List Char)
  | pair (table column : List Char)
  | aliased (keyword name : List Char)
deriving DecidableEq

namespace Segment

def source : Segment → List Char
  | plain chars => chars
  | pair table column => table ++ '.' :: column
  | aliased keyword name => keyword ++ ' ' :: name

def isColumnChar (c : Char) : Bool := isNameChar c || c = '*'

inductive PairScan where
  | outside
  | word (w : List Char)
  | point (w : List Char)
  | column (w c : List Char)

namespace PairScan

def step : PairScan → Char → List Segment × PairScan
  | outside, x => if isNameChar x then ([], word [x]) else ([plain [x]], outside)
  | word w, x =>
    if isNameChar x then ([], word (w ++ [x]))
    else if x = '.' then ([], point w)
    else ([plain w, plain [x]], outside)
  | point w, x =>
    if isColumnChar x then ([], column w [x]) else ([plain w, plain ['.'], plain [x]], outside)
  | column w c, x =>
    if isColumnChar x then ([], column w (c ++ [x])) else ([pair w c, plain [x]], outside)

def finish : PairScan → List Segment
  | outside => []
  | word w => [plain w]
  | point w => [plain w, plain ['.']]
  | column w c => [pair w c]

def run (state : PairScan) : List Char → List Segment
  | [] => state.finish
  | x :: rest => (state.step x).1 ++ run (state.step x).2 rest

/-- What was read and not yet given out. -/
def pending : PairScan → List Char
  | outside => []
  | word w => w
  | point w => w ++ ['.']
  | column w c => w ++ '.' :: c

theorem pending_step (state : PairScan) (x : Char) :
    (state.step x).1.flatMap source ++ (state.step x).2.pending = state.pending ++ [x] := by
  cases state <;> simp only [step] <;> split <;> try split
  all_goals simp_all [pending, source]

theorem flatMap_source_run (state : PairScan) (cs : List Char) :
    (state.run cs).flatMap source = state.pending ++ cs := by
  induction cs generalizing state with
  | nil => cases state <;> simp [run, finish, pending, source]
  | cons x rest ih =>
    rw [run, List.flatMap_append, ih, ← List.append_assoc, pending_step]
    simp

end PairScan

def pairs (cs : List Char) : List Segment := PairScan.outside.run cs

theorem flatMap_source_pairs (cs : List Char) : (pairs cs).flatMap source = cs :=
  PairScan.flatMap_source_run .outside cs

/-- The flag of `outside` tells whether a word character stands directly before. -/
inductive AliasScan where
  | outside (inWord : Bool)
  | letter (k : Char)
  | keyword (k : List Char)
  | blank (k : List Char)
  | name (k w : List Char)

namespace AliasScan

def pass (x : Char) : List Segment × AliasScan := ([plain [x]], outside (Text.isWordChar x))

def step : AliasScan → Char → List Segment × AliasScan
  | outside inWord, x => if inWord = false ∧ (x = 'a' ∨ x = 'A') then ([], letter x) else pass x
  | letter k, x =>
    if (k = 'a' ∧ x = 's') ∨ (k = 'A' ∧ x = 'S') then ([], keyword [k, x])
    else (plain [k] :: (pass x).1, (pass x).2)
  | keyword k, x => if x = ' ' then ([], blank k) else (plain k :: (pass x).1, (pass x).2)
  | blank k, x =>
    if isNameChar x then ([], name k [x])
    else (plain k :: plain [' '] :: (pass x).1, (pass x).2)
  | name k w, x =>
    if isNameChar x then ([], name k (w ++ [x]))
    else (aliased k w :: (pass x).1, (pass x).2)

def finish : AliasScan → List Segment
  | outside _ => []
  | letter k => [plain [k]]
  | keyword k => [plain k]
  | blank k => [plain k, plain [' ']]
  | name k w => [aliased k w]

def run (state : AliasScan) : List Char → List Segment
  | [] => state.finish
  | x :: rest => (state.step x).1 ++ run (state.step x).2 rest

/-- What was read and not yet given out. -/
def pending : AliasScan → List Char
  | outside _ => []
  | letter k => [k]
  | keyword k => k
  | blank k => k ++ [' ']
  | name k w => k ++ ' ' :: w

theorem pending_step (state : AliasScan) (x : Char) :
    (state.step x).1.flatMap source ++ (state.step x).2.pending = state.pending ++ [x] := by
  cases state <;> simp only [step] <;> split
  all_goals simp_all [pending, source, pass]

theorem flatMap_source_run (state : AliasScan) (cs : List Char) :
    (state.run cs).flatMap source = state.pending ++ cs := by
  induction cs generalizing state with
  | nil => cases state <;> simp [run, finish, pending, source]
  | cons x rest ih =>
    rw [run, List.flatMap_append, ih, ← List.append_assoc, pending_step]
    simp

end AliasScan

def aliases (cs : List Char) : List Segment := (AliasScan.outside false).run cs

theorem flatMap_source_aliases (cs : List Char) : (aliases cs).flatMap source = cs :=
  AliasScan.flatMap_source_run (.outside false) cs

end Segment

end SqlDraft
