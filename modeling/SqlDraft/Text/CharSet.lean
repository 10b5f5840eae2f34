/-!
Sets of code points, given by the increasing boundaries at which membership flips. A code
point belongs to the set when an odd number of boundaries is at most the code point, and
`rank` finds that number by bisection.
-/
namespace SqlDraft.Text

structure CharSet where
  boundaries : Array Nat

namespace CharSet

/-- The first index from `low` on whose entry is above `key`, for `high` at most the size. -/
def bisect (a : Array Nat) (key : Nat) : Nat → Nat → Nat → Nat
  | 0, low, _ => low
  | fuel + 1, low, high =>
    if low < high then
      let middle := low + (high - low) / 2
      match a[middle]? with
      | some entry =>
        if entry ≤ key then bisect a key fuel (middle + 1) high
        else bisect a key fuel low middle
      | none => low
    else low

/-- The number of boundaries that are at most `n`. -/
def rank (s : CharSet) (n : Nat) : Nat :=
  bisect s.boundaries n (s.boundaries.size.log2 + 1) 0 s.boundaries.size

def contains (s : CharSet) (c : Char) : Bool := s.rank c.toNat % 2 = 1

/-- How far a member lies behind the start of its run of members. -/
def offset? (s : CharSet) (c : Char) : Option Nat :=
  let r := s.rank c.toNat
  if r % 2 = 1 then (s.boundaries[r - 1]?).map fun start => c.toNat - start else none

end CharSet

end SqlDraft.Text
