/-!
White space: the spaces and the line and paragraph separators of Unicode and the control
characters that end or indent a line. A blank may also be one of the four information separators.
-/
namespace SqlDraft.Text

def isSpace (c : Char) : Bool :=
  let n := c.toNat
  decide ((9 ≤ n ∧ n ≤ 13) ∨ n = 32 ∨ n = 0x85 ∨ n = 0xA0 ∨ n = 0x1680 ∨
    (0x2000 ≤ n ∧ n ≤ 0x200A) ∨ n = 0x2028 ∨ n = 0x2029 ∨ n = 0x202F ∨ n = 0x205F ∨ n = 0x3000)

def isBlank (c : Char) : Bool := isSpace c || decide (28 ≤ c.toNat ∧ c.toNat ≤ 31)

/-- Without the characters of a kind at both ends. -/
def trim (p : Char → Bool) (cs : List Char) : List Char :=
  ((cs.dropWhile p).reverse.dropWhile p).reverse

end SqlDraft.Text
