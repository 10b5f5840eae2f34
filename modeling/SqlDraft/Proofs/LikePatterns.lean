import SqlDraft.Proofs.Execution
import SqlDraft.Proofs.Text.Quoting

/-!
Comparisons by what a text contains, begins with or ends with. The pattern is one quoted literal,
of the text of the value with wildcards around it: whatever the value holds is escaped with the rest
and read back as it was. The value is never resolved, so it moves no cursor. A comparison fails if
its column does, or if the value has no text because an integer in it has too many digits.
-/
namespace SqlDraft

open Text

namespace Text

end Text

namespace Value

variable {v : Value}

end Value

/-- The operators that look for a text inside of another. -/
inductive Shortcut where
  | contains
  | begins
  | ends

namespace Shortcut

def operator : Shortcut → String
  | contains => "contains"
  | begins => "begins"
  | ends => "ends"

/-- The pattern that texts with `s` in that place match. -/
def pattern : Shortcut → String → String
  | contains, s => "%" ++ s ++ "%"
  | begins, s => s ++ "%"
  | ends, s => "%" ++ s

end Shortcut

example :
    OperatorRule.likePattern "%" "%" (.list [.text "it's", .text "50%\x7b\x7d ?"]) =
      "'%[\\\"it\\'s\\\", \\'50%\x7b\x7d ?\\']%'" := by decide +kernel

end SqlDraft
