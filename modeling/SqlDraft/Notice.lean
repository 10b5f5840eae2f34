import SqlDraft.Value.Display

/-!
Notes on what was done to a draft: declarations and builds, and the values that were passed over
without an error.
-/
namespace SqlDraft

inductive Level where
  | debug
  | warning
deriving DecidableEq

def Level.name : Level → String
  | debug => "DEBUG"
  | warning => "WARNING"

inductive Notice where
  | skipped (item : Value)
  | malformedOperand (operator column : Value)
  | unresolved (position : Nat)
  | declared (kind table : String)
  | replaced (old new : String)
  | built (kind : String) (consumed : Nat)

namespace Notice

def level : Notice → Level
  | malformedOperand .. => .warning
  | unresolved _ => .warning
  | _ => .debug

def message : Notice → String
  | skipped item => "Skipping unrecognised condition " ++ item.quoted
  | malformedOperand operator column =>
    "Malformed value for operator " ++ operator.quoted ++ " on " ++ column.quoted ++
      "; rendering an empty fragment"
  | unresolved position =>
    "No positional parameter at position " ++ toString position ++
      "; placeholder left unresolved"
  | declared kind table => "Declared " ++ kind ++ " statement on " ++ table
  | replaced old new => "Replacing " ++ old ++ " statement with " ++ new
  | built kind consumed =>
    "Built " ++ kind ++ " statement (" ++ toString consumed ++
      " positional parameter(s) consumed)"

end Notice

end SqlDraft
