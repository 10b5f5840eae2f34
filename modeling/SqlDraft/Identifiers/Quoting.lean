import SqlDraft.Identifiers
import SqlDraft.Identifiers.Segment
import SqlDraft.Text.Escape

/-!
Quoting inside expressions. Pairs with a registered table are quoted part by part, a lone star
excepted; then aliases are quoted behind `AS`. A text in which nothing was quoted, without a
space and other than a lone star, can be quoted as a whole.
-/
namespace SqlDraft

namespace Segment

def quotePart (part : List Char) : List Char :=
  if part = ['*'] then part else (Text.quoteName (String.ofList part)).toList

/-- Whether quoting changes the segment. -/
def isQuoted (ids : Identifiers) : Segment → Bool
  | plain _ => false
  | pair table _ => ids.contains (String.ofList table)
  | aliased _ _ => true

def render (ids : Identifiers) (s : Segment) : List Char :=
  if s.isQuoted ids then
    match s with
    | plain chars => chars
    | pair table column => quotePart table ++ '.' :: quotePart column
    | aliased _ name => "AS ".toList ++ (Text.quoteName (String.ofList name)).toList
  else s.source

end Segment

namespace Identifiers

/-- The text with its pairs and aliases quoted, and whether there were any. -/
def quoteWithin (ids : Identifiers) (text : String) : String × Bool :=
  let pairs := Segment.pairs text.toList
  let aliases := Segment.aliases (pairs.flatMap (Segment.render ids))
  (String.ofList (aliases.flatMap (Segment.render ids)),
    pairs.any (Segment.isQuoted ids) || aliases.any (Segment.isQuoted ids))

def quote (ids : Identifiers) (text : String) (force : Bool) : String :=
  let (inner, quoted) := ids.quoteWithin text
  if !quoted && force && !inner.toList.contains ' ' && inner ≠ "*" then Text.quoteName inner
  else inner

end Identifiers

end SqlDraft
