import SqlDraft.Number.Numeral
import SqlDraft.Text.Blank

/-!
Whole numbers in text that is not yet in plain form. White space around the number, a plus sign,
zeros in front, a point with nothing but zeros behind it, and single low lines inside are taken
away, in this order; what is left has to be a plain numeral. Zeros in front may end at a minus
sign, which then belongs to the numeral.
-/
namespace SqlDraft.Schema.WholeNumber

/-- Behind a first zero, given the character before: zeros and low lines are passed over, but one
of them stays in front of a point or the end. -/
def dropZeros? (last : Char) : List Char → Option (List Char)
  | [] => some [last]
  | c :: rest =>
    if c = '0' ∨ c = '_' then dropZeros? c rest
    else if c = '.' then some (last :: c :: rest)
    else if c.isDigit ∨ c = '-' then some (c :: rest)
    else none

/-- The text has to start with a digit or a minus sign. -/
def withoutZeros? : List Char → Option (List Char)
  | [] => none
  | c :: rest =>
    if c = '0' then dropZeros? c rest
    else if c.isDigit ∨ c = '-' then some (c :: rest)
    else none

/-- A point with zeros behind it is dropped with them; a point at the end stays. -/
def withoutFraction (cs : List Char) : List Char :=
  let fraction := (cs.dropWhile (· ≠ '.')).drop 1
  if fraction ≠ [] ∧ fraction.all (· = '0') then cs.takeWhile (· ≠ '.') else cs

/-- Each low line stands between two other characters. -/
def lowLinesInside : (behindOther : Bool) → List Char → Bool
  | behindOther, [] => behindOther
  | behindOther, c :: rest =>
    if c = '_' then behindOther && lowLinesInside false rest else lowLinesInside true rest

def withoutLowLines (cs : List Char) : List Char :=
  if lowLinesInside false cs then cs.filter (· ≠ '_') else cs

/-- Digits with no zero in front of others. -/
def magnitude? : List Char → Option Nat
  | [] => none
  | '0' :: rest => if rest.isEmpty then some 0 else none
  | cs => if cs.all Char.isDigit then some (Numeral.value cs) else none

/-- A magnitude with a minus sign or without; the sign counts for the length. -/
def ofPlain? (cs : List Char) : Option Int :=
  if cs.length > Numeral.digitLimit then none
  else match cs with
    | '-' :: digits => (magnitude? digits).map fun n => -(n : Int)
    | digits => (magnitude? digits).map fun n => (n : Int)

/-- A minus sign directly behind a plus sign makes no number. -/
def withoutPlus? : List Char → Option (List Char)
  | '+' :: '-' :: _ => none
  | '+' :: rest => some rest
  | cs => some cs

def read? (s : String) : Option Int := do
  let unsigned ← withoutPlus? (Text.trim Text.isSpace s.toList)
  let (sign, body) := match unsigned with
    | '-' :: rest => (['-'], rest)
    | cs => ([], cs)
  let significant ← withoutZeros? body
  ofPlain? (sign ++ withoutLowLines (withoutFraction significant))

end SqlDraft.Schema.WholeNumber
