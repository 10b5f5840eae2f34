import SqlDraft.Value

/-!
The kinds of operand tokens. A placeholder is recognised by the whole text: a question mark
alone takes the next positional parameter, and one with a colon and a name takes that name.
-/
namespace SqlDraft

inductive Token where
  | null
  | bool
  | number
  | string
  | positional
  | named (name : String)
deriving DecidableEq

/-- Letters, digits and the low line of ASCII. -/
def isNameChar (c : Char) : Bool := c.isAlphanum || c = '_'

def namedPlaceholder? (s : String) : Option String :=
  match s.toList with
  | '?' :: ':' :: name =>
    if name ≠ [] ∧ name.all isNameChar then some (String.ofList name) else none
  | _ => none

namespace Token

def ofText (s : String) : Token :=
  if s = "?" then positional
  else match namedPlaceholder? s with
    | some name => named name
    | none => string

def ofValue : Value → Token
  | .null => null
  | .bool _ => bool
  | .int _ => number
  | .float _ => number
  | .decimal _ => number
  | .text s => ofText s
  | _ => string

def kindName : Token → String
  | null => "null"
  | bool => "bool"
  | number => "number"
  | string => "string"
  | positional => "positional"
  | named _ => "named"

def name? : Token → Option String
  | named name => some name
  | _ => none

end Token

end SqlDraft
