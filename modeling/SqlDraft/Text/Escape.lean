/-!
Backslash escapes of quoted SQL text. `escape` writes nine characters as a backslash and a
letter and leaves every other one alone; `scan` reads quoted text from behind its opening
delimiter and stops at the first delimiter that is not escaped.
-/
namespace SqlDraft.Text

def escapeLetter : Char → Option Char
  | '\x00' => some '0'
  | '\x08' => some 'b'
  | '\t' => some 't'
  | '\n' => some 'n'
  | '\r' => some 'r'
  | '\x1a' => some 'Z'
  | '"' => some '"'
  | '\'' => some '\''
  | '\\' => some '\\'
  | _ => none

/-- The character that an escape letter stands for. -/
def unescapeLetter : Char → Option Char
  | '0' => some '\x00'
  | 'b' => some '\x08'
  | 't' => some '\t'
  | 'n' => some '\n'
  | 'r' => some '\r'
  | 'Z' => some '\x1a'
  | '"' => some '"'
  | '\'' => some '\''
  | '\\' => some '\\'
  | _ => none

def escapeChars : List Char → List Char
  | [] => []
  | c :: rest =>
    match escapeLetter c with
    | some e => '\\' :: e :: escapeChars rest
    | none => c :: escapeChars rest

def escape (s : String) : String := String.ofList (escapeChars s.toList)

def quoteLiteral (s : String) : String := "'" ++ escape s ++ "'"

def quoteName (s : String) : String := "`" ++ escape s ++ "`"

/-- The decoded content up to the closing delimiter, and what follows it. A backslash has to stand
before an escape letter. -/
def scan (delimiter : Char) : List Char → Option (List Char × List Char)
  | [] => none
  | ['\\'] => none
  | '\\' :: e :: rest =>
    match unescapeLetter e with
    | some c => (scan delimiter rest).map fun r => (c :: r.1, r.2)
    | none => none
  | c :: rest =>
    if c = delimiter then some ([], rest)
    else (scan delimiter rest).map fun r => (c :: r.1, r.2)

theorem escapeLetter_eq_some_iff {c e : Char} :
    escapeLetter c = some e ↔ unescapeLetter e = some c := by
  constructor <;> intro h
  · unfold escapeLetter at h
    split at h <;> cases h <;> rfl
  · unfold unescapeLetter at h
    split at h <;> cases h <;> rfl

end SqlDraft.Text
