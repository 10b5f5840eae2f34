import SqlDraft.Text.Printable

/-!
Texts and octets in quotes, as they appear in messages. Quotes are single unless the content
has a single quote and no double one; the quote in use, backslashes and characters that do not
show as themselves are escaped.
-/
namespace SqlDraft.Text

def hexDigits (width n : Nat) : List Char :=
  let digits := Nat.toDigits 16 n
  List.replicate (width - digits.length) '0' ++ digits

def codeEscape (n : Nat) : List Char :=
  if n < 0x100 then '\\' :: 'x' :: hexDigits 2 n
  else if n < 0x10000 then '\\' :: 'u' :: hexDigits 4 n
  else '\\' :: 'U' :: hexDigits 8 n

def showChar (shown : Char → Bool) (quote c : Char) : List Char :=
  if c = quote ∨ c = '\\' then ['\\', c]
  else if c = '\n' then ['\\', 'n']
  else if c = '\r' then ['\\', 'r']
  else if c = '\t' then ['\\', 't']
  else if shown c then [c]
  else codeEscape c.toNat

def chooseQuote (cs : List Char) : Char :=
  if '\'' ∈ cs ∧ '"' ∉ cs then '"' else '\''

def quoteWith (shown : Char → Bool) (cs : List Char) : List Char :=
  let quote := chooseQuote cs
  quote :: cs.flatMap (showChar shown quote) ++ [quote]

def quoted (s : String) : String := String.ofList (quoteWith isPrintable s.toList)

/-- Each octet as the character with its number, behind the letter b. -/
def quotedOctets (bytes : List UInt8) : String :=
  String.ofList ('b' :: quoteWith (fun c => decide (32 ≤ c.toNat ∧ c.toNat < 127))
    (bytes.map fun b => Char.ofNat b.toNat))

end SqlDraft.Text
