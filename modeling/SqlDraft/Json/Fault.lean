import SqlDraft.Number.Numeral

/-!
What can be wrong with a JSON text, and where. The place counts characters from zero, lines and
columns from one.
-/
namespace SqlDraft.Json

inductive Problem where
  | valueExpected
  | nameExpected
  | colonExpected
  | commaExpected
  | unterminatedText
  | controlCharacter
  | invalidEscape
  | invalidUnicodeEscape
  | extraData
  | byteOrderMark
deriving DecidableEq

def Problem.message : Problem → String
  | valueExpected => "Expecting value"
  | nameExpected => "Expecting property name enclosed in double quotes"
  | colonExpected => "Expecting ':' delimiter"
  | commaExpected => "Expecting ',' delimiter"
  | unterminatedText => "Unterminated string starting at"
  | controlCharacter => "Invalid control character at"
  | invalidEscape => "Invalid \\escape"
  | invalidUnicodeEscape => "Invalid \\uXXXX escape"
  | extraData => "Extra data"
  | byteOrderMark => "Unexpected UTF-8 BOM (decode using utf-8-sig)"

structure Fault where
  problem : Problem
  offset : Nat
  line : Nat
  column : Nat

def Fault.message (f : Fault) : String :=
  f.problem.message ++ ": line " ++ toString f.line ++ " column " ++ toString f.column ++
    " (char " ++ toString f.offset ++ ")"

def Fault.locate (text : List Char) (problem : Problem) (offset : Nat) : Fault :=
  let before := text.take offset
  { problem, offset,
    line := before.count '\n' + 1,
    column := (before.reverse.takeWhile (· ≠ '\n')).length + 1 }

/-- Why reading stops: a problem at a place, or an integer with too many digits. -/
inductive Stop where
  | problem (p : Problem) (offset : Nat)
  | numeral (fault : NumeralFault)

end SqlDraft.Json
