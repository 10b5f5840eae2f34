import SqlDraft.Text.CaseTables

/-!
Full case conversion of text: a character may map to several, and the lower case of a capital
sigma at the end of a word is the final sigma.
-/
namespace SqlDraft.Text

def mapCase (specials : List (Nat × List Nat)) (runs : List CaseRun) (c : Char) : List Char :=
  match specials.lookup c.toNat with
  | some codes => codes.map Char.ofNat
  | none => [((runs.findSome? (·.map? c.toNat)).map Char.ofNat).getD c]

def upperChar (c : Char) : List Char :=
  if c.toNat < 128 then [c.toUpper] else mapCase upperSpecials upperRuns c

def lowerChar (c : Char) : List Char :=
  if c.toNat < 128 then [c.toLower] else mapCase lowerSpecials lowerRuns c

/-- The form at the head of a capitalized word. -/
def initialChar (c : Char) : List Char :=
  match initialSpecials.lookup c.toNat with
  | some codes => codes.map Char.ofNat
  | none => upperChar c

def upper (s : String) : String := String.ofList (s.toList.flatMap upperChar)

/-- The nearest character that counts, seen through ignorable ones, has a case. -/
def nextIsCased (cs : List Char) : Bool :=
  match cs.dropWhile caseIgnorableTable.contains with
  | [] => false
  | c :: _ => casedTable.contains c

/-- Lower case of the second list; the first holds what stands before it, nearest first. -/
def lowerAfter : List Char → List Char → List Char
  | _, [] => []
  | before, c :: rest =>
    (if c = 'Σ' then [if nextIsCased before && !nextIsCased rest then 'ς' else 'σ']
      else lowerChar c) ++ lowerAfter (c :: before) rest

/-- The first character in its initial form, the others in lower case. -/
def capitalize (s : String) : String :=
  match s.toList with
  | [] => ""
  | c :: rest => String.ofList (initialChar c ++ lowerAfter [c] rest)

end SqlDraft.Text
