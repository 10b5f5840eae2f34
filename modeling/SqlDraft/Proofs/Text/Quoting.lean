import SqlDraft.Text.Escape

/-!
Quoted texts read back. A scanner that takes every backslash together with the letter behind it
reads the whole of a quoted text, nothing of what follows it, and decodes it to the text that was
quoted. For single quotes this holds of every text, since a quote inside is escaped too. A backtick
is not, so a name in backticks is read back only if it has none.
-/
namespace SqlDraft.Text

/-- Reads from the opening delimiter on: the decoded text, and what follows it. -/
def scanQuoted (delimiter : Char) (s : String) : Option (String × String) :=
  match s.toList with
  | [] => none
  | c :: rest =>
    if c = delimiter then
      (scan delimiter rest).map fun r => (String.ofList r.1, String.ofList r.2)
    else none

/-- The characters that never show as themselves between quotes. -/
def controls : List Char := ['\x00', '\x08', '\t', '\n', '\r', '\x1a']

theorem escapeLetter_backslash : escapeLetter '\\' = some '\\' := rfl

theorem escapeChars_cons_of_some {c e : Char} (h : escapeLetter c = some e) (cs : List Char) :
    escapeChars (c :: cs) = '\\' :: e :: escapeChars cs := by
  simp [escapeChars, h]

theorem escapeChars_cons_of_none {c : Char} (h : escapeLetter c = none) (cs : List Char) :
    escapeChars (c :: cs) = c :: escapeChars cs := by
  simp [escapeChars, h]

theorem escapeChars_of_plain {cs : List Char} (h : ∀ c ∈ cs, escapeLetter c = none) :
    escapeChars cs = cs := by
  induction cs with
  | nil => rfl
  | cons c rest ih =>
    obtain ⟨hc, hrest⟩ := List.forall_mem_cons.mp h
    rw [escapeChars_cons_of_none hc, ih hrest]

/-- A text without special characters is left as it is. -/
theorem escape_eq_self (s : String) (h : ∀ c ∈ s.toList, escapeLetter c = none) :
    escape s = s := by
  rw [escape, escapeChars_of_plain h, String.ofList_toList]

theorem scan_escaped (delimiter : Char) {c e : Char} (h : escapeLetter c = some e)
    (cs : List Char) :
    scan delimiter ('\\' :: e :: cs) = (scan delimiter cs).map fun r => (c :: r.1, r.2) := by
  simp only [scan, escapeLetter_eq_some_iff.mp h]

/-- A backslash is never taken for a plain character. -/
theorem scan_plain (delimiter : Char) {c : Char} (h : escapeLetter c = none) (cs : List Char) :
    scan delimiter (c :: cs) =
      if c = delimiter then some ([], cs)
      else (scan delimiter cs).map fun r => (c :: r.1, r.2) := by
  have hc : c ≠ '\\' := by
    rintro rfl
    rw [escapeLetter_backslash] at h
    cases h
  cases cs with
  | nil => simp [scan, hc]
  | cons e rest => simp [scan, hc]

theorem scan_delimiter {delimiter : Char} (hd : delimiter ≠ '\\') (rest : List Char) :
    scan delimiter (delimiter :: rest) = some ([], rest) := by
  cases rest with
  | nil => simp [scan, hd]
  | cons e cs => simp [scan, hd]

/-- The scanner is back outside of an escape after each character of the text, so a delimiter
behind the text is the first that it stops at. -/
theorem scan_escapeChars {delimiter : Char} (hd : delimiter ≠ '\\') (cs rest : List Char)
    (hcs : delimiter ∈ cs → escapeLetter delimiter ≠ none) :
    scan delimiter (escapeChars cs ++ delimiter :: rest) = some (cs, rest) := by
  induction cs with
  | nil => exact scan_delimiter hd rest
  | cons c cs ih =>
    have htail := ih fun hmem => hcs (List.mem_cons_of_mem _ hmem)
    cases he : escapeLetter c with
    | some e =>
      rw [escapeChars_cons_of_some he, List.cons_append, List.cons_append,
        scan_escaped delimiter he, htail]
      rfl
    | none =>
      have hne : c ≠ delimiter := by
        rintro rfl
        exact hcs List.mem_cons_self he
      rw [escapeChars_cons_of_none he, List.cons_append, scan_plain delimiter he, htail]
      simp [hne]

theorem scanQuoted_wrapped {delimiter : Char} (hd : delimiter ≠ '\\') (s rest : String)
    (hs : delimiter ∈ s.toList → escapeLetter delimiter ≠ none) :
    scanQuoted delimiter (String.singleton delimiter ++ escape s ++ String.singleton delimiter ++
      rest) = some (s, rest) := by
  have hscan := scan_escapeChars hd s.toList rest.toList hs
  simp [scanQuoted, escape, hscan]

theorem escapeLetter_of_mem_controls {c : Char} (h : c ∈ controls) : escapeLetter c ≠ none := by
  simp only [controls, List.mem_cons, List.not_mem_nil, or_false] at h
  rcases h with rfl | rfl | rfl | rfl | rfl | rfl <;> decide

theorem escapeLetter_notMem_controls {c e : Char} (h : escapeLetter c = some e) :
    e ∉ controls := by
  unfold escapeLetter at h
  split at h <;> cases h <;> decide

theorem notMem_controls_of_mem_escapeChars (cs : List Char) {x : Char}
    (hx : x ∈ escapeChars cs) : x ∉ controls := by
  induction cs with
  | nil => simp [escapeChars] at hx
  | cons c cs ih =>
    cases he : escapeLetter c with
    | some e =>
      rw [escapeChars_cons_of_some he] at hx
      rcases List.mem_cons.mp hx with rfl | hx
      · decide
      · rcases List.mem_cons.mp hx with rfl | hx
        · exact escapeLetter_notMem_controls he
        · exact ih hx
    | none =>
      rw [escapeChars_cons_of_none he] at hx
      rcases List.mem_cons.mp hx with rfl | hx
      · exact fun hc => escapeLetter_of_mem_controls hc he
      · exact ih hx

/-- Whatever follows a quoted literal, scanning stops right behind it with the text that was
quoted; and no control character is left raw in it. -/
theorem scanQuoted_quoteLiteral (s rest : String) :
    scanQuoted '\'' (quoteLiteral s ++ rest) = some (s, rest) ∧
      ∀ c ∈ (quoteLiteral s).toList, c ∉ controls := by
  constructor
  · have hq : escapeLetter '\'' ≠ none := by decide
    exact scanQuoted_wrapped (by decide) s rest fun _ => hq
  · intro c hc
    have hparts : c = '\'' ∨ c ∈ escapeChars s.toList := by
      simpa [quoteLiteral, escape, or_comm, or_left_comm] using hc
    rcases hparts with rfl | hc
    · decide
    · exact notMem_controls_of_mem_escapeChars _ hc

theorem escapeChars_append (cs ds : List Char) :
    escapeChars (cs ++ ds) = escapeChars cs ++ escapeChars ds := by
  induction cs with
  | nil => rfl
  | cons c cs ih =>
    cases he : escapeLetter c with
    | some e => simp only [List.cons_append, escapeChars_cons_of_some he, ih]
    | none => simp only [List.cons_append, escapeChars_cons_of_none he, ih]

theorem quoteName_ne_empty (name : String) : quoteName name ≠ "" := by
  intro h
  have hlist := congrArg String.toList h
  simp [quoteName] at hlist

theorem escapeLetter_backtick : escapeLetter '`' = none := rfl

/-- A backtick inside a name is not escaped: reading stops there, and the rest of the name is taken
for what follows it. -/
theorem scanQuoted_quoteName_backtick {before : String} (h : '`' ∉ before.toList)
    (after rest : String) :
    scanQuoted '`' (quoteName (before ++ "`" ++ after) ++ rest) =
      some (before, escape after ++ "`" ++ rest) := by
  have htext : quoteName (before ++ "`" ++ after) ++ rest =
      "`" ++ escape before ++ "`" ++ (escape after ++ "`" ++ rest) := by
    apply String.toList_injective
    simp [quoteName, escape, escapeChars_append, escapeChars_cons_of_none escapeLetter_backtick]
  rw [htext]
  exact scanQuoted_wrapped (by decide) before _ fun hmem => absurd hmem h

theorem scanQuoted_quoteName_iff (name rest : String) :
    scanQuoted '`' (quoteName name ++ rest) = some (name, rest) ↔ '`' ∉ name.toList := by
  constructor
  · intro hscan hmem
    obtain ⟨before, after, hsplit, hbefore⟩ := List.eq_append_cons_of_mem hmem
    have hname : name = String.ofList before ++ "`" ++ String.ofList after :=
      String.toList_injective (by simp [hsplit])
    have hstop : '`' ∉ (String.ofList before).toList := by rwa [String.toList_ofList]
    rw [hname, scanQuoted_quoteName_backtick hstop] at hscan
    have hread : String.ofList before = name := by
      rw [hname]
      exact congrArg Prod.fst (Option.some.inj hscan)
    rw [← hread] at hmem
    exact hstop hmem
  · intro h
    exact scanQuoted_wrapped (by decide) name rest fun hmem => absurd hmem h

example : scanQuoted '`' (quoteName "a`b" ++ "\n") = some ("a", "b`\n") := by decide

end SqlDraft.Text
