import SqlDraft.Proofs.Identifiers.Qualifiers
import SqlDraft.Proofs.Naming
import SqlDraft.Proofs.Positional

/-!
Columns behind the names of declared tables. A name stays with the draft once a call has brought it,
so in every later build a column behind it is quoted part by part exactly if the name is a word, or
backticks and a known word.
-/
namespace SqlDraft

open Text

/-- No placeholder has a point in it. -/
theorem Token.ofValue_of_point {s : String} (h : '.' ∈ s.toList) :
    ofValue (.text s) = string := by
  cases htoken : ofValue (.text s) with
  | positional =>
    obtain rfl : s = "?" := Value.text.inj ((ofValue_eq_positional_iff _).mp htoken)
    exact absurd h (by decide)
  | named name =>
    obtain ⟨hs, -, hname⟩ := (ofValue_eq_named_iff _ name).mp htoken
    rw [Value.text.inj hs, String.toList_append, List.mem_append] at h
    rcases h with hmark | hpoint
    · exact absurd hmark (by decide)
    · exact absurd (List.all_eq_true.mp hname _ hpoint) (by decide)
  | string => rfl
  | _ =>
    simp only [ofValue, ofText] at htoken
    split at htoken
    · cases htoken
    · split at htoken <;> cases htoken

theorem Operand.exec_resolve_of_point (scope : Scope) {s : String} (h : '.' ∈ s.toList)
    (force : Bool) (p : Progress) : (resolve scope (.text s) force).exec p =
      (.ok (identifier scope (.text s) force), p) := by
  have htoken := Token.ofValue_of_point h
  have hne : Value.text s ≠ .text "?" := by
    intro heq
    rw [heq] at htoken
    cases htoken
  rw [exec_resolve_of_ne scope hne, lookup, htoken]
  rfl

namespace Draft

/-- No change takes a name away. -/
theorem Change.mem_names {d d' : Draft} (h : Change d d') {x : String}
    (hx : x ∈ d.identifiers.names) : x ∈ d'.identifiers.names := by
  have hdeclared {ids : Identifiers} {clause : String} {spec : Value}
      {declared : Except Error TableRef}
      (htable : TableRef.declare d.identifiers clause spec = (ids, declared)) : x ∈ ids.names :=
    (TableRef.adds_of_declare htable x).mpr (Or.inl hx)
  cases h with
  | names htable => exact hdeclared htable
  | statement htable => exact hdeclared htable
  | join htable => exact hdeclared htable
  | _ => exact hx

theorem proceed_append (d : Draft) (calls others : List Declaration) :
    d.proceed (calls ++ others) = (d.proceed calls).proceed others := by
  induction calls generalizing d with
  | nil => rfl
  | cons call rest ih => exact ih (d.declare call).draft

variable {d : Draft}

/-- What a call that succeeds has brought is known after any further calls. -/
theorem mem_names_proceed {call : Declaration} (h : (d.declare call).error = none) {name : String}
    (hname : name ∈ call.names) (after : List Declaration) :
    name ∈ (d.proceed (call :: after)).identifiers.names := by
  have hbrought : name ∈ (d.declare call).draft.identifiers.names :=
    (adds_declare h name).mpr (Or.inr hname)
  exact (changes_proceed (d.declare call).draft after).preserve
    (P := fun d => name ∈ d.identifiers.names) (fun hchange => hchange.mem_names) hbrought

/-- A build that succeeds writes each operand with a point in it as an identifier. -/
theorem written_of_point {operators : OperatorTable} {sql : String}
    (h : (d.build operators).1 = .ok sql) : ∃ texts : List String,
      sql = (d.layout operators).fill d.scope texts ∧
      ∀ (i : Nat) (s : String) (force : Bool), '.' ∈ s.toList →
        (d.operands operators)[i]? = some ⟨.text s, force⟩ →
        texts[i]? = some (Operand.identifier d.scope (.text s) force) := by
  obtain ⟨texts, hresolved, hfill⟩ := build_ok h
  rw [operands_layout] at hresolved
  refine ⟨texts, hfill, fun i s force hs hoperand => ?_⟩
  obtain ⟨written, hwritten, hstands⟩ := hresolved.stands_at hoperand
  cases hstands with
  | filled => exact absurd hs (by decide)
  | echoed => exact absurd hs (by decide)
  | other _ hlookup =>
    rw [Operand.lookup, Token.ofValue_of_point hs] at hlookup
    rw [hwritten, (Operand.written_ok_iff.mp hlookup).2]

/-- Names that can stand before a column: a word, or a known word behind backticks. -/
def Qualifier (d : Draft) (name : String) : Prop :=
  (∃ w : Word, name = w.text) ∨
    ∃ (k : Nat) (w : Word), name = Identifiers.ticks (k + 1) ++ w.text ∧
      w.text ∈ d.identifiers.names

/-- A column behind a known name is quoted part by part exactly if the name is a qualifier. -/
theorem identifier_qualified_iff {name : String} (h : name ∈ d.identifiers.names) (column : Word)
    (force : Bool) : Operand.identifier d.scope (.text (name ++ "." ++ column.text)) force =
      quoteName name ++ "." ++ quoteName column.text ↔ d.Qualifier name := by
  rw [Operand.identifier, Value.asText, scope, Identifiers.quote_qualified_iff]
  constructor
  · rintro ⟨k, w, rfl, hw⟩
    cases k with
    | zero => exact Or.inl ⟨w, by simp [Identifiers.ticks]⟩
    | succ k => exact Or.inr ⟨k, w, rfl, hw⟩
  · rintro (⟨w, rfl⟩ | ⟨k, w, rfl, hw⟩)
    · exact ⟨0, w, by simp [Identifiers.ticks], h⟩
    · exact ⟨k + 1, w, rfl, hw⟩

/-- After a call that succeeds, a column behind a name that it brought is written part by part in
every later build, by force or not, exactly if the name is a qualifier. -/
theorem qualified_columns (strict : Bool) (operators : OperatorTable)
    (before after : List Declaration) (call : Declaration) (name : String) (column : Word)
    (force : Bool) (h : (((empty strict).proceed before).declare call).error = none)
    (hname : name ∈ call.names) :
    let d := (empty strict).proceed (before ++ call :: after)
    let token : Value := .text (name ++ "." ++ column.text)
    let written := Operand.identifier d.scope token force
    (written = quoteName name ++ "." ++ quoteName column.text ↔ d.Qualifier name) ∧
    (∀ p, (Operand.resolve d.scope token force).exec p = (.ok written, p)) ∧
    ∀ sql, (d.build operators).1 = .ok sql → ∃ texts,
      sql = (d.layout operators).fill d.scope texts ∧
      ∀ i : Nat, (d.operands operators)[i]? = some ⟨token, force⟩ → texts[i]? = some written := by
  intro d token written
  have hknown : name ∈ d.identifiers.names := by
    have hlater := mem_names_proceed h hname after
    rwa [← proceed_append] at hlater
  have hpoint : '.' ∈ (name ++ "." ++ column.text).toList := by simp
  refine ⟨identifier_qualified_iff hknown column force,
    Operand.exec_resolve_of_point d.scope hpoint force, fun sql hbuilt => ?_⟩
  obtain ⟨texts, hfill, htexts⟩ := written_of_point hbuilt
  exact ⟨texts, hfill, fun i hoperand => htexts i _ force hpoint hoperand⟩

/-- An alias in a condition, declared by a join after a statement. -/
theorem qualified_columns_alias :
    let before : List Declaration := [.statement .select .null
      [("table", .text "user"), ("columns", .text "o.id")]]
    let call : Declaration := .joins (.dict [(.text "type", .text "left"),
      (.text "table", .dict [(.text "shop.order", .text "o")]),
      (.text "conditions", .list [.list [.text "o.user", .text "=", .text "user.id"]])])
    let d := (empty true).proceed (before ++ [call])
    (((empty true).proceed before).declare call).error = none ∧ "o" ∈ call.names ∧
      Operand.identifier d.scope (.text "o.id") true = "`o`.`id`" := by
  intro before call d
  have hdone : (((empty true).proceed before).declare call).error = none := by decide +kernel
  have hname : "o" ∈ call.names := by decide
  have hword : d.Qualifier "o" := Or.inl ⟨⟨"o", by decide, by decide⟩, rfl⟩
  have hqualified := (qualified_columns true .standard before [] call "o"
    ⟨"id", by decide, by decide⟩ true hdone hname).1.mpr hword
  exact ⟨hdone, hname, hqualified⟩

/-- A name with a point in it is known; a column behind it is quoted as a whole or not at all. -/
theorem qualified_columns_schema :
    let call : Declaration := .statement .select .null
      [("table", .text "shop.user"), ("columns", .list [.text "shop.user.id"])]
    let d := (empty false).proceed [call]
    ((empty false).declare call).error = none ∧ "shop.user" ∈ call.names ∧
      (d.build .standard).1 = .ok "SELECT `shop.user.id`\nFROM `shop.user`\n" ∧
      ∀ force, Operand.identifier d.scope (.text "shop.user.id") force ≠
        quoteName "shop.user" ++ "." ++ quoteName "id" := by
  intro call d
  have hforced : Operand.identifier d.scope (.text "shop.user.id") true = "`shop.user.id`" := by
    decide +kernel
  have hplain : Operand.identifier d.scope (.text "shop.user.id") false = "shop.user.id" := by
    decide +kernel
  refine ⟨by decide +kernel, by decide, by decide +kernel, fun force => ?_⟩
  cases force with
  | true =>
    rw [hforced]
    decide
  | false =>
    rw [hplain]
    decide

end Draft

end SqlDraft
