import SqlDraft.Proofs.Changes
import SqlDraft.Proofs.Identifiers.Rewriting
import SqlDraft.Proofs.Positional
import SqlDraft.Proofs.Text.Quoting

/-!
Names that a build quotes by force: columns that are assigned to or ordered by, bare columns and
items of lists, tables and their aliases. Where nothing inside is quoted, such a name stands in
backticks as a whole, and SQL that is read from its first backtick on gives the name back exactly
when the name has no backtick of its own.
-/
namespace SqlDraft

namespace Identifiers

/-- Whether quoting by force puts the text in backticks as a whole. -/
def wraps (ids : Identifiers) (text : String) : Prop :=
  (ids.quoteWithin text).2 = false ∧ ' ' ∉ text.toList ∧ text ≠ "*"

instance (ids : Identifiers) (text : String) : Decidable (ids.wraps text) :=
  inferInstanceAs (Decidable (_ ∧ _ ∧ _))

theorem quote_of_wraps {ids : Identifiers} {text : String} (h : ids.wraps text) :
    ids.quote text true = Text.quoteName text := by
  obtain ⟨hplain, hblank, hstar⟩ := h
  simp [quote, quoteWithin_of_plain hplain, hplain, hblank, hstar]

end Identifiers

/-- What a table, and its alias if it has one, were quoted from. -/
inductive TableRef.Quoted (ids : Identifiers) : TableRef → Value → Option Value → Prop where
  | bare (name : Value) : Quoted ids ⟨ids.quote name.asText true, none⟩ name none
  | aliased (name other : Value) :
      Quoted ids ⟨ids.quote name.asText true, some (ids.quote other.asText true)⟩ name (some other)

theorem TableRef.declare_quoted {ids ids' : Identifiers} {clause : String} {spec : Value}
    {table : TableRef} (h : declare ids clause spec = (ids', .ok table)) :
    ∃ name other, table.Quoted ids' name other := by
  by_cases hdict : ∃ entries, spec = .dict entries
  · obtain ⟨_ | ⟨⟨name, other⟩, rest⟩, rfl⟩ := hdict
    · cases h
    · rw [declare] at h
      split at h
      · cases h
      · next nameText hname =>
        split at h
        · cases h
        · next otherText hother =>
          cases h
          obtain ⟨-, rfl⟩ := Value.write_ok_iff.mp hname
          obtain ⟨-, rfl⟩ := Value.write_ok_iff.mp hother
          exact ⟨name, some other, .aliased name other⟩
  · rw [declare_bare ids clause (not_exists.mp hdict)] at h
    split at h
    · cases h
    · next text hwrite =>
      cases h
      obtain ⟨-, rfl⟩ := Value.write_ok_iff.mp hwrite
      exact ⟨spec, none, .bare spec⟩

namespace Draft

def tables (d : Draft) : List TableRef :=
  d.statement.toList.map Statement.table ++ d.joins.map Join.table

/-- Every table of the draft was quoted when it was declared. -/
def TablesQuoted (d : Draft) : Prop :=
  ∀ table ∈ d.tables, ∃ ids name other, table.Quoted ids name other

theorem Change.tablesQuoted {d d' : Draft} (h : Change d d') (hd : d.TablesQuoted) :
    d'.TablesQuoted := by
  cases h with
  | @statement ids _ _ s h =>
    intro t ht
    rcases List.mem_append.mp ht with ht | ht
    · have htable : t = s.table := List.mem_singleton.mp ht
      exact htable ▸ ⟨ids, TableRef.declare_quoted h⟩
    · exact hd t (List.mem_append_right _ ht)
  | @join ids _ _ join h =>
    intro t ht
    simp only [tables, List.map_append, List.map_cons, List.map_nil, ← List.append_assoc,
      List.mem_append, List.mem_singleton] at ht
    rcases ht with ht | rfl
    · exact hd t (List.mem_append.mpr ht)
    · exact ⟨ids, TableRef.declare_quoted h⟩
  | _ => exact hd

theorem tablesQuoted_empty (strict : Bool) : (empty strict).TablesQuoted := fun _ h => by
  simp [tables, empty] at h

end Draft

/-- A text that stands somewhere in another. -/
def Text.Within (part whole : String) : Prop := ∃ before after, whole = before ++ part ++ after

namespace Text.Within

theorem refl (s : String) : Within s s := ⟨"", "", by simp⟩

theorem trans {s t u : String} (h : Within s t) (h' : Within t u) : Within s u := by
  obtain ⟨before, after, rfl⟩ := h
  obtain ⟨before', after', rfl⟩ := h'
  exact ⟨before' ++ before, after ++ after', by simp only [String.append_assoc]⟩

theorem between (before s after : String) : Within s (before ++ s ++ after) := ⟨before, after, rfl⟩

end Text.Within

open Text

/-- The name of a table opens what is written of it. -/
theorem TableRef.name_within (t : TableRef) : Within t.name t.render := by
  unfold render
  split
  · next other _ =>
    exact ⟨"", " AS " ++ other, by simp only [String.empty_append, String.append_assoc]⟩
  · exact .refl _

theorem TableRef.aliasName_within {t : TableRef} {other : String} (h : t.aliasName = some other)
    (hne : other ≠ "") : Within other t.render := by
  have halias : t.aliasName? = some other := by simp [aliasName?, h, hne]
  unfold render
  rw [halias]
  exact ⟨t.name ++ " AS ", "", by simp only [String.append_empty]⟩

namespace Layout

variable (scope : Scope)

theorem fill_append (l m : Layout) (texts : List String) : (l ++ m).fill scope texts =
    l.fill scope texts ++ m.fill scope (texts.drop l.operands.length) := by
  induction l generalizing texts with
  | nil => simp [fill]
  | cons piece rest ih =>
    simp only [List.cons_append, fill, ih, operands_cons, List.length_append, List.drop_drop,
      String.append_assoc]

/-- The text of a piece stands in the text of the layout. -/
theorem within_fill (front : Layout) (piece : Piece) (back : Layout) (texts : List String) :
    Within (piece.fill scope (texts.drop front.operands.length))
      ((front ++ piece :: back).fill scope texts) := by
  rw [fill_append, fill]
  exact ⟨_, _, (String.append_assoc ..).symm⟩

theorem within_fill_sql {text : String} {l : Layout} (h : Piece.sql text ∈ l)
    (texts : List String) : Within text (l.fill scope texts) := by
  obtain ⟨front, back, rfl⟩ := List.append_of_mem h
  exact within_fill scope front (.sql text) back texts

end Layout

/-- The head of a statement shows its table, and the alias too unless something is inserted. -/
theorem Statement.table_within (joins : Layout) (s : Statement) :
    ∃ text, Piece.sql text ∈ s.layout joins ∧ Within s.table.name text ∧
      (s.kind ≠ .insert → Within s.table.render text) := by
  cases s with
  | select table columns =>
    have hrender : Within table.render ("\nFROM " ++ table.render ++ "\n") := .between ..
    exact ⟨_, by simp [layout], table.name_within.trans hrender, fun _ => hrender⟩
  | insert table columns duplicates =>
    refine ⟨"INSERT INTO " ++ table.name ++ " (", by simp [layout], .between .., ?_⟩
    exact fun h => absurd rfl h
  | update table columns =>
    have hrender : Within table.render ("UPDATE " ++ table.render ++ "\n") := .between ..
    exact ⟨_, by simp [layout], table.name_within.trans hrender, fun _ => hrender⟩
  | delete table =>
    have hrender (target : String) :
        Within table.render ("DELETE" ++ target ++ "\nFROM " ++ table.render ++ "\n") := .between ..
    exact ⟨_, List.mem_cons_self, table.name_within.trans (hrender _), fun _ => hrender _⟩

theorem Statement.mem_layout_of_mem_joins {joins : Layout} {piece : Piece} (h : piece ∈ joins)
    (s : Statement) : piece ∈ s.layout joins := by
  cases s <;> simp [layout, h]

/-- One operand has one text. -/
theorem Operand.Stands.unique {scope : Scope} {seen : Nat} {o : Operand} {text other : String}
    (h : o.Stands scope seen text) (h' : o.Stands scope seen other) : text = other := by
  cases h with
  | filled force hseen hv =>
    cases h' with
    | filled _ _ hv' => rw [Option.some.inj (hv.symm.trans hv')]
    | echoed _ hgap => omega
    | other hne _ => exact absurd rfl hne
  | echoed force hgap =>
    cases h' with
    | filled _ hseen _ => omega
    | echoed _ _ => rfl
    | other hne _ => exact absurd rfl hne
  | other hne hlookup =>
    cases h' with
    | filled _ _ _ => exact absurd rfl hne
    | echoed _ _ => exact absurd rfl hne
    | other _ hlookup' => exact Except.ok.inj (hlookup.symm.trans hlookup')

namespace Draft

/-- The tables that show their alias. -/
def aliased (d : Draft) : List TableRef :=
  (d.statement.toList.filter fun s => s.kind ≠ .insert).map Statement.table ++
    d.joins.map Join.table

/-- What a build quotes by force, with the identifiers known when it is quoted. -/
inductive Forced (d : Draft) (operators : OperatorTable) : Identifiers → Value → Prop where
  | key {column : Value} (h : Piece.name column ∈ d.layout operators) :
      Forced d operators d.identifiers column
  /-- A token to be quoted that stands for nothing but itself. -/
  | bare {front back : Layout} {token : Value}
      (hlayout : d.layout operators = front ++ .operand token true :: back)
      (hstands : Operand.Stands d.scope (positionals front.operands) ⟨token, true⟩
        (Operand.identifier d.scope token true)) : Forced d operators d.identifiers token
  | table {t : TableRef} {ids : Identifiers} {name : Value} {other : Option Value}
      (ht : t ∈ d.tables) (hquoted : t.Quoted ids name other) : Forced d operators ids name
  | aliasName {t : TableRef} {ids : Identifiers} {name other : Value}
      (ht : t ∈ d.aliased) (hquoted : t.Quoted ids name (some other)) : Forced d operators ids other

variable {d : Draft} {operators : OperatorTable} {sql : String}

theorem mem_layout_of_mem_statement {s : Statement} (hs : d.statement = some s) {piece : Piece}
    (h : piece ∈ s.layout (d.joins.flatMap (Join.layout operators))) :
    piece ∈ d.layout operators := by
  unfold layout
  simp only [hs, List.append_assoc]
  exact List.mem_append_left _ h

theorem mem_layout_of_mem_joins {s : Statement} (hs : d.statement = some s) {join : Join}
    (hjoin : join ∈ d.joins) :
    ∃ text, Piece.sql text ∈ d.layout operators ∧ Within join.table.render text := by
  refine ⟨upper join.type.asText ++ " JOIN " ++ join.table.render ++ "\n", ?_, .between ..⟩
  have hpiece : Piece.sql (upper join.type.asText ++ " JOIN " ++ join.table.render ++ "\n") ∈
      d.joins.flatMap (Join.layout operators) :=
    List.mem_flatMap.mpr ⟨join, hjoin, List.mem_cons_of_mem _ List.mem_cons_self⟩
  exact mem_layout_of_mem_statement hs (s.mem_layout_of_mem_joins hpiece)

/-- A draft that can be built shows its tables. -/
theorem sql_of_mem_tables (operators : OperatorTable) {s : Statement}
    (hs : d.statement = some s) {t : TableRef} (ht : t ∈ d.tables) :
    ∃ text, Piece.sql text ∈ d.layout operators ∧ Within t.name text := by
  simp only [tables, hs, Option.toList_some, List.map_cons, List.map_nil, List.singleton_append,
    List.mem_cons, List.mem_map] at ht
  rcases ht with rfl | ⟨join, hjoin, rfl⟩
  · obtain ⟨text, hmem, hname, -⟩ := s.table_within (d.joins.flatMap (Join.layout operators))
    exact ⟨text, mem_layout_of_mem_statement hs hmem, hname⟩
  · obtain ⟨text, hmem, hrender⟩ := mem_layout_of_mem_joins hs hjoin
    exact ⟨text, hmem, join.table.name_within.trans hrender⟩

theorem sql_of_mem_aliased (operators : OperatorTable) {s : Statement}
    (hs : d.statement = some s) {t : TableRef} (ht : t ∈ d.aliased) :
    ∃ text, Piece.sql text ∈ d.layout operators ∧ Within t.render text := by
  rcases List.mem_append.mp ht with ht | ht
  · simp only [hs, Option.toList_some, List.mem_map, List.mem_filter, List.mem_singleton,
      decide_eq_true_eq] at ht
    obtain ⟨_, ⟨rfl, hkind⟩, rfl⟩ := ht
    obtain ⟨text, hmem, -, hrender⟩ := Statement.table_within
      (d.joins.flatMap (Join.layout operators)) _
    exact ⟨text, mem_layout_of_mem_statement hs hmem, hrender hkind⟩
  · obtain ⟨join, hjoin, rfl⟩ := List.mem_map.mp ht
    exact mem_layout_of_mem_joins hs hjoin

theorem statement_of_build_ok (hbuilt : (d.build operators).1 = .ok sql) :
    ∃ s, d.statement = some s := by
  cases hs : d.statement with
  | some s => exact ⟨s, rfl⟩
  | none =>
    unfold build render at hbuilt
    rw [hs] at hbuilt
    cases hbuilt

/-- What is quoted by force and wrapped stands in the text of a build. -/
theorem within_of_forced {ids : Identifiers} {v : Value}
    (hbuilt : (d.build operators).1 = .ok sql) (h : d.Forced operators ids v)
    (hwraps : ids.wraps v.asText) : Within (quoteName v.asText) sql := by
  obtain ⟨s, hs⟩ := statement_of_build_ok hbuilt
  obtain ⟨texts, hresolved, rfl⟩ := build_ok hbuilt
  have hquote := Identifiers.quote_of_wraps hwraps
  rw [← hquote]
  cases h with
  | key hmem =>
    obtain ⟨front, back, hlayout⟩ := List.append_of_mem hmem
    rw [hlayout]
    exact Layout.within_fill d.scope front (.name v) back texts
  | @bare front back _ hlayout hstands =>
    -- The operand behind those of `front` has one text, and that is the token in quotes.
    have hoperand : (d.layout operators).operands[front.operands.length]? = some ⟨v, true⟩ := by
      rw [hlayout]
      simp [Piece.operands]
    obtain ⟨text, htext, hstands'⟩ := hresolved.stands_at hoperand
    have htake : (d.layout operators).operands.take front.operands.length = front.operands := by
      rw [hlayout]
      simp
    rw [htake, Nat.zero_add] at hstands'
    have hpiece : Piece.fill d.scope (.operand v true) (texts.drop front.operands.length) =
        d.identifiers.quote v.asText true := by
      simp only [Piece.fill, List.headD_eq_head?_getD, List.head?_drop, htext, Option.getD_some]
      exact hstands'.unique hstands
    rw [← hpiece, hlayout]
    exact Layout.within_fill d.scope front (.operand v true) back texts
  | table ht hquoted =>
    obtain ⟨text, hmem, hname⟩ := sql_of_mem_tables operators hs ht
    cases hquoted <;> exact hname.trans (Layout.within_fill_sql d.scope hmem texts)
  | aliasName ht hquoted =>
    obtain ⟨text, hmem, hrender⟩ := sql_of_mem_aliased operators hs ht
    cases hquoted with
    | aliased name =>
      have hne : ids.quote v.asText true ≠ "" := by
        rw [hquote]
        exact Text.quoteName_ne_empty _
      exact ((TableRef.aliasName_within rfl hne).trans hrender).trans
        (Layout.within_fill_sql d.scope hmem texts)

/-- A name in backticks is read back exactly when it has no backtick; the first one in it ends it
for the reader. So it is wherever a build wraps a name, and every table was quoted by force. -/
theorem wrapped_names (name rest : String) (strict : Bool) (calls : List Declaration)
    (operators : OperatorTable) :
    (scanQuoted '`' (quoteName name ++ rest) = some (name, rest) ↔ '`' ∉ name.toList) ∧
    (∀ before after, name = before ++ "`" ++ after → '`' ∉ before.toList →
      scanQuoted '`' (quoteName name ++ rest) = some (before, escape after ++ "`" ++ rest)) ∧
    ((empty strict).proceed calls).TablesQuoted ∧
    ∀ sql, (((empty strict).proceed calls).build operators).1 = .ok sql →
      ∀ (ids : Identifiers) (v : Value), ((empty strict).proceed calls).Forced operators ids v →
        ids.wraps v.asText →
        ∃ before after, sql = before ++ quoteName v.asText ++ after ∧
          (scanQuoted '`' (quoteName v.asText ++ after) = some (v.asText, after) ↔
            '`' ∉ v.asText.toList) := by
  refine ⟨scanQuoted_quoteName_iff name rest, ?_,
    (changes_proceed (empty strict) calls).preserve Change.tablesQuoted (tablesQuoted_empty strict),
    ?_⟩
  · rintro before after rfl hbefore
    exact scanQuoted_quoteName_backtick hbefore after rest
  · intro sql hbuilt ids v hforced hwraps
    obtain ⟨before, after, hplace⟩ := within_of_forced hbuilt hforced hwraps
    exact ⟨before, after, hplace, scanQuoted_quoteName_iff v.asText after⟩

theorem wrapped_names_table :
    let calls : List Declaration :=
      [.statement .select .null [("table", .text "a`b"), ("columns", .text "*")]]
    (((empty false).proceed calls).build .standard).1 = .ok "SELECT *\nFROM `a`b`\n" ∧
      ∃ before after, "SELECT *\nFROM `a`b`\n" = before ++ quoteName "a`b" ++ after ∧
        scanQuoted '`' (quoteName "a`b" ++ after) ≠ some ("a`b", after) := by
  intro calls
  let ids := Identifiers.empty.register "a`b"
  have hbuilt : (((empty false).proceed calls).build .standard).1 =
      .ok "SELECT *\nFROM `a`b`\n" := by decide +kernel
  have hforced : ((empty false).proceed calls).Forced .standard ids (.text "a`b") :=
    .table List.mem_cons_self (.bare (.text "a`b"))
  have hwraps : ids.wraps "a`b" := by decide
  obtain ⟨before, after, hplace, hread⟩ :=
    (wrapped_names "a`b" "" false calls .standard).2.2.2 _ hbuilt ids (.text "a`b") hforced hwraps
  have hbacktick : '`' ∈ "a`b".toList := by decide
  exact ⟨hbuilt, before, after, hplace, fun h => hread.mp h hbacktick⟩

end Draft

end SqlDraft
