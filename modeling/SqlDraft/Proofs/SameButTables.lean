import SqlDraft.Proofs.Naming

/-!
Drafts that differ in the quotes of their tables and the order of their names. Declarations do alike
on them, whether they fail or not, and add the same to both. Builds fail alike too, and once the
tables are the same, they give the same text.
-/
namespace SqlDraft

/-- Statements but for their tables, and with these where `agreed` holds. -/
inductive Statement.SameButTable (agreed : Prop) : Statement → Statement → Prop where
  | select {t t' : TableRef} (h : agreed → t = t') (columns : List Value) :
      SameButTable agreed (.select t columns) (.select t' columns)
  | insert {t t' : TableRef} (h : agreed → t = t') (columns : List (Value × Value))
      (duplicates : List Value) :
      SameButTable agreed (.insert t columns duplicates) (.insert t' columns duplicates)
  | update {t t' : TableRef} (h : agreed → t = t') (columns : List (Value × Value)) :
      SameButTable agreed (.update t columns) (.update t' columns)
  | delete {t t' : TableRef} (h : agreed → t = t') : SameButTable agreed (.delete t) (.delete t')

theorem Statement.SameButTable.eq {agreed : Prop} {s s' : Statement}
    (h : SameButTable agreed s s') (hagreed : agreed) : s = s' := by
  cases h with
  | select h columns => rw [h hagreed]
  | insert h columns duplicates => rw [h hagreed]
  | update h columns => rw [h hagreed]
  | delete h => rw [h hagreed]

/-- Joins but for their tables, and with these where `agreed` holds. -/
structure Join.SameButTable (agreed : Prop) (join join' : Join) : Prop where
  type : join.type = join'.type
  table : agreed → join.table = join'.table
  conditions : join.conditions = join'.conditions

theorem Join.SameButTable.eq {agreed : Prop} {join join' : Join}
    (h : SameButTable agreed join join') (hagreed : agreed) : join = join' := by
  obtain ⟨htype, htable, hconditions⟩ := h
  cases join
  cases join'
  simp_all

theorem Join.SameButTable.symm {agreed : Prop} {join join' : Join}
    (h : SameButTable agreed join join') : SameButTable agreed join' join :=
  ⟨h.type.symm, fun hagreed => (h.table hagreed).symm, h.conditions.symm⟩

/-- Whether the columns can be read does not depend on the table. -/
theorem Head.statement_sameButTable {agreed : Prop} (head : Head) (kind : StatementKind)
    {t t' : TableRef} (h : agreed → t = t') :
    (∃ e, head.statement kind t = .error e ∧ head.statement kind t' = .error e) ∨
    ∃ s s', head.statement kind t = .ok s ∧ head.statement kind t' = .ok s' ∧
      Statement.SameButTable agreed s s' := by
  cases kind with
  | select => exact Or.inr ⟨_, _, rfl, rfl, .select h _⟩
  | delete => exact Or.inr ⟨_, _, rfl, rfl, .delete h⟩
  | insert =>
    dsimp only [statement]
    cases assignments StatementKind.insert.name head.columns with
    | error e => exact Or.inl ⟨e, rfl, rfl⟩
    | ok columns => exact Or.inr ⟨_, _, rfl, rfl, .insert h columns _⟩
  | update =>
    dsimp only [statement]
    cases assignments StatementKind.update.name head.columns with
    | error e => exact Or.inl ⟨e, rfl, rfl⟩
    | ok columns => exact Or.inr ⟨_, _, rfl, rfl, .update h columns⟩

namespace Draft

open TableRef (SettleWithout)

section Joins

variable {agreed : Prop} {d e : Draft} {added : List String}

theorem strict_declareJoin (d : Draft) (spec : Value) :
    (d.declareJoin spec).draft.strict = d.strict := by
  obtain ⟨ids, new, hdraft⟩ := draft_declareJoin d spec
  rw [hdraft]

theorem declareJoin_adds (hstrict : d.strict = e.strict)
    (hnames : d.identifiers.Adds added e.identifiers) (spec : Value)
    (hsettled : agreed → SettleWithout added d.identifiers.names (joinTable? spec).toList) :
    (d.declareJoin spec).error = (e.declareJoin spec).error ∧
      (d.declareJoin spec).draft.identifiers.Adds added (e.declareJoin spec).draft.identifiers ∧
      ∃ new new', (d.declareJoin spec).draft.joins = d.joins ++ new ∧
        (e.declareJoin spec).draft.joins = e.joins ++ new' ∧
        List.Forall₂ (Join.SameButTable agreed) new new' := by
  have hrefused : ∃ new new' : List Join, d.joins = d.joins ++ new ∧ e.joins = e.joins ++ new' ∧
      List.Forall₂ (Join.SameButTable agreed) new new' :=
    ⟨[], [], (List.append_nil _).symm, (List.append_nil _).symm, .nil⟩
  unfold declareJoin
  cases hspec : readJoin spec with
  | error fault => exact ⟨rfl, hnames, hrefused⟩
  | ok fields =>
    obtain ⟨type, table, conditions⟩ := fields
    have htable : joinTable? spec = some table := by rw [joinTable?, hspec]
    rw [htable] at hsettled
    have hbrings := TableRef.declare_brings hnames "joins" table
    rcases hd : TableRef.declare d.identifiers "joins" table with ⟨after, declared⟩
    rcases he : TableRef.declare e.identifiers "joins" table with ⟨after', declared'⟩
    rw [hd, he] at hbrings
    obtain ⟨hbrought, hafter, ⟨fault, rfl, rfl⟩ | ⟨t, t', rfl, rfl, hquoted⟩⟩ := hbrings
    · simp only [hd, he]
      exact ⟨rfl, hafter, hrefused⟩
    · have hsame : agreed → t = t' := fun hagreed =>
        hquoted ((hsettled hagreed).head hbrought)
      simp only [hd, he, withConditions, hstrict]
      cases (ConditionList.ofClause e.strict conditions).error with
      | some fault => exact ⟨rfl, hafter, hrefused⟩
      | none =>
        exact ⟨rfl, hafter, _, _, rfl, rfl, .cons ⟨rfl, hsame, rfl⟩ .nil⟩

theorem declareEach_adds (hstrict : d.strict = e.strict)
    (hnames : d.identifiers.Adds added e.identifiers) (specs : List Value)
    (hsettled : agreed → SettleWithout added d.identifiers.names (specs.filterMap joinTable?)) :
    (d.declareEach specs).error = (e.declareEach specs).error ∧
      (d.declareEach specs).draft.identifiers.Adds added (e.declareEach specs).draft.identifiers ∧
      ∃ new new', (d.declareEach specs).draft.joins = d.joins ++ new ∧
        (e.declareEach specs).draft.joins = e.joins ++ new' ∧
        List.Forall₂ (Join.SameButTable agreed) new new' := by
  induction specs generalizing d e with
  | nil =>
    exact ⟨rfl, hnames, [], [], (List.append_nil _).symm, (List.append_nil _).symm, .nil⟩
  | cons spec rest ih =>
    have hfront : agreed → SettleWithout added d.identifiers.names (joinTable? spec).toList := by
      intro hagreed
      have hall := hsettled hagreed
      rw [List.filterMap_cons] at hall
      cases htable : joinTable? spec with
      | none => trivial
      | some table =>
        rw [htable] at hall
        exact ⟨hall.1, trivial⟩
    obtain ⟨herror, hfirst, new, new', hd, he, hnew⟩ :=
      declareJoin_adds hstrict hnames spec hfront
    simp only [declareEach, ← herror]
    cases hdone : (d.declareJoin spec).error with
    | some fault => exact ⟨herror, hfirst, new, new', hd, he, hnew⟩
    | none =>
      obtain ⟨table, htable, hbrought⟩ := adds_declareJoin hdone
      have hlater : agreed → SettleWithout added (d.declareJoin spec).draft.identifiers.names
          (rest.filterMap joinTable?) := by
        intro hagreed
        have hall := hsettled hagreed
        rw [List.filterMap_cons_some htable] at hall
        exact hall.tail hbrought
      have hstrict' : (d.declareJoin spec).draft.strict = (e.declareJoin spec).draft.strict := by
        rw [strict_declareJoin, strict_declareJoin, hstrict]
      obtain ⟨herror', hnames', more, more', hd', he', hmore⟩ := ih hstrict' hfirst hlater
      refine ⟨herror', hnames', new ++ more, new' ++ more', ?_, ?_, List.rel_append hnew hmore⟩
      · rw [hd', hd, List.append_assoc]
      · rw [he', he, List.append_assoc]

theorem joins_adds (agreed : Prop) (hstrict : d.strict = e.strict)
    (hnames : d.identifiers.Adds added e.identifiers) (specs : Value)
    (hsettled : agreed → SettleWithout added d.identifiers.names (Declaration.joins specs).tables) :
    (d.declare (.joins specs)).error = (e.declare (.joins specs)).error ∧
      (d.declare (.joins specs)).draft.identifiers.Adds added
        (e.declare (.joins specs)).draft.identifiers ∧
      ∃ new new', (d.declare (.joins specs)).draft.joins = d.joins ++ new ∧
        (e.declare (.joins specs)).draft.joins = e.joins ++ new' ∧
        List.Forall₂ (Join.SameButTable agreed) new new' := by
  simp only [declare, declareJoins]
  cases hspecs : joinSpecs? specs with
  | none =>
    exact ⟨rfl, hnames, [], [], (List.append_nil _).symm, (List.append_nil _).symm, .nil⟩
  | some items =>
    simp only [Declaration.tables, hspecs, Option.getD_some] at hsettled
    exact declareEach_adds hstrict hnames items hsettled

theorem statement_declare_joins (d : Draft) (specs : Value) :
    (d.declare (.joins specs)).draft.statement = d.statement := by
  simp only [declare, declareJoins]
  cases joinSpecs? specs with
  | none => rfl
  | some items =>
    obtain ⟨ids, new, hdraft⟩ := draft_declareEach d items
    simp only [hdraft]

end Joins

section Statements

variable {agreed : Prop} {d e : Draft} {added : List String}

theorem joins_declareStatement (d : Draft) (kind : StatementKind) (payload : Value)
    (fields : List (String × Value)) :
    (d.declareStatement kind payload fields).draft.joins = d.joins := by
  obtain ⟨ids, s, hdraft⟩ := draft_declareStatement d kind payload fields
  rw [hdraft]

theorem declareStatement_adds (agreed : Prop) (hnames : d.identifiers.Adds added e.identifiers)
    (kind : StatementKind) (payload : Value) (fields : List (String × Value))
    (hsettled : agreed →
      SettleWithout added d.identifiers.names (Declaration.statement kind payload fields).tables) :
    (d.declareStatement kind payload fields).error =
        (e.declareStatement kind payload fields).error ∧
      (d.declareStatement kind payload fields).draft.identifiers.Adds added
        (e.declareStatement kind payload fields).draft.identifiers ∧
      ((d.declareStatement kind payload fields).draft.statement = d.statement ∧
          (e.declareStatement kind payload fields).draft.statement = e.statement ∧
          (d.declareStatement kind payload fields).error ≠ none ∨
        ∃ s s', (d.declareStatement kind payload fields).draft.statement = some s ∧
          (e.declareStatement kind payload fields).draft.statement = some s' ∧
          Statement.SameButTable agreed s s') := by
  unfold declareStatement
  cases hhead : Head.read kind payload fields with
  | error fault => exact ⟨rfl, hnames, Or.inl ⟨rfl, rfl, Option.some_ne_none fault⟩⟩
  | ok head =>
    have hbrings := TableRef.declare_brings hnames kind.name head.table
    rcases hd : TableRef.declare d.identifiers kind.name head.table with ⟨after, declared⟩
    rcases he : TableRef.declare e.identifiers kind.name head.table with ⟨after', declared'⟩
    rw [hd, he] at hbrings
    obtain ⟨hbrought, hafter, ⟨fault, rfl, rfl⟩ | ⟨t, t', rfl, rfl, hquoted⟩⟩ := hbrings
    · simp only [hd, he]
      exact ⟨rfl, hafter, Or.inl ⟨rfl, rfl, Option.some_ne_none fault⟩⟩
    · have hsame : agreed → t = t' := by
        intro hagreed
        have hone := hsettled hagreed
        simp only [Declaration.tables, hhead] at hone
        exact hquoted (hone.head hbrought)
      simp only [hd, he, bind, Except.bind]
      rcases Head.statement_sameButTable head kind hsame with
        ⟨fault, hs, hs'⟩ | ⟨s, s', hs, hs', hstatement⟩
      · simp only [hs, hs']
        exact ⟨rfl, hafter, Or.inl ⟨rfl, rfl, Option.some_ne_none fault⟩⟩
      · simp only [hs, hs']
        exact ⟨rfl, hafter, Or.inr ⟨s, s', rfl, rfl, hstatement⟩⟩

end Statements

/-- Drafts with the same names in some order, that differ in tables at most, and not in these
where `agreed` holds. -/
structure SameButTables (agreed : Prop) (d e : Draft) : Prop where
  names : d.identifiers.Adds [] e.identifiers
  statement : Option.Rel (Statement.SameButTable agreed) d.statement e.statement
  joins : List.Forall₂ (Join.SameButTable agreed) d.joins e.joins
  rest : ∀ part ≠ Part.tables, d.only part = e.only part

namespace SameButTables

variable {agreed : Prop} {d e : Draft}

theorem strict (h : SameButTables agreed d e) : d.strict = e.strict := by
  rw [← strict_only d .limit, ← strict_only e .limit, h.rest .limit (by decide)]

/-- What is declared of other parts is the same on drafts that differ in tables. -/
theorem declare_other (h : SameButTables agreed d e) {a : Declaration} (ha : a.part ≠ .tables) :
    (d.declare a).error = (e.declare a).error ∧
      SameButTables agreed (d.declare a).draft (e.declare a).draft := by
  have hown : (d.declare a).only a.part = (e.declare a).only a.part := by
    rw [← declare_only, ← declare_only, h.rest a.part ha]
  have herror := congrArg (fun o : Outcome => o.error) hown
  have hdraft := congrArg (fun o : Outcome => o.draft) hown
  obtain ⟨hids, hstatement, hjoins⟩ := tables_declare d ha
  obtain ⟨hids', hstatement', hjoins'⟩ := tables_declare e ha
  refine ⟨herror, ?_, ?_, ?_, ?_⟩
  · rw [hids, hids']
    exact h.names
  · rw [hstatement, hstatement']
    exact h.statement
  · rw [hjoins, hjoins']
    exact h.joins
  · intro part hpart
    by_cases hsame : a.part = part
    · exact hsame ▸ hdraft
    · rw [declare_only_of_ne d hsame, declare_only_of_ne e hsame, h.rest part hpart]

/-- A declaration does alike on drafts that differ in tables. What it adds itself is the same. -/
theorem declare (h : SameButTables agreed d e) (a : Declaration) :
    (d.declare a).error = (e.declare a).error ∧
      SameButTables agreed (d.declare a).draft (e.declare a).draft := by
  by_cases htables : a.part = .tables
  · have hrest : ∀ part ≠ Part.tables,
        (d.declare a).draft.only part = (e.declare a).draft.only part := by
      intro part hpart
      have hne : a.part ≠ part := htables ▸ hpart.symm
      rw [declare_only_of_ne d hne, declare_only_of_ne e hne, h.rest part hpart]
    cases a with
    | statement kind payload fields =>
      obtain ⟨herror, hnames, hstatement⟩ := declareStatement_adds agreed h.names kind
        payload fields fun _ => .nil _ _
      have hjoins : List.Forall₂ (Join.SameButTable agreed)
          (d.declareStatement kind payload fields).draft.joins
          (e.declareStatement kind payload fields).draft.joins := by
        rw [joins_declareStatement, joins_declareStatement]
        exact h.joins
      refine ⟨herror, hnames, ?_, hjoins, hrest⟩
      rcases hstatement with ⟨hd, he, -⟩ | ⟨s, s', hd, he, hs⟩
      · rw [Draft.declare, Draft.declare, hd, he]
        exact h.statement
      · rw [Draft.declare, Draft.declare, hd, he]
        exact .some hs
    | joins specs =>
      obtain ⟨herror, hnames, new, new', hd, he, hnew⟩ := joins_adds agreed h.strict
        h.names specs fun _ => .nil _ _
      refine ⟨herror, hnames, ?_, ?_, hrest⟩
      · rw [statement_declare_joins, statement_declare_joins]
        exact h.statement
      · rw [hd, he]
        exact List.rel_append h.joins hnew
    | _ => cases htables
  · exact h.declare_other htables

theorem proceed (h : SameButTables agreed d e) (calls : List Declaration) :
    SameButTables agreed (d.proceed calls) (e.proceed calls) := by
  induction calls generalizing d e with
  | nil => exact h
  | cons a rest ih => exact ih (h.declare a).2

theorem others (h : SameButTables agreed d e) :
    d.filter = e.filter ∧ d.having = e.having ∧ d.grouping = e.grouping ∧
      d.ordering = e.ordering ∧ d.limit = e.limit ∧ d.params = e.params := by
  have hfilter := congrArg (fun d : Draft => d.filter) (h.rest .filter (by decide))
  have hhaving := congrArg (fun d : Draft => d.having) (h.rest .having (by decide))
  have hgrouping := congrArg (fun d : Draft => d.grouping) (h.rest .grouping (by decide))
  have hordering := congrArg (fun d : Draft => d.ordering) (h.rest .ordering (by decide))
  have hlimit := congrArg (fun d : Draft => d.limit) (h.rest .limit (by decide))
  have hparams := congrArg (fun d : Draft => d.params) (h.rest .params (by decide))
  exact ⟨hfilter, hhaving, hgrouping, hordering, hlimit, hparams⟩

theorem scope_eq (h : SameButTables agreed d e) :
    e.scope = { d.scope with identifiers := e.identifiers } := by
  obtain ⟨-, -, -, -, -, hparams⟩ := h.others
  simp only [scope, h.strict, hparams]

theorem statement_eq (h : SameButTables agreed d e) (hagreed : agreed) :
    d.statement = e.statement := by
  have hstatement := h.statement
  generalize d.statement = s at hstatement
  generalize e.statement = s' at hstatement
  cases hstatement with
  | some hs => rw [hs.eq hagreed]
  | none => rfl

theorem joins_eq (h : SameButTables agreed d e) (hagreed : agreed) : d.joins = e.joins := by
  have hsame : List.Forall₂ (· = ·) d.joins e.joins :=
    h.joins.imp fun _ _ hjoin => hjoin.eq hagreed
  rwa [List.forall₂_eq_eq_eq] at hsame

end SameButTables

end Draft

section Runs

variable (scope : Scope) {ids : Identifiers} (h : scope.identifiers.Adds [] ids)

include h

theorem Operand.identifier_reordered :
    identifier scope = identifier { scope with identifiers := ids } := by
  funext v force
  exact congrFun (congrFun (Identifiers.quote_congr_of_adds_nil h) v.asText) force

theorem Operand.resolve_reordered :
    resolve scope = resolve { scope with identifiers := ids } := by
  funext token force
  unfold resolve positional named renderIdentifier
  rw [identifier_reordered scope h]

theorem Piece.run_reordered (piece : Piece) :
    piece.run scope = piece.run { scope with identifiers := ids } := by
  cases piece <;>
    simp only [run, Operand.identifier_reordered scope h, Operand.resolve_reordered scope h]

/-- The order of the names plays no part in a build. -/
theorem Layout.run_reordered (l : Layout) :
    l.run scope = Layout.run { scope with identifiers := ids } l := by
  induction l with
  | nil => rfl
  | cons piece rest ih => rw [run_cons, run_cons, ih, piece.run_reordered scope h]

end Runs

def Piece.veil : Piece → Piece
  | sql _ => sql ""
  | piece => piece

/-- Two results of one progress: the same error, or two texts. -/
inductive SameVerdict : Except Error String × Progress → Except Error String × Progress → Prop where
  | error (e : Error) (p : Progress) : SameVerdict (.error e, p) (.error e, p)
  | texts (text text' : String) (p : Progress) : SameVerdict (.ok text, p) (.ok text', p)

namespace SameVerdict

theorem refl : (r : Except Error String × Progress) → SameVerdict r r
  | (.error e, p) => .error e p
  | (.ok text, p) => .texts text text p

theorem error_iff {r r' : Except Error String × Progress} (h : SameVerdict r r') (e : Error) :
    r.1 = .error e ↔ r'.1 = .error e := by
  cases h with
  | error fault p => exact Iff.rfl
  | texts text text' p =>
    constructor
    · intro h
      cases h
    · intro h
      cases h

end SameVerdict

/-- SQL that stands in a layout as it is has no part in whether the layout fails. -/
theorem Layout.run_veil (scope : Scope) (l : Layout) (p : Progress) :
    SameVerdict ((l.run scope).exec p) ((Layout.run scope (l.map Piece.veil)).exec p) := by
  induction l generalizing p with
  | nil => exact .refl _
  | cons piece rest ih =>
    have hpiece : SameVerdict ((piece.run scope).exec p) ((piece.veil.run scope).exec p) := by
      cases piece with
      | sql text => exact .texts text "" p
      | _ => exact .refl _
    rw [List.map_cons, run_cons, run_cons, Render.exec_bind, Render.exec_bind]
    generalize (piece.run scope).exec p = r at hpiece ⊢
    generalize (piece.veil.run scope).exec p = r' at hpiece ⊢
    cases hpiece with
    | error fault q => exact .error fault q
    | texts first first' q =>
      have hrest := ih q
      simp only [Render.exec_bind]
      generalize (Layout.run scope rest).exec q = r at hrest ⊢
      generalize (Layout.run scope (rest.map Piece.veil)).exec q = r' at hrest ⊢
      cases hrest with
      | error fault q => exact .error fault q
      | texts others others' q => exact .texts _ _ q

namespace Draft.SameButTables

variable {agreed : Prop} {d e : Draft} (operators : OperatorTable)

theorem layout_eq (h : SameButTables agreed d e) (hagreed : agreed) :
    d.layout operators = e.layout operators := by
  obtain ⟨hfilter, hhaving, hgrouping, hordering, hlimit, -⟩ := h.others
  unfold layout
  rw [h.statement_eq hagreed, h.joins_eq hagreed, hfilter, hhaving, hgrouping, hordering, hlimit]

theorem joins_veil {joins joins' : List Join}
    (h : List.Forall₂ (Join.SameButTable agreed) joins joins') :
    (joins.flatMap (Join.layout operators)).map Piece.veil =
      (joins'.flatMap (Join.layout operators)).map Piece.veil := by
  induction h with
  | nil => rfl
  | cons hjoin _ ih =>
    simp only [List.flatMap_cons, List.map_append, ih, Join.layout, List.map_cons, Piece.veil,
      hjoin.type, hjoin.conditions]

theorem statement_veil {s s' : Statement} (hs : Statement.SameButTable agreed s s')
    {joins joins' : Layout} (hjoins : joins.map Piece.veil = joins'.map Piece.veil) :
    (s.layout joins).map Piece.veil = (s'.layout joins').map Piece.veil := by
  cases hs <;> simp [Statement.layout, Piece.veil, hjoins]

theorem layout_veil (h : SameButTables agreed d e) :
    (d.layout operators).map Piece.veil = (e.layout operators).map Piece.veil := by
  obtain ⟨hfilter, hhaving, hgrouping, hordering, hlimit, -⟩ := h.others
  have hstatement := h.statement
  unfold layout
  rw [hfilter, hhaving, hgrouping, hordering, hlimit]
  generalize d.statement = s at hstatement
  generalize e.statement = s' at hstatement
  cases hstatement with
  | none => rfl
  | some hs =>
    have hhead := statement_veil hs (joins_veil operators h.joins)
    simp only [List.map_append, hhead]

/-- What a draft fails with does not depend on its tables. -/
theorem build_error_iff (h : SameButTables agreed d e) (fault : Error) :
    (d.build operators).1 = .error fault ↔ (e.build operators).1 = .error fault := by
  have hd := (d.layout operators).run_veil d.scope .start
  have he := (e.layout operators).run_veil d.scope .start
  rw [build_fst, build_fst, h.scope_eq, ← (e.layout operators).run_reordered d.scope h.names,
    hd.error_iff, he.error_iff, h.layout_veil operators]

theorem build_eq (h : SameButTables agreed d e) (hagreed : agreed) :
    (d.build operators).1 = (e.build operators).1 := by
  rw [build_fst, build_fst, h.scope_eq, ← (e.layout operators).run_reordered d.scope h.names,
    h.layout_eq operators hagreed]

end Draft.SameButTables

end SqlDraft
