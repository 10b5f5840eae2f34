import SqlDraft.Proofs.SameButTables

/-!
A statement and joins declared in either order. A table is quoted when it is declared, with the
names that are known by then; all else is quoted in a build, with all names. So the order of the two
can show in the text of their tables only, and there only if a pair in a name or an alias of one has
a table that no declaration but the other brings.
-/
namespace SqlDraft

namespace Draft

/-- No table of the first declaration is quoted by a name that only the second one brings. -/
def FreeOf (d : Draft) (a b : Declaration) : Prop :=
  TableRef.SettleWithout b.names d.identifiers.names a.tables

instance (d : Draft) (a b : Declaration) : Decidable (d.FreeOf a b) :=
  inferInstanceAs (Decidable (TableRef.SettleWithout _ _ _))

section Swap

variable (d : Draft) (kind : StatementKind) (payload : Value) (fields : List (String × Value))
  (specs : Value)

theorem swap_sameButTables
    (hs : (d.declare (.statement kind payload fields)).error = none)
    (hj : (d.declare (.joins specs)).error = none) :
    let s : Declaration := .statement kind payload fields
    let j : Declaration := .joins specs
    ((d.declare s).draft.declare j).error = none ∧ ((d.declare j).draft.declare s).error = none ∧
      SameButTables (d.FreeOf s j ∧ d.FreeOf j s)
        ((d.declare s).draft.declare j).draft ((d.declare j).draft.declare s).draft := by
  intro s j
  have hsnames : d.identifiers.Adds s.names (d.declare s).draft.identifiers := adds_declare hs
  have hjnames : d.identifiers.Adds j.names (d.declare j).draft.identifiers := adds_declare hj
  obtain ⟨hjerror, hjlater, new, new', hjd, hjs, hnew⟩ :=
    joins_adds (d.FreeOf s j ∧ d.FreeOf j s) (strict_declare d s).symm hsnames specs
      And.right
  obtain ⟨hserror, hslater, hstatement⟩ :=
    declareStatement_adds (d.FreeOf s j ∧ d.FreeOf j s) hjnames kind payload fields
      And.left
  have hjdone : ((d.declare s).draft.declare j).error = none := hjerror.symm.trans hj
  have hsdone : ((d.declare j).draft.declare s).error = none := hserror.symm.trans hs
  refine ⟨hjdone, hsdone, ?_, ?_, ?_, ?_⟩
  · exact hsnames.comm (adds_declare hjdone) hjnames (adds_declare hsdone)
  · rcases hstatement with ⟨-, -, hfailed⟩ | ⟨first, second, hfirst, hsecond, hsame⟩
    · exact absurd hs hfailed
    · have hkept : ((d.declare s).draft.declare j).draft.statement = some first := by
        rw [statement_declare_joins]
        exact hfirst
      rw [hkept]
      exact hsecond ▸ .some hsame
  · have hkept : ((d.declare j).draft.declare s).draft.joins = d.joins ++ new := by
      rw [← hjd]
      exact joins_declareStatement (d.declare j).draft kind payload fields
    have hadded : ((d.declare s).draft.declare j).draft.joins = d.joins ++ new' := by
      rw [hjs]
      exact congrArg (· ++ new') (joins_declareStatement d kind payload fields)
    have hnew' : List.Forall₂ (Join.SameButTable (d.FreeOf s j ∧ d.FreeOf j s)) new' new :=
      hnew.flip.imp fun _ _ => Join.SameButTable.symm
    have hold : List.Forall₂ (Join.SameButTable (d.FreeOf s j ∧ d.FreeOf j s)) d.joins d.joins :=
      List.forall₂_same.mpr fun _ _ => ⟨rfl, fun _ => rfl, rfl⟩
    rw [hkept, hadded]
    exact List.rel_append hold hnew'
  · intro part hpart
    have hspart : s.part ≠ part := hpart.symm
    have hjpart : j.part ≠ part := hpart.symm
    rw [declare_only_of_ne _ hjpart, declare_only_of_ne _ hspart, declare_only_of_ne _ hspart,
      declare_only_of_ne _ hjpart]

theorem declareAll_pair_iff (d d' : Draft) (a b : Declaration) :
    (d.declareAll [a, b]).error = none ∧ (d.declareAll [a, b]).draft = d' ↔
      (d.declare a).error = none ∧ ((d.declare a).draft.declare b).error = none ∧
        ((d.declare a).draft.declare b).draft = d' := by
  rw [← run_iff]
  constructor
  · intro h
    cases h with
    | cons hfirst hrest => exact ⟨hfirst, (run_singleton_iff _ _ b).mp hrest⟩
  · rintro ⟨hfirst, hsecond⟩
    exact .cons hfirst ((run_singleton_iff _ _ b).mpr hsecond)

/-- If both succeed in one order, each of them succeeds alone. -/
theorem swap_done
    (h : (d.declareAll [.statement kind payload fields, .joins specs]).error = none ∨
      (d.declareAll [.joins specs, .statement kind payload fields]).error = none) :
    (d.declare (.statement kind payload fields)).error = none ∧
      (d.declare (.joins specs)).error = none := by
  rcases h with h | h
  · obtain ⟨hs, hj, -⟩ := (declareAll_pair_iff d _ _ _).mp ⟨h, rfl⟩
    have hnames := adds_declare hs
    have hsame := joins_adds False (strict_declare d _).symm hnames specs False.elim
    exact ⟨hs, hsame.1.trans hj⟩
  · obtain ⟨hj, hs, -⟩ := (declareAll_pair_iff d _ _ _).mp ⟨h, rfl⟩
    have hnames := adds_declare hj
    have hsame := declareStatement_adds False hnames kind payload fields False.elim
    exact ⟨hsame.1.trans hs, hj⟩

/-- A statement and joins succeed in either order or in none. Either order leaves the same draft
but for the quotes of their tables, so builds fail alike, and they give the same text if neither
quotes a table by a name that only the other brings. -/
theorem statement_joins_swap
    (h : (d.declareAll [.statement kind payload fields, .joins specs]).error = none ∨
      (d.declareAll [.joins specs, .statement kind payload fields]).error = none) :
    let s : Declaration := .statement kind payload fields
    let j : Declaration := .joins specs
    (d.declareAll [s, j]).error = none ∧ (d.declareAll [j, s]).error = none ∧
      ∀ (later : List Declaration) (operators : OperatorTable),
        let e := (d.declareAll [s, j]).draft.proceed later
        let e' := (d.declareAll [j, s]).draft.proceed later
        SameButTables (d.FreeOf s j ∧ d.FreeOf j s) e e' ∧
        (∀ text force, e.identifiers.quote text force = e'.identifiers.quote text force) ∧
        (∀ fault, (e.build operators).1 = .error fault ↔ (e'.build operators).1 = .error fault) ∧
        (d.FreeOf s j → d.FreeOf j s → (e.build operators).1 = (e'.build operators).1) := by
  intro s j
  obtain ⟨hs, hj⟩ := swap_done d kind payload fields specs h
  obtain ⟨hjdone, hsdone, hsame⟩ := swap_sameButTables d kind payload fields specs hs hj
  obtain ⟨hsj, hsjdraft⟩ := (declareAll_pair_iff d _ s j).mpr ⟨hs, hjdone, rfl⟩
  obtain ⟨hjs, hjsdraft⟩ := (declareAll_pair_iff d _ j s).mpr ⟨hj, hsdone, rfl⟩
  refine ⟨hsj, hjs, fun later operators => ?_⟩
  rw [hsjdraft, hjsdraft]
  have hlater := hsame.proceed later
  refine ⟨hlater, ?_, hlater.build_error_iff operators, ?_⟩
  · intro text force
    rw [Identifiers.quote_congr_of_adds_nil hlater.names]
  · intro hsfree hjfree
    exact hlater.build_eq operators ⟨hsfree, hjfree⟩

end Swap

/-- A table and a join that bring names to one another's conditions, not to their tables. -/
theorem statement_joins_swap_aliased :
    let s : Declaration := .statement .select .null
      [("table", .dict [(.text "db.user", .text "u")]), ("columns", .text "u.id")]
    let j : Declaration := .joins (.dict [(.text "type", .text "left"),
      (.text "table", .dict [(.text "db.order", .text "o")]),
      (.text "conditions", .list [.list [.text "u.id", .text "=", .text "o.user"]])])
    ((empty true).declareAll [s, j]).error = none ∧ (empty true).FreeOf s j ∧
      (empty true).FreeOf j s ∧
      (((empty true).declareAll [s, j]).draft.build .standard).1 =
        (((empty true).declareAll [j, s]).draft.build .standard).1 := by
  intro s j
  have hdone : ((empty true).declareAll [s, j]).error = none := by decide +kernel
  have hsfree : (empty true).FreeOf s j := by decide
  have hjfree : (empty true).FreeOf j s := by decide
  obtain ⟨-, -, hswap⟩ := statement_joins_swap (empty true) .select .null
    [("table", .dict [(.text "db.user", .text "u")]), ("columns", .text "u.id")]
    (.dict [(.text "type", .text "left"),
      (.text "table", .dict [(.text "db.order", .text "o")]),
      (.text "conditions", .list [.list [.text "u.id", .text "=", .text "o.user"]])]) (Or.inl hdone)
  exact ⟨hdone, hsfree, hjfree, (hswap [] .standard).2.2.2 hsfree hjfree⟩

/-- A pair in the name of a joined table is one only if its table was declared before. -/
theorem statement_joins_swap_qualified :
    let s : Declaration := .statement .select .null
      [("table", .text "a"), ("columns", .list [.text "*"])]
    let j : Declaration := .joins (.dict [(.text "type", .text "left"),
      (.text "table", .text "a.b"), (.text "conditions", .list [.text "1 = 1"])])
    ((empty false).declareAll [s, j]).error = none ∧
      ((empty false).declareAll [j, s]).error = none ∧
      (((empty false).declareAll [s, j]).draft.build .standard).1 =
        .ok "SELECT *\nFROM `a`\nLEFT JOIN `a`.`b`\nON 1 = 1\n" ∧
      (((empty false).declareAll [j, s]).draft.build .standard).1 =
        .ok "SELECT *\nFROM `a`\nLEFT JOIN `a.b`\nON 1 = 1\n" ∧
      (((empty false).declareAll [s, j]).draft.build .standard).1 ≠
        (((empty false).declareAll [j, s]).draft.build .standard).1 := by
  intro s j
  have hsj : (((empty false).declareAll [s, j]).draft.build .standard).1 =
      .ok "SELECT *\nFROM `a`\nLEFT JOIN `a`.`b`\nON 1 = 1\n" := by decide +kernel
  have hjs : (((empty false).declareAll [j, s]).draft.build .standard).1 =
      .ok "SELECT *\nFROM `a`\nLEFT JOIN `a.b`\nON 1 = 1\n" := by decide +kernel
  refine ⟨by decide +kernel, by decide +kernel, hsj, hjs, ?_⟩
  rw [hsj, hjs]
  simp

end Draft

end SqlDraft
