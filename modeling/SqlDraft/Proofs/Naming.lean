import SqlDraft.Proofs.Interleaving

/-!
The names that tables bring. Quoting asks for the qualifiers of a text and for no other name, so a
table is quoted alike on two sets of names if these agree on its qualifiers. A declaration brings
the names of its tables one after the other, and each table is quoted with its own names and those
before it.
-/
namespace SqlDraft

namespace Segment

/-- No alias is a pair. -/
theorem AliasScan.isQuoted_run (ids ids' : Identifiers) (state : AliasScan) (cs : List Char) :
    ∀ s ∈ state.run cs, s.isQuoted ids = s.isQuoted ids' := by
  induction cs generalizing state with
  | nil => cases state <;> simp [run, finish, isQuoted]
  | cons x rest ih =>
    have hstep : ∀ s ∈ (state.step x).1, s.isQuoted ids = s.isQuoted ids' := by
      cases state <;> simp only [step] <;> split <;> simp [pass, isQuoted]
    intro s hs
    rw [run, List.mem_append] at hs
    exact hs.elim (hstep s) (ih _ s)

variable {ids ids' : Identifiers}

theorem render_congr {s : Segment} (h : s.isQuoted ids = s.isQuoted ids') :
    s.render ids = s.render ids' := by
  unfold render
  rw [h]

theorem flatMap_render_congr {l : List Segment}
    (h : ∀ s ∈ l, s.isQuoted ids = s.isQuoted ids') :
    l.flatMap (render ids) = l.flatMap (render ids') ∧
      l.any (isQuoted ids) = l.any (isQuoted ids') := by
  induction l with
  | nil => exact ⟨rfl, rfl⟩
  | cons s rest ih =>
    obtain ⟨hrender, hany⟩ := ih fun t ht => h t (List.mem_cons_of_mem s ht)
    have hs := h s List.mem_cons_self
    simp only [List.flatMap_cons, List.any_cons, render_congr hs, hs, hrender, hany, and_self]

def qualifier? : Segment → Option String
  | pair table _ => some (String.ofList table)
  | _ => none

end Segment

namespace Identifiers

/-- The names with some others. -/
def Adds (ids : Identifiers) (names : List String) (after : Identifiers) : Prop :=
  ∀ x, x ∈ after.names ↔ x ∈ ids.names ∨ x ∈ names

/-- The words that stand for tables in the pairs of a text. -/
def qualifiers (text : String) : List String :=
  (Segment.pairs text.toList).filterMap Segment.qualifier?

/-- Quoting asks for no name but the qualifiers of the text. -/
theorem quote_congr {ids ids' : Identifiers} {text : String}
    (h : ∀ w ∈ qualifiers text, w ∈ ids.names ↔ w ∈ ids'.names) (force : Bool) :
    ids.quote text force = ids'.quote text force := by
  have hpairs : ∀ s ∈ Segment.pairs text.toList, s.isQuoted ids = s.isQuoted ids' := by
    intro s hs
    cases s with
    | pair table column =>
      have hw : String.ofList table ∈ qualifiers text := List.mem_filterMap.mpr ⟨_, hs, rfl⟩
      simp only [Segment.isQuoted, contains, h _ hw]
    | _ => rfl
  obtain ⟨hinner, hany⟩ := Segment.flatMap_render_congr hpairs
  obtain ⟨houter, hany'⟩ := Segment.flatMap_render_congr
    (Segment.AliasScan.isQuoted_run ids ids' (.outside false)
      ((Segment.pairs text.toList).flatMap (Segment.render ids')))
  have hwithin : ids.quoteWithin text = ids'.quoteWithin text := by
    simp only [quoteWithin, Segment.aliases, hinner, hany, houter, hany']
  simp only [quote, hwithin]

theorem quote_congr_of_adds_nil {ids ids' : Identifiers} (h : ids.Adds [] ids') :
    ids.quote = ids'.quote := by
  funext text force
  exact quote_congr (fun w _ => by simpa using (h w).symm) force

theorem Adds.refl (ids : Identifiers) : ids.Adds [] ids := by
  intro x
  simp

theorem adds_register (ids : Identifiers) (name : String) :
    ids.Adds [name] (ids.register name) := by
  intro x
  rw [mem_register, List.mem_singleton]

theorem Adds.register {ids ids' : Identifiers} {added : List String} (h : ids.Adds added ids')
    (name : String) : (ids.register name).Adds added (ids'.register name) := by
  intro x
  rw [mem_register, mem_register, h x]
  tauto

theorem Adds.trans {ids ids' ids'' : Identifiers} {l m : List String} (h : ids.Adds l ids')
    (h' : ids'.Adds m ids'') : ids.Adds (l ++ m) ids'' := by
  intro x
  rw [h' x, h x, List.mem_append, or_assoc]

/-- Two additions may change places. -/
theorem Adds.comm {ids idsL idsM idsLM idsML : Identifiers} {l m : List String}
    (hl : ids.Adds l idsL) (hlm : idsL.Adds m idsLM) (hm : ids.Adds m idsM)
    (hml : idsM.Adds l idsML) : idsLM.Adds [] idsML := by
  intro x
  rw [hml x, hm x, hlm x, hl x]
  simp only [List.not_mem_nil, or_false]
  tauto

end Identifiers

namespace TableRef

/-- The names that a table brings: its own and its alias, up to one that cannot be written. -/
def names : Value → List String
  | .dict [] => []
  | .dict ((name, other) :: _) =>
    match name.write with
    | .error _ => []
    | .ok nameText => nameText :: other.write.toOption.toList
  | v => v.write.toOption.toList

def qualifiers (table : Value) : List String := (names table).flatMap Identifiers.qualifiers

theorem quote_names {after after' : Identifiers} {added : List String}
    (h : after.Adds added after') {spec : Value}
    (hknown : ∀ w ∈ qualifiers spec, w ∈ added → w ∈ after.names) {text : String}
    (htext : text ∈ names spec) : after.quote text true = after'.quote text true := by
  apply Identifiers.quote_congr
  intro w hw
  have hqualifier : w ∈ qualifiers spec := List.mem_flatMap.mpr ⟨text, htext, hw⟩
  rw [h w]
  exact ⟨Or.inl, fun hor => hor.elim id (hknown w hqualifier)⟩

/-- What a table brings on two sets of names, one of which has some others. On both it fails alike.
It is quoted alike if each of its qualifiers that is known to one set is known to the other. -/
structure Brings (added : List String) (ids : Identifiers) (spec : Value)
    (r r' : Identifiers × Except Error TableRef) : Prop where
  names : ids.Adds (names spec) r.1
  others : r.1.Adds added r'.1
  table : (∃ e, r.2 = .error e ∧ r'.2 = .error e) ∨ ∃ t t', r.2 = .ok t ∧ r'.2 = .ok t' ∧
    ((∀ w ∈ qualifiers spec, w ∈ added → w ∈ r.1.names) → t = t')

theorem brings_bare {ids ids' : Identifiers} {added : List String} (h : ids.Adds added ids')
    {clause : String} {v : Value} (hv : ∀ entries, v ≠ .dict entries) :
    Brings added ids v (declare ids clause v) (declare ids' clause v) := by
  have hnames : names v = v.write.toOption.toList := by
    cases v with
    | dict entries => exact absurd rfl (hv entries)
    | _ => rfl
  rw [declare_bare _ _ hv, declare_bare _ _ hv]
  cases hwrite : v.write with
  | error fault =>
    rw [hwrite] at hnames
    exact ⟨hnames ▸ .refl ids, h, Or.inl ⟨_, rfl, rfl⟩⟩
  | ok text =>
    rw [hwrite] at hnames
    have hmem : text ∈ names v := hnames ▸ List.mem_singleton_self text
    refine ⟨hnames ▸ ids.adds_register text, h.register text, Or.inr ⟨_, _, rfl, rfl, ?_⟩⟩
    intro hknown
    rw [quote_names (h.register text) hknown hmem]

theorem brings_aliased {ids ids' : Identifiers} {added : List String} (h : ids.Adds added ids')
    {clause : String} (name other : Value) (rest : List (Value × Value)) :
    Brings added ids (.dict ((name, other) :: rest))
      (declare ids clause (.dict ((name, other) :: rest)))
      (declare ids' clause (.dict ((name, other) :: rest))) := by
  have hnames : names (.dict ((name, other) :: rest)) = match name.write with
      | .error _ => []
      | .ok nameText => nameText :: other.write.toOption.toList := rfl
  cases hname : name.write with
  | error fault =>
    rw [hname] at hnames
    simp only [declare, hname]
    exact ⟨hnames ▸ .refl ids, h, Or.inl ⟨_, rfl, rfl⟩⟩
  | ok nameText =>
    rw [hname] at hnames
    have hafter := h.register nameText
    have hown := ids.adds_register nameText
    cases hother : other.write with
    | error fault =>
      rw [hother] at hnames
      simp only [declare, hname, hother]
      exact ⟨hnames ▸ hown, hafter, Or.inl ⟨_, rfl, rfl⟩⟩
    | ok otherText =>
      rw [hother] at hnames
      simp only [declare, hname, hother]
      have hlater := hafter.register otherText
      refine ⟨hnames ▸ hown.trans (Identifiers.adds_register _ otherText), hlater,
        Or.inr ⟨_, _, rfl, rfl, ?_⟩⟩
      intro hknown
      have hmem : nameText ∈ names (.dict ((name, other) :: rest)) :=
        hnames ▸ List.mem_cons_self
      have hmem' : otherText ∈ names (.dict ((name, other) :: rest)) :=
        hnames ▸ List.mem_cons_of_mem nameText (List.mem_singleton_self otherText)
      rw [quote_names hlater hknown hmem, quote_names hlater hknown hmem']

theorem declare_brings {ids ids' : Identifiers} {added : List String} (h : ids.Adds added ids')
    (clause : String) (spec : Value) :
    Brings added ids spec (declare ids clause spec) (declare ids' clause spec) := by
  cases spec with
  | dict entries =>
    cases entries with
    | nil => exact ⟨.refl ids, h, Or.inl ⟨_, rfl, rfl⟩⟩
    | cons entry rest => exact brings_aliased h entry.1 entry.2 rest
  | _ => exact brings_bare h nofun

theorem adds_of_declare {ids after : Identifiers} {clause : String} {spec : Value}
    {declared : Except Error TableRef} (h : declare ids clause spec = (after, declared)) :
    ids.Adds (names spec) after := by
  have hbrought := (declare_brings (.refl ids) clause spec).names
  rwa [h] at hbrought

end TableRef

/-- The table that a join names. -/
def Draft.joinTable? (spec : Value) : Option Value :=
  match readJoin spec with
  | .ok (_, table, _) => some table
  | .error _ => none

/-- The tables that a declaration names, one after the other. -/
def Declaration.tables : Declaration → List Value
  | statement kind payload fields =>
    match Head.read kind payload fields with
    | .ok head => [head.table]
    | .error _ => []
  | joins specs => ((Draft.joinSpecs? specs).getD []).filterMap Draft.joinTable?
  | _ => []

def Declaration.names (a : Declaration) : List String := a.tables.flatMap TableRef.names

/-- Every qualifier of a table that is among the added names is known without them, by the time
the table is quoted. -/
def TableRef.SettleWithout (added known : List String) : List Value → Prop
  | [] => True
  | table :: rest =>
    (∀ w ∈ qualifiers table, w ∈ added → w ∈ known ++ names table) ∧
      SettleWithout added (known ++ names table) rest

instance TableRef.decidableSettleWithout (added known : List String) :
    (tables : List Value) → Decidable (SettleWithout added known tables)
  | [] => inferInstanceAs (Decidable True)
  | table :: rest =>
    have := decidableSettleWithout added (known ++ names table) rest
    inferInstanceAs (Decidable (_ ∧ _))

namespace TableRef.SettleWithout

variable {added known : List String} {ids after : Identifiers} {table : Value} {rest : List Value}

theorem nil (known : List String) (tables : List Value) : SettleWithout [] known tables := by
  induction tables generalizing known with
  | nil => trivial
  | cons table rest ih => exact ⟨fun w _ hw => (List.not_mem_nil hw).elim, ih _⟩

theorem mono {known' : List String} {tables : List Value} (h : SettleWithout added known tables)
    (hknown : ∀ x ∈ known, x ∈ known') : SettleWithout added known' tables := by
  induction tables generalizing known known' with
  | nil => trivial
  | cons table rest ih =>
    have hmore : ∀ x ∈ known ++ names table, x ∈ known' ++ names table := by
      intro x hx
      rw [List.mem_append] at hx ⊢
      exact hx.imp_left (hknown x)
    exact ⟨fun w hqualifier hw => hmore w (h.1 w hqualifier hw), ih h.2 hmore⟩

theorem head (h : SettleWithout added ids.names (table :: rest))
    (hafter : ids.Adds (names table) after) :
    ∀ w ∈ qualifiers table, w ∈ added → w ∈ after.names := by
  intro w hqualifier hw
  rw [hafter w, ← List.mem_append]
  exact h.1 w hqualifier hw

theorem tail (h : SettleWithout added ids.names (table :: rest))
    (hafter : ids.Adds (names table) after) : SettleWithout added after.names rest := by
  refine h.2.mono fun x hx => ?_
  rwa [hafter x, ← List.mem_append]

end TableRef.SettleWithout

namespace Draft

/-- A join that does not fail brings the names of its table. -/
theorem adds_declareJoin {d : Draft} {spec : Value} (h : (d.declareJoin spec).error = none) :
    ∃ table, joinTable? spec = some table ∧
      d.identifiers.Adds (TableRef.names table) (d.declareJoin spec).draft.identifiers := by
  rcases declareJoin_cases d spec with ⟨fault, _, hjoin⟩ |
    ⟨type, table, conditions, ids, hspec, ⟨fault, _, hjoin⟩ | ⟨t, htable, hjoin⟩⟩
  · rw [hjoin] at h
    cases h
  · rw [hjoin] at h
    cases h
  · have hbrought := TableRef.adds_of_declare htable
    refine ⟨table, by rw [joinTable?, hspec], ?_⟩
    rw [hjoin]
    rcases draft_withConditions { d with identifiers := ids } conditions
      (fun cs => { d with identifiers := ids, joins := d.joins ++ [⟨type, t, cs⟩] }) with
      hsame | ⟨cs, hadded⟩
    · rw [hsame]
      exact hbrought
    · rw [hadded]
      exact hbrought

/-- Joins that do not fail bring the names of their tables. -/
theorem adds_declareEach {d : Draft} {specs : List Value} (h : (d.declareEach specs).error = none) :
    d.identifiers.Adds ((specs.filterMap joinTable?).flatMap TableRef.names)
      (d.declareEach specs).draft.identifiers := by
  induction specs generalizing d with
  | nil => exact .refl d.identifiers
  | cons spec rest ih =>
    simp only [declareEach] at h ⊢
    cases hfirst : (d.declareJoin spec).error with
    | some fault => simp [hfirst] at h
    | none =>
      simp only [hfirst] at h ⊢
      obtain ⟨table, htable, hbrought⟩ := adds_declareJoin hfirst
      rw [List.filterMap_cons_some htable, List.flatMap_cons]
      exact hbrought.trans (ih h)

/-- What declares no table leaves the tables and their names as they are. -/
theorem tables_declare (d : Draft) {a : Declaration} (h : a.part ≠ .tables) :
    (d.declare a).draft.identifiers = d.identifiers ∧
      (d.declare a).draft.statement = d.statement ∧ (d.declare a).draft.joins = d.joins := by
  have hsame := declare_only_of_ne d h
  have hids := congrArg (fun d : Draft => d.identifiers) hsame
  have hstatement := congrArg (fun d : Draft => d.statement) hsame
  have hjoins := congrArg (fun d : Draft => d.joins) hsame
  exact ⟨hids, hstatement, hjoins⟩

/-- A declaration that does not fail brings the names of its tables. -/
theorem adds_declare {d : Draft} {a : Declaration} (h : (d.declare a).error = none) :
    d.identifiers.Adds a.names (d.declare a).draft.identifiers := by
  by_cases hpart : a.part = .tables
  · cases a with
    | statement kind payload fields =>
      simp only [declare] at h ⊢
      rcases declareStatement_cases d kind payload fields with ⟨fault, _, hrefused⟩ |
        ⟨head, ids, hhead, ⟨fault, _, hrefused⟩ |
          ⟨t, htable, ⟨fault, _, _, hrefused⟩ | ⟨s, _, _, hdeclared⟩⟩⟩
      · rw [hrefused] at h
        cases h
      · rw [hrefused] at h
        cases h
      · rw [hrefused] at h
        cases h
      · have hbrought := TableRef.adds_of_declare htable
        have hnames : (Declaration.statement kind payload fields).names =
            TableRef.names head.table := by
          simp [Declaration.names, Declaration.tables, hhead]
        rw [hdeclared, hnames]
        exact hbrought
    | joins specs =>
      simp only [declare, declareJoins] at h ⊢
      cases hspecs : joinSpecs? specs with
      | none => simp [hspecs, refuse] at h
      | some items =>
        simp only [hspecs] at h
        simpa [Declaration.names, Declaration.tables, hspecs] using adds_declareEach h
    | _ => cases hpart
  · have hnames : a.names = [] := by
      cases a with
      | statement kind payload fields => exact absurd rfl hpart
      | joins specs => exact absurd rfl hpart
      | _ => rfl
    rw [hnames, (tables_declare d hpart).1]
    exact .refl d.identifiers

end Draft

end SqlDraft
