import Mathlib.Data.List.Nodup
import SqlDraft.Proofs.Payload
import SqlDraft.Proofs.Schema.Nulls

/-!
Payloads beside the same without their nulls. A clause that is null is not declared, and a field
that may be left out can as well be null. A field that is needed is only looked for, so null is
taken for its value, and without the null the declaration is refused.
-/
namespace SqlDraft

/-- What callers tell errors apart by: the kind of the report, or what was wrong with a value that
cannot be used. -/
inductive ErrorClass where
  | reported (kind : ErrorKind)
  | invalidFields
  | unknownKey
  | undecodable
  | badValue
  | badType
deriving DecidableEq

def Error.errorClass (e : Error) : ErrorClass :=
  match e.report? with
  | some report => .reported report.kind
  | none => match e with
    | invalidFields _ => .invalidFields
    | unknownKey _ => .unknownKey
    | undecodable _ => .undecodable
    | unknownField _ _ => .badValue
    | numeral _ => .badValue
    | _ => .badType

/-- The same text, or errors of the same class. -/
def SameResult : Except Error String → Except Error String → Prop
  | .ok sql, .ok sql' => sql = sql'
  | .error e, .error e' => e.errorClass = e'.errorClass
  | _, _ => False

theorem SameResult.refl (r : Except Error String) : SameResult r r := by
  cases r <;> rfl

def StatementKind.required : StatementKind → List String
  | .delete => ["table"]
  | _ => ["table", "columns"]

/-- The fields of a statement. -/
def Head.fieldNames : List String := ["table", "columns", "duplicates"]

def Join.required : List String := ["type", "table", "conditions"]

namespace Fields

/-- Whether null stands under one of some names. -/
def NullAt (f : Fields) (names : List String) : Prop := ∃ name ∈ names, f.get? name = some .null

def requireAll (f : Fields) : List String → Except Error (List Value)
  | [] => .ok []
  | name :: rest => do
    let v ← f.require name
    let others ← f.requireAll rest
    return v :: others

/-- Fields are found alike without the nulls if none of them is null, else one is missing. -/
theorem requireAll_present {names : List String} {entries entries' : List (Value × Value)}
    (clause : String)
    (h : ∀ name ∈ names, Value.entry? name entries' = Value.present? (Value.entry? name entries)) :
    (¬NullAt ⟨clause, entries⟩ names →
      requireAll ⟨clause, entries'⟩ names = requireAll ⟨clause, entries⟩ names) ∧
    (NullAt ⟨clause, entries⟩ names →
      ∃ name, requireAll ⟨clause, entries'⟩ names = .error (.missingField clause name)) := by
  induction names with
  | nil => exact ⟨fun _ => rfl, by simp [NullAt]⟩
  | cons name rest ih =>
    obtain ⟨hname, hrest⟩ := List.forall_mem_cons.mp h
    obtain ⟨hsame, hmissing⟩ := ih hrest
    by_cases hnull : Value.entry? name entries = some .null
    · have hnone : Value.entry? name entries' = none := by rw [hname, hnull, Value.present?_null]
      refine ⟨fun hnot => absurd ⟨name, List.mem_cons_self, hnull⟩ hnot, fun _ => ⟨name, ?_⟩⟩
      simp only [requireAll, require, get?, hnone, bind, Except.bind]
    · have hfirst : require ⟨clause, entries'⟩ name = require ⟨clause, entries⟩ name := by
        simp only [require, get?, hname, Value.present?_of_ne hnull]
      constructor
      · intro hnot
        have hrest : ¬NullAt ⟨clause, entries⟩ rest := by
          rintro ⟨other, hother, hotherNull⟩
          exact hnot ⟨other, List.mem_cons_of_mem name hother, hotherNull⟩
        simp only [requireAll, hfirst, hsame hrest]
      · rintro ⟨other, hother, hotherNull⟩
        have hother' : other ∈ rest := by
          rcases List.mem_cons.mp hother with rfl | hmem
          · exact absurd hotherNull hnull
          · exact hmem
        obtain ⟨field, hfield⟩ := hmissing ⟨other, hother', hotherNull⟩
        cases hgiven : Value.entry? name entries' with
        | none => exact ⟨name, by simp only [requireAll, require, get?, hgiven, bind, Except.bind]⟩
        | some v =>
          exact ⟨field, by simp only [requireAll, require, get?, hgiven, hfield, bind, Except.bind]⟩

end Fields

theorem Head.read_eq (kind : StatementKind) (entries : List (Value × Value)) :
    read kind (.dict entries) [] =
      (Fields.requireAll ⟨kind.name, entries⟩ kind.required).map fun given =>
        ⟨given.headD .null, given.getD 1 .null,
          (Value.entry? "duplicates" entries).getD .null⟩ := by
  cases kind <;>
  cases htable : Value.entry? "table" entries <;>
  cases hcolumns : Value.entry? "columns" entries <;>
  simp [read, Fields.read, Fields.requireAll, Fields.require, Fields.get?, htable, hcolumns,
    StatementKind.required, bind, Except.bind, Except.map, pure, Except.pure]

theorem Draft.readJoin_eq (entries : List (Value × Value)) :
    readJoin (.dict entries) =
      (Fields.requireAll ⟨"joins", entries⟩ Join.required).map fun given =>
        (given.headD .null, given.getD 1 .null, given.getD 2 .null) := by
  cases htype : Value.entry? "type" entries <;>
  cases htable : Value.entry? "table" entries <;>
  cases hconditions : Value.entry? "conditions" entries <;>
  simp [readJoin, Fields.read, Fields.requireAll, Fields.require, Fields.get?, htype, htable,
    hconditions, Join.required, bind, Except.bind, Except.map, pure, Except.pure]

namespace Draft

/-- Whether a mapping of fields has a null among those that are needed. -/
def NeedsNull (clause : String) (spec : Value) (fields : List (String × Value))
    (names : List String) : Prop :=
  ∃ f, Fields.read clause spec fields = .ok f ∧ f.NullAt names

end Draft

/-- A statement is read alike without its nulls, unless it needs one of them. -/
theorem Head.read_nullsDropped (kind : StatementKind) {v v' : Value}
    (h : Value.NullsDropped Head.fieldNames v v') :
    (¬Draft.NeedsNull kind.name v [] kind.required → read kind v' [] = read kind v []) ∧
    (Draft.NeedsNull kind.name v [] kind.required →
      ∃ field, read kind v' [] = .error (.missingField kind.name field)) := by
  obtain ⟨entries, entries', rfl, rfl, hlookup⟩ := h
  have hrequired : ∀ name ∈ kind.required, name ∈ Head.fieldNames := by
    cases kind <;> decide
  obtain ⟨hsame, hmissing⟩ := Fields.requireAll_present kind.name fun name hname =>
    hlookup name (hrequired name hname)
  have hduplicates : (Value.entry? "duplicates" entries').getD .null =
      (Value.entry? "duplicates" entries).getD .null := by
    rw [hlookup "duplicates" (by simp [fieldNames])]
    cases Value.entry? "duplicates" entries with
    | none => rfl
    | some v => cases v <;> rfl
  rw [read_eq, read_eq, hduplicates]
  constructor
  · intro hnot
    rw [hsame fun hnull => hnot ⟨_, rfl, hnull⟩]
  · rintro ⟨_, ⟨⟩, hnull⟩
    obtain ⟨field, hfield⟩ := hmissing hnull
    exact ⟨field, by rw [hfield]; rfl⟩

namespace Draft

/-- A join is read alike without its nulls, unless it has one. -/
theorem readJoin_nullsDropped {v v' : Value} (h : Value.NullsDropped Join.required v v') :
    (¬NeedsNull "joins" v [] Join.required → readJoin v' = readJoin v) ∧
    (NeedsNull "joins" v [] Join.required →
      ∃ field, readJoin v' = .error (.missingField "joins" field)) := by
  obtain ⟨entries, entries', rfl, rfl, hlookup⟩ := h
  obtain ⟨hsame, hmissing⟩ := Fields.requireAll_present "joins" hlookup
  rw [readJoin_eq, readJoin_eq]
  constructor
  · intro hnot
    rw [hsame fun hnull => hnot ⟨_, rfl, hnull⟩]
  · rintro ⟨_, ⟨⟩, hnull⟩
    obtain ⟨field, hfield⟩ := hmissing hnull
    exact ⟨field, by rw [hfield]; rfl⟩

end Draft

namespace Draft

/-- Whether a list of joins comes to one that needs a null. -/
def JoinsNeedNull (d : Draft) : List Value → Prop
  | [] => False
  | spec :: rest => NeedsNull "joins" spec [] Join.required ∨
      (d.declareJoin spec).error = none ∧ (d.declareJoin spec).draft.JoinsNeedNull rest

def DeclarationNeedsNull (d : Draft) : Declaration → Prop
  | .statement kind payload fields => NeedsNull kind.name payload fields kind.required
  | .joins specs => d.JoinsNeedNull ((joinSpecs? specs).getD [])
  | _ => False

/-- Whether a run comes to a declaration that needs a null, before any fails. -/
def RunNeedsNull (d : Draft) : List Declaration → Prop
  | [] => False
  | a :: rest => d.DeclarationNeedsNull a ∨
      (d.declare a).error = none ∧ (d.declare a).draft.RunNeedsNull rest

end Draft

/-- Declarations, the second one of which has the fields of the first that are not null. -/
inductive Declaration.NullsDropped : Declaration → Declaration → Prop
  | statement (kind : StatementKind) {v v' : Value}
      (h : Value.NullsDropped Head.fieldNames v v') :
      NullsDropped (statement kind v []) (statement kind v' [])
  | joins {specs specs' : List Value}
      (h : List.Forall₂ (Value.NullsDropped Join.required) specs specs') :
      NullsDropped (joins (.list specs)) (joins (.list specs'))
  | same {a : Declaration} (h : ∀ d : Draft, ¬d.DeclarationNeedsNull a) : NullsDropped a a

namespace Draft

/-- Joins without their nulls do the same, unless they come to one that needs a null; then this one
is refused. -/
theorem declareEach_nullsDropped {specs specs' : List Value}
    (h : List.Forall₂ (Value.NullsDropped Join.required) specs specs') (d : Draft) :
    (¬d.JoinsNeedNull specs → d.declareEach specs' = d.declareEach specs) ∧
    (d.JoinsNeedNull specs →
      ∃ field, (d.declareEach specs').error = some (.missingField "joins" field)) := by
  induction h generalizing d with
  | nil => exact ⟨fun _ => rfl, False.elim⟩
  | @cons spec spec' specs specs' hspec _ ih =>
    obtain ⟨hsame, hmissing⟩ := readJoin_nullsDropped hspec
    by_cases hnull : NeedsNull "joins" spec [] Join.required
    · refine ⟨fun hnot => absurd (Or.inl hnull) hnot, fun _ => ?_⟩
      obtain ⟨field, hfield⟩ := hmissing hnull
      exact ⟨field, by simp only [declareEach, declareJoin, hfield, refuse]⟩
    · have hfirst : d.declareJoin spec' = d.declareJoin spec := by
        simp only [declareJoin, hsame hnull]
      simp only [JoinsNeedNull, hnull, false_or, declareEach, hfirst]
      obtain ⟨hrest, hrestMissing⟩ := ih (d.declareJoin spec).draft
      cases herror : (d.declareJoin spec).error with
      | some e => exact ⟨fun _ => rfl, by simp⟩
      | none =>
        simp only [true_and]
        exact ⟨fun hnot => by rw [hrest hnot], hrestMissing⟩

/-- What is declared without its nulls does the same, unless it comes to a null that it needs. -/
theorem declare_nullsDropped {a a' : Declaration} (h : a.NullsDropped a') (d : Draft) :
    (¬d.DeclarationNeedsNull a → d.declare a' = d.declare a) ∧
    (d.DeclarationNeedsNull a →
      ∃ clause field, (d.declare a').error = some (.missingField clause field)) := by
  cases h with
  | statement kind h =>
    obtain ⟨hsame, hmissing⟩ := Head.read_nullsDropped kind h
    refine ⟨fun hnot => ?_, fun hnull => ?_⟩
    · simp only [declare, declareStatement, hsame hnot]
    · obtain ⟨field, hfield⟩ := hmissing hnull
      exact ⟨kind.name, field, by simp only [declare, declareStatement, hfield, refuse]⟩
  | joins h =>
    obtain ⟨hsame, hmissing⟩ := declareEach_nullsDropped h d
    refine ⟨hsame, fun hnull => ?_⟩
    obtain ⟨field, hfield⟩ := hmissing hnull
    exact ⟨"joins", field, hfield⟩
  | same h => exact ⟨fun _ => rfl, fun hnull => absurd hnull (h d)⟩

/-- Declarations without their nulls run alike, unless the run comes to one that needs a null; then
this one is refused. -/
theorem declareAll_nullsDropped {l l' : List Declaration}
    (h : List.Forall₂ Declaration.NullsDropped l l') (d : Draft) :
    (¬d.RunNeedsNull l → d.declareAll l' = d.declareAll l) ∧
    (d.RunNeedsNull l →
      ∃ clause field, (d.declareAll l').error = some (.missingField clause field)) := by
  induction h generalizing d with
  | nil => exact ⟨fun _ => rfl, False.elim⟩
  | @cons a a' l l' ha _ ih =>
    obtain ⟨hsame, hmissing⟩ := declare_nullsDropped ha d
    by_cases hnull : d.DeclarationNeedsNull a
    · refine ⟨fun hnot => absurd (Or.inl hnull) hnot, fun _ => ?_⟩
      obtain ⟨clause, field, hfield⟩ := hmissing hnull
      exact ⟨clause, field, by simp only [declareAll, hfield]⟩
    · simp only [RunNeedsNull, hnull, false_or, declareAll, hsame hnull]
      obtain ⟨hrest, hrestMissing⟩ := ih (d.declare a).draft
      cases herror : (d.declare a).error with
      | some e => exact ⟨fun _ => rfl, by simp⟩
      | none =>
        simp only [true_and]
        exact ⟨fun hnot => by rw [hrest hnot], hrestMissing⟩

end Draft

open Schema

namespace Payload

open Shape

/-- A statement without its nulls, and joins each without its own. -/
def clauseWithoutNulls : Value → Value → Value
  | .text name, v =>
    if name ∈ ["select", "insert", "update", "delete"] then v.withoutNulls
    else if name = "joins" then v.mapItems Value.withoutNulls
    else v
  | _, v => v

/-- A payload without its nulls, at the top, in its statements and in its joins. -/
def withoutNulls : Value → Value
  | .dict entries =>
    .dict ((Value.dropNulls entries).map fun e => (e.1, clauseWithoutNulls e.1 e.2))
  | v => v

theorem clauseWithoutNulls_ne_null (name : String) {v : Value} (hv : v ≠ .null) :
    clauseWithoutNulls (.text name) v ≠ .null := by
  simp only [clauseWithoutNulls]
  split
  · cases v <;> simp_all [Value.withoutNulls]
  · split
    · cases v <;> simp_all [Value.mapItems]
    · exact hv

/-- What a clause declares of the values of a shape, with and without their nulls. -/
def Drops (shape : Shape) (g : Value → Value) (f : Value → Declaration) : Prop :=
  ∀ v w, shape.check v = .ok w → ∃ w', shape.check (g v) = .ok w' ∧ w ≠ .null ∧ w' ≠ .null ∧
    (f w).NullsDropped (f w')

theorem drops_statement (kind : StatementKind) :
    Drops Shape.statement Value.withoutNulls fun v => .statement kind v.unfolded [] := by
  intro v w h
  have hnulls : ∀ field ∈ Shape.statement.fields, NullOnly field.2 := by
    simp only [fields, Shape.statement, List.forall_mem_cons]
    exact ⟨nullOnly_any, nullOnly_any, nullOnly_optional (neverNull_list text), by simp⟩
  obtain ⟨w', hw', hdropped⟩ := check_withoutNulls (by decide) hnulls h
  have hunfolded := hdropped.unfolded
  obtain ⟨entries, entries', rfl, rfl, -⟩ := hdropped
  exact ⟨_, hw', by simp, by simp, .statement kind hunfolded⟩

theorem drops_joins : Drops (list Shape.join) (Value.mapItems Value.withoutNulls)
    fun v => .joins v.unfolded := by
  intro v w h
  have hnulls : ∀ field ∈ Shape.join.fields, NullOnly field.2 := by
    simp only [fields, Shape.join, List.forall_mem_cons]
    exact ⟨nullOnly_any, nullOnly_any, nullOnly_any, by simp⟩
  obtain ⟨ws, ws', rfl, hws', hdropped⟩ := check_mapItems_withoutNulls (by decide) hnulls h
  have hunfolded : List.Forall₂ (Value.NullsDropped Join.required) (Value.unfoldedAll ws)
      (Value.unfoldedAll ws') := by
    clear h hws'
    induction hdropped with
    | nil => exact .nil
    | cons hfirst _ ih => exact .cons hfirst.unfolded ih
  exact ⟨_, hws', by simp, by simp, .joins hunfolded⟩

theorem drops_same {shape : Shape} {f : Value → Declaration}
    (hnull : shape.NeverNull)
    (hf : ∀ (d : Draft) v, ¬d.DeclarationNeedsNull (f v)) : Drops shape id f := by
  intro v w h
  exact ⟨w, h, hnull v w h, hnull v w h, .same fun d => hf d w⟩

/-- Every clause drops the nulls of its shape. -/
theorem clauses_drop : ∀ clause ∈ clauses, ∃ shape,
    Drops shape (clauseWithoutNulls (.text clause.1)) clause.2 ∧
      (clause.1, optional shape) ∈ Shape.query.fields := by
  have hstatement (kind : StatementKind) :
      clauseWithoutNulls (.text kind.name) = Value.withoutNulls := by
    cases kind <;> rfl
  have hother (name : String) (h : name ∉ ["select", "insert", "update", "delete"])
      (h' : name ≠ "joins") : clauseWithoutNulls (.text name) = id := by
    funext v
    rw [clauseWithoutNulls, if_neg h, if_neg h', id]
  have hitems {f : Value → Declaration} (hf : ∀ (d : Draft) v, ¬d.DeclarationNeedsNull (f v)) :
      Drops (list any) id f := drops_same (neverNull_list any) hf
  simp only [clauses, List.forall_mem_cons]
  refine ⟨⟨_, hstatement .select ▸ drops_statement .select, ?_⟩,
    ⟨_, hstatement .insert ▸ drops_statement .insert, ?_⟩,
    ⟨_, hstatement .update ▸ drops_statement .update, ?_⟩,
    ⟨_, hstatement .delete ▸ drops_statement .delete, ?_⟩,
    ⟨_, drops_joins, ?_⟩,
    ⟨_, hother "where" (by decide) (by decide) ▸ hitems fun _ _ => id, ?_⟩,
    ⟨_, hother "having" (by decide) (by decide) ▸ hitems fun _ _ => id, ?_⟩,
    ⟨_, hother "order" (by decide) (by decide) ▸ hitems fun _ _ => id, ?_⟩,
    ⟨_, hother "group" (by decide) (by decide) ▸ hitems fun _ _ => id, ?_⟩,
    ⟨_, hother "limit" (by decide) (by decide) ▸ drops_same neverNull_limit fun _ _ => id, ?_⟩,
    ⟨_, hother "params" (by decide) (by decide) ▸ drops_same neverNull_params fun _ _ => id, ?_⟩,
    by simp⟩
  all_goals simp [fields, Shape.query]

/-- What is found of a payload without its nulls. -/
theorem entry?_withoutNulls (name : String) (entries : List (Value × Value)) :
    Value.entry? name ((Value.dropNulls entries).map fun e => (e.1, clauseWithoutNulls e.1 e.2)) =
      (Value.present? (Value.entry? name entries)).map (clauseWithoutNulls (.text name)) := by
  rw [Value.entry?_map, Value.entry?_dropNulls]

section

variable {entries checked checked' : List (Value × Value)}
  (hfields : checkFields Shape.query.fields entries = .ok checked)
  (hfields' : checkFields Shape.query.fields
    ((Value.dropNulls entries).map fun e => (e.1, clauseWithoutNulls e.1 e.2)) = .ok checked')

include hfields hfields'

/-- A clause that is null is not declared either way; any other is declared but for its nulls. -/
theorem declaration_dropped {name : String} {shape : Shape} {f : Value → Declaration}
    (hfield : (name, optional shape) ∈ Shape.query.fields)
    (hdrops : Drops shape (clauseWithoutNulls (.text name)) f) :
    Option.Rel Declaration.NullsDropped (declaration? checked (name, f))
      (declaration? checked' (name, f)) := by
  have hlookup := entry?_withoutNulls name entries
  rcases checked_clause_cases hfields hfield with ⟨hnull, hnull'⟩ | ⟨v, w, hv, hne, hcheck, hw⟩
  · have hnone : Value.present? (Value.entry? name entries) = none := by
      cases hgiven : Value.entry? name entries with
      | none => rfl
      | some v =>
        rw [hgiven, Option.getD_some] at hnull
        rw [hnull, Value.present?_null]
    rw [hnone, Option.map_none] at hlookup
    rw [declaration?_of_null hnull' f]
    rcases checked_clause_cases hfields' hfield with ⟨-, hnull''⟩ | ⟨v, w, hv, -⟩
    · rw [declaration?_of_null hnull'' f]
      exact .none
    · rw [hlookup] at hv
      cases hv
  · have hpresent : Value.present? (some v) = some v := Value.present?_of_ne (by simpa using hne)
    rw [hv, hpresent, Option.map_some] at hlookup
    obtain ⟨w', hcheck', hw0, hw0', hdropped⟩ := hdrops v w hcheck
    rw [declaration?_of_lookup f hw hw0]
    rcases checked_clause_cases hfields' hfield with ⟨hnull, -⟩ | ⟨v', u, hv', -, hcheck'', hu⟩
    · rw [hlookup, Option.getD_some] at hnull
      exact absurd hnull (clauseWithoutNulls_ne_null name hne)
    · rw [hlookup] at hv'
      cases hv'
      rw [hcheck'] at hcheck''
      cases hcheck''
      rw [declaration?_of_lookup f hu hw0']
      exact .some hdropped

theorem declarations_dropped :
    List.Forall₂ Declaration.NullsDropped (declarations checked) (declarations checked') := by
  have hclauses : List.Forall₂ (fun clause clause' => Option.Rel Declaration.NullsDropped
      (declaration? checked clause) (declaration? checked' clause')) clauses clauses := by
    refine List.forall₂_same.mpr fun clause hclause => ?_
    obtain ⟨shape, hdrops, hfield⟩ := clauses_drop clause hclause
    exact declaration_dropped hfields hfields' hfield hdrops
  exact List.rel_filterMap (fun _ _ hclause => hclause) hclauses

end

theorem check_eq_ok_iff {entries checked : List (Value × Value)} :
    check (.dict entries) = .ok checked ↔ checkFields Shape.query.fields entries = .ok checked ∧
      ∀ e ∈ entries, otherKey (Shape.query.fields.map Prod.fst) e.1 = [] := by
  have hquery (w : Value) : Shape.query.check (.dict entries) = .ok w ↔ _ := check_dict_eq_ok_iff
  unfold check
  cases hcheck : Shape.query.check (.dict entries) with
  | error faults =>
    simp only [reduceCtorEq, false_iff, not_and]
    intro hfields hkeys
    rw [(hquery _).mpr ⟨checked, hfields, hkeys, rfl⟩] at hcheck
    cases hcheck
  | ok w =>
    obtain ⟨given, hfields, hkeys, rfl⟩ := (hquery w).mp hcheck
    simp only [Except.ok.injEq]
    constructor
    · rintro rfl
      exact ⟨hfields, hkeys⟩
    · rintro ⟨hfields', -⟩
      exact Except.ok.inj (hfields.symm.trans hfields')

/-- A payload that is accepted is accepted without its nulls, and declares the same but for them. -/
theorem check_withoutNulls {p : Value} {checked : List (Value × Value)}
    (h : check p = .ok checked) : ∃ checked', check (withoutNulls p) = .ok checked' ∧
      List.Forall₂ Declaration.NullsDropped (declarations checked) (declarations checked') := by
  obtain ⟨entries, rfl, -⟩ := check_eq_ok h
  obtain ⟨hfields, hkeys⟩ := check_eq_ok_iff.mp h
  have hnodup : (Shape.query.fields.map Prod.fst).Nodup := by decide
  obtain ⟨checked', hfields'⟩ : ∃ checked', checkFields Shape.query.fields
      ((Value.dropNulls entries).map fun e => (e.1, clauseWithoutNulls e.1 e.2)) =
        .ok checked' := by
    refine exists_checkFields fun field hfield v' hv' => ?_
    obtain ⟨clause, hclause, hname⟩ : ∃ clause ∈ clauses, clause.1 = field.1 := by
      have hmem : field.1 ∈ clauses.map Prod.fst := List.mem_map_of_mem hfield
      exact List.mem_map.mp hmem
    obtain ⟨shape, hdrops, hshape⟩ := clauses_drop clause hclause
    obtain rfl : field = (clause.1, optional shape) :=
      List.inj_on_of_nodup_map hnodup hfield hshape hname.symm
    rw [entry?_withoutNulls, Option.map_eq_some_iff] at hv'
    obtain ⟨v, hv, rfl⟩ := hv'
    obtain ⟨hv, hne⟩ := Value.present?_eq_some_iff.mp hv
    rcases checked_clause_cases hfields hshape with ⟨hnull, -⟩ | ⟨u, w, hu, -, hcheck, -⟩
    · rw [hv, Option.getD_some] at hnull
      exact absurd hnull hne
    · rw [hv] at hu
      cases hu
      obtain ⟨w', hcheck', -⟩ := hdrops v w hcheck
      refine ⟨w', ?_⟩
      rw [check_optional_of_ne shape (clauseWithoutNulls_ne_null clause.1 hne), hcheck']
  refine ⟨checked', check_eq_ok_iff.mpr ⟨hfields', fun e he => ?_⟩,
    declarations_dropped hfields hfields'⟩
  obtain ⟨given, hgiven, rfl⟩ := List.mem_map.mp he
  exact hkeys given (List.mem_of_mem_filter hgiven)

/-- An accepted payload gives the same result without its nulls, unless the run of its declarations
comes to a null that is needed. Without it a field is missing then, which is an error in the
configuration; the payload itself takes the null for the value and may end in anything. -/
theorem build_withoutNulls_iff (strict : Bool) (operators : OperatorTable) {p : Value}
    {checked : List (Value × Value)} (h : check p = .ok checked) :
    let given := build strict operators p
    let dropped := build strict operators (withoutNulls p)
    let needsNull := (Draft.empty strict).RunNeedsNull (declarations checked)
    (SameResult given.1 dropped.1 ↔ ¬needsNull ∨
      ∃ e, given.1 = .error e ∧ e.errorClass = .reported .configuration) ∧
    (¬needsNull → dropped = given) ∧
    (needsNull → ∃ clause field, dropped.1 = .error (.missingField clause field)) := by
  intro given dropped needsNull
  obtain ⟨checked', hcheck', hdeclarations⟩ := check_withoutNulls h
  have hbuild {q : Value} {entries : List (Value × Value)} (hq : check q = .ok entries) :
      build strict operators q = run strict operators (declarations entries) := by
    obtain ⟨_, rfl, -⟩ := check_eq_ok hq
    simp only [build, decode, bind, Except.bind, hq]
  obtain ⟨hsame, hmissing⟩ := Draft.declareAll_nullsDropped hdeclarations (Draft.empty strict)
  have hequal : ¬needsNull → dropped = given := by
    intro hnot
    simp only [dropped, given, hbuild h, hbuild hcheck', run, hsame hnot]
  have hrefused : needsNull → ∃ clause field, dropped.1 = .error (.missingField clause field) := by
    intro hnull
    obtain ⟨clause, field, herror⟩ := hmissing hnull
    refine ⟨clause, field, ?_⟩
    simp only [dropped, hbuild hcheck', run_fst, herror]
  refine ⟨⟨fun hresult => ?_, ?_⟩, hequal, hrefused⟩
  · by_cases hnull : needsNull
    · obtain ⟨clause, field, herror⟩ := hrefused hnull
      rw [herror] at hresult
      cases hgiven : given.1 with
      | ok sql =>
        rw [hgiven] at hresult
        cases hresult
      | error e =>
        rw [hgiven] at hresult
        exact Or.inr ⟨e, rfl, hresult⟩
    · exact Or.inl hnull
  · rintro (hnot | ⟨e, hgiven, hclass⟩)
    · rw [hequal hnot]
      exact .refl given.1
    · by_cases hnull : needsNull
      · obtain ⟨clause, field, herror⟩ := hrefused hnull
        rw [hgiven, herror]
        exact hclass
      · rw [hequal hnull]
        exact .refl given.1

/-- A statement on a null table is built, and is refused without the null. -/
theorem build_nullTable :
    let p : Value := .dict [(.text "select", .dict [(.text "table", .null),
      (.text "columns", .list [.text "*"])])]
    (build false .standard p).1 = .ok "SELECT *\nFROM `None`\n" ∧
      (∃ clause field,
        (build false .standard (withoutNulls p)).1 = .error (.missingField clause field)) ∧
      ¬SameResult (build false .standard p).1 (build false .standard (withoutNulls p)).1 := by
  intro p
  have hcheck : check p = .ok [(.text "select", .dict [(.text "table", .null),
      (.text "columns", .list [.text "*"])])] := rfl
  have hnull : (Draft.empty false).RunNeedsNull (declarations [(.text "select",
      .dict [(.text "table", .null), (.text "columns", .list [.text "*"])])]) :=
    Or.inl ⟨_, rfl, "table", by decide, rfl⟩
  have hgiven : (build false .standard p).1 = .ok "SELECT *\nFROM `None`\n" := by decide +kernel
  obtain ⟨hiff, -, hrefused⟩ := build_withoutNulls_iff false .standard hcheck
  refine ⟨hgiven, hrefused hnull, fun hresult => ?_⟩
  rcases hiff.mp hresult with hnot | ⟨e, herror, -⟩
  · exact hnot hnull
  · rw [hgiven] at herror
    cases herror

end Payload

end SqlDraft
