import SqlDraft.Proofs.Accepted
import SqlDraft.Proofs.Operands

/-!
Errors that callers get no report of. Of a payload that was accepted they come from conditions of a
join that have no items, limits whose numeral cannot be read or written, keys that are no address,
placeholders of too many digits, and values that would have to be written but hold an integer of too
many digits. All else that can go wrong is reported.
-/
namespace SqlDraft

namespace Operand

/-- How a token fails unreported at a slot: it reads a number of too many digits, or it stands for a
value, maybe itself, that cannot be written. -/
inductive Unreported (scope : Scope) (slot : Nat) : Value → Error → Prop where
  | digits {token : Value} {fault : NumeralFault} (h : Unreadable scope.params token fault) :
      Unreported scope slot token (.numeral fault)
  | positional {v : Value} (hv : scope.params.get? (.slot slot) = some v)
      (h : (content v).isWritable = false) :
      Unreported scope slot (.text "?") (.numeral .unwritable)
  | named {token v : Value} {name : String} (htoken : Token.ofValue token = .named name)
      (hv : namedValue? scope.params name = .ok (some v)) (h : (content v).isWritable = false) :
      Unreported scope slot token (.numeral .unwritable)
  | token {v : Value} (h : v.isWritable = false) :
      Unreported scope slot v (.numeral .unwritable)

/-- A token that is no placeholder stands for itself. -/
theorem lookup_error_of_not_named {scope : Scope} {token : Value} {e : Error}
    (hnamed : ∀ name, Token.ofValue token ≠ .named name) (force : Bool) :
    lookup scope token force = .error e ↔ token.isWritable = false ∧ e = .numeral .unwritable := by
  cases token with
  | text s =>
    unfold lookup
    split
    · next name hname => exact absurd hname (hnamed name)
    · exact written_error_iff
    · exact written_error_iff
  | _ => exact written_error_iff

theorem lookup_error_iff (scope : Scope) {token : Value} (htoken : token ≠ .text "?")
    (force : Bool) (slot : Nat) (e : Error) :
    lookup scope token force = .error e ↔ Unreported scope slot token e := by
  by_cases hnamed : ∃ name, Token.ofValue token = .named name
  · obtain ⟨name, hnamed⟩ := hnamed
    have htext : token.isWritable = true := by
      obtain ⟨rfl, -⟩ := (Token.ofValue_eq_named_iff token name).mp hnamed
      rfl
    rw [lookup_named scope hnamed]
    constructor
    · intro h
      split at h
      · next v hvalue =>
        obtain ⟨hunwritable, rfl⟩ := written_error_iff.mp h
        exact .named hnamed hvalue hunwritable
      · cases h
      · next fault hvalue =>
        cases h
        exact .digits ((unreadable_iff _ _ _).mpr ⟨name, hnamed, hvalue⟩)
    · intro h
      cases h with
      | digits hunreadable =>
        obtain ⟨name', hnamed', hvalue⟩ := (unreadable_iff _ _ _).mp hunreadable
        rw [hnamed] at hnamed'
        cases hnamed'
        rw [hvalue]
      | positional => exact absurd rfl htoken
      | named hnamed' hvalue hunwritable =>
        rw [hnamed] at hnamed'
        cases hnamed'
        rw [hvalue]
        exact written_error_iff.mpr ⟨hunwritable, rfl⟩
      | token hunwritable => simp [htext] at hunwritable
  · rw [lookup_error_of_not_named (not_exists.mp hnamed)]
    constructor
    · rintro ⟨hunwritable, rfl⟩
      exact .token hunwritable
    · intro h
      cases h with
      | digits hunreadable =>
        obtain ⟨name, hname, -⟩ := (unreadable_iff _ _ _).mp hunreadable
        exact absurd ⟨name, hname⟩ hnamed
      | positional => exact absurd rfl htoken
      | named hname => exact absurd ⟨_, hname⟩ hnamed
      | token hunwritable => exact ⟨hunwritable, rfl⟩

theorem positional_unreported_iff (scope : Scope) (force : Bool) (p : Progress) (e : Error) :
    ((resolve scope (.text "?") force).exec p).1 = .error e ∧ ¬e.Reported ↔
      Unreported scope p.cursor (.text "?") e := by
  rw [exec_resolve_positional]
  constructor
  · rintro ⟨h, hnot⟩
    split at h
    · next v hv =>
      obtain ⟨hunwritable, rfl⟩ := written_error_iff.mp h
      exact .positional hv hunwritable
    · split at h
      · cases h
        exact absurd rfl hnot
      · cases h
  · intro h
    cases h with
    | digits hunreadable =>
      obtain ⟨name, hname, -⟩ := (unreadable_iff _ _ _).mp hunreadable
      cases hname
    | positional hv hunwritable =>
      rw [hv]
      exact ⟨written_error_iff.mpr ⟨hunwritable, rfl⟩, Error.not_reported_numeral _⟩
    | named hname => cases hname
    | token hunwritable => cases hunwritable

theorem resolve_unreported_iff (scope : Scope) (token : Value) (force : Bool) (p : Progress)
    (e : Error) : ((resolve scope token force).exec p).1 = .error e ∧ ¬e.Reported ↔
      Unreported scope p.cursor token e := by
  by_cases htoken : token = .text "?"
  · subst htoken
    exact positional_unreported_iff scope force p e
  · rw [exec_resolve_of_ne scope htoken, lookup_error_iff scope htoken force p.cursor]
    refine ⟨And.left, fun h => ⟨h, ?_⟩⟩
    cases h <;> exact Error.not_reported_numeral _

end Operand

namespace Piece

/-- How a piece fails unreported at a slot. A message that shows a value has to be written too. -/
inductive Unreported (scope : Scope) (slot : Nat) : Piece → Error → Prop where
  | operand {token : Value} {force : Bool} {e : Error}
      (h : Operand.Unreported scope slot token e) : Unreported scope slot (.operand token force) e
  | unused {token : Value} {e : Error} (h : Operand.Unreported scope slot token e) :
      Unreported scope slot (.unused token) e
  | writable {v : Value} (h : v.isWritable = false) :
      Unreported scope slot (.writable v) (.numeral .unwritable)
  | malformed {column operator value : Value} (hstrict : scope.strict)
      (h : operator.isWritable = false ∨ value.isWritable = false) :
      Unreported scope slot (.malformed column operator value) (.numeral .unwritable)
  | unknownOperator {operator : Value} {clause : Option String}
      (h : operator.isWritable = false) :
      Unreported scope slot (.failure (Error.unknownOperator operator clause).raised)
        (.numeral .unwritable)

theorem run_malformed_unreported_iff (scope : Scope) (column operator value : Value)
    (p : Progress) (e : Error) :
    ((run scope (.malformed column operator value)).exec p).1 = .error e ∧ ¬e.Reported ↔
      Unreported scope p.cursor (.malformed column operator value) e := by
  have hraised := Error.raised_unreported_iff (e := .malformedOperand column operator value) rfl e
  simp only [Error.shown, List.all_cons, List.all_nil, Bool.and_true,
    Bool.and_eq_false_iff] at hraised
  simp only [run]
  constructor
  · rintro ⟨h, hnot⟩
    split at h
    · next hstrict =>
      obtain ⟨hunwritable, rfl⟩ := hraised.mp ⟨Except.error.inj h, hnot⟩
      exact .malformed hstrict hunwritable
    · cases h
  · intro h
    cases h with
    | malformed hstrict hunwritable =>
      obtain ⟨he, hnot⟩ := hraised.mpr ⟨hunwritable, rfl⟩
      rw [if_pos hstrict, he]
      exact ⟨rfl, hnot⟩

/-- A piece that holds no error but those of operators fails unreported in these ways only. -/
theorem run_unreported_iff (scope : Scope) {piece : Piece} (p : Progress) (e : Error)
    (hfailure : ∀ e', piece = .failure e' → e'.Reported ∨
      ∃ operator clause, e' = (Error.unknownOperator operator clause).raised) :
    ((piece.run scope).exec p).1 = .error e ∧ ¬e.Reported ↔
      Unreported scope p.cursor piece e := by
  cases piece with
  | operand token force =>
    rw [run, Operand.resolve_unreported_iff]
    refine ⟨.operand, fun h => ?_⟩
    cases h with
    | operand h => exact h
  | unused token =>
    have hsame : ((run scope (.unused token)).exec p).1 = .error e ↔
        ((Operand.resolve scope token false).exec p).1 = .error e := by
      rw [run, Render.exec_bind]
      rcases (Operand.resolve scope token false).exec p with ⟨fault | text, q⟩ <;> simp
    rw [hsame, Operand.resolve_unreported_iff]
    refine ⟨.unused, fun h => ?_⟩
    cases h with
    | unused h => exact h
  | malformed column operator value =>
    exact run_malformed_unreported_iff scope column operator value p e
  | writable v =>
    rw [run, Operand.exec_demand_bind]
    constructor
    · rintro ⟨h, -⟩
      obtain ⟨hunwritable, rfl⟩ := Operand.written_error_iff.mp h
      exact .writable hunwritable
    · intro h
      cases h with
      | writable hunwritable =>
        exact ⟨Operand.written_error_iff.mpr ⟨hunwritable, rfl⟩, Error.not_reported_numeral _⟩
  | failure fault =>
    simp only [run, Render.exec_throw, Except.error.injEq]
    have hraised (operator : Value) (clause : Option String) :=
      Error.raised_unreported_iff (e := .unknownOperator operator clause) rfl e
    simp only [Error.shown, List.all_cons, List.all_nil, Bool.and_true] at hraised
    constructor
    · rintro ⟨rfl, hnot⟩
      obtain ⟨operator, clause, hfault⟩ := (hfailure fault rfl).resolve_left hnot
      obtain ⟨hunwritable, he⟩ := (hraised operator clause).mp ⟨hfault.symm, hnot⟩
      have hpiece : Unreported scope p.cursor
          (.failure (Error.unknownOperator operator clause).raised) (.numeral .unwritable) :=
        .unknownOperator hunwritable
      rwa [← hfault, ← he] at hpiece
    · intro h
      cases h with
      | unknownOperator hunwritable => exact (hraised _ _).mpr ⟨hunwritable, rfl⟩
  | _ =>
    simp only [run, Render.exec_pure, reduceCtorEq, false_and, false_iff]
    intro h
    cases h

end Piece

namespace Draft

/-- A draft whose assignments on duplicate keys are texts holds no unreported errors but those of
operators. -/
theorem reported_of_mem_failures {d : Draft} {operators : OperatorTable} {e : Error}
    (hduplicates : ∀ v ∈ d.duplicates, ∃ s, v = .text s) (h : e ∈ d.failures operators) :
    e.Reported ∨ ∃ operator clause, e = (Error.unknownOperator operator clause).raised := by
  rcases failures_kinds h with rfl | hoperator | ⟨index, given, rfl⟩
  · exact Or.inl rfl
  · exact Or.inr hoperator
  · obtain ⟨hgiven, hnot⟩ := failures_notText h
    obtain ⟨s, hs⟩ := hduplicates given hgiven
    exact absurd hs (hnot s)

/-- A draft whose assignments on duplicate keys are texts fails unreported on its first piece that
does so. -/
theorem build_unreported_iff_piece {d : Draft}
    (hduplicates : ∀ v ∈ d.duplicates, ∃ s, v = .text s) (operators : OperatorTable) (e : Error) :
    (d.build operators).1 = .error e ∧ ¬e.Reported ↔ ∃ front piece back text q,
      d.layout operators = front ++ piece :: back ∧
      (Layout.run d.scope front).exec .start = (.ok text, q) ∧
      piece.Unreported d.scope q.cursor e := by
  have hpieces {front back : Layout} {piece : Piece} {e' : Error}
      (hlayout : d.layout operators = front ++ piece :: back) (hpiece : piece = .failure e') :
      e'.Reported ∨ ∃ operator clause, e' = (Error.unknownOperator operator clause).raised := by
    have hmem : e' ∈ d.failures operators := by
      rw [← failures_layout, hlayout, hpiece]
      simp [Layout.failures, Piece.failures]
    exact reported_of_mem_failures hduplicates hmem
  rw [build_fst, Layout.run_error_iff]
  constructor
  · rintro ⟨⟨front, piece, back, text, q, hlayout, hfront, hpiece⟩, hnot⟩
    exact ⟨front, piece, back, text, q, hlayout, hfront,
      (piece.run_unreported_iff d.scope q e fun _ => hpieces hlayout).mp ⟨hpiece, hnot⟩⟩
  · rintro ⟨front, piece, back, text, q, hlayout, hfront, hunreported⟩
    obtain ⟨hpiece, hnot⟩ :=
      (piece.run_unreported_iff d.scope q e fun _ => hpieces hlayout).mpr hunreported
    exact ⟨⟨front, piece, back, text, q, hlayout, hfront, hpiece⟩, hnot⟩

end Draft

namespace Payload

/-- How declarations on an empty draft, and then a build of it, fail unreported. -/
inductive Unreported (strict : Bool) (operators : OperatorTable) (all : List Declaration) :
    Error → Prop where
  /-- On the first declaration that fails. -/
  | declaring {before after : List Declaration} {a : Declaration} {e : Error}
      (hall : all = before ++ a :: after)
      (hbefore : ((Draft.empty strict).declareAll before).error = none)
      (ha : ((Draft.empty strict).declareAll before).draft.Unreported a e) :
      Unreported strict operators all e
  /-- On the first piece that fails, in a draft that is declared without failure. -/
  | building {front back : Layout} {piece : Piece} {text : String} {q : Progress} {e : Error}
      (hall : ((Draft.empty strict).declareAll all).error = none)
      (hlayout : ((Draft.empty strict).declareAll all).draft.layout operators =
        front ++ piece :: back)
      (hfront : (Layout.run ((Draft.empty strict).declareAll all).draft.scope front).exec .start =
        (.ok text, q))
      (hpiece : piece.Unreported ((Draft.empty strict).declareAll all).draft.scope q.cursor e) :
      Unreported strict operators all e

/-- An accepted payload gives a text, or an error that is reported, unless it has conditions of a
join without items, a limit, a key or a placeholder whose numeral cannot be read or written, or a
value to be written that holds too long an integer, and nothing before them fails. -/
theorem build_unreported_iff (strict : Bool) (operators : OperatorTable) {payload p : Value}
    {checked : List (Value × Value)} (hdecode : decode payload = .ok p)
    (hcheck : check p = .ok checked) (e : Error) :
    (build strict operators payload).1 = .error e ∧ ¬e.Reported ↔
      Unreported strict operators (declarations checked) e := by
  have hbuild : build strict operators payload = run strict operators (declarations checked) := by
    simp only [build, hdecode, bind, Except.bind, hcheck]
  have hsound := sound_of_mem hcheck
  rw [hbuild]
  generalize declarations checked = all at hsound ⊢
  have hduplicates : ∀ v ∈ ((Draft.empty strict).declareAll all).draft.duplicates,
      ∃ s, v = .text s := by
    intro v hv
    rcases Draft.duplicates_declareAll _ all v hv with hnone | ⟨a, ha, hv⟩
    · cases hnone
    · exact (hsound a ha).duplicates v hv
  constructor
  · rintro ⟨h, hnot⟩
    rw [run_fst] at h
    cases hall : ((Draft.empty strict).declareAll all).error with
    | some fault =>
      rw [hall] at h
      cases h
      obtain ⟨before, a, after, rfl, hbefore, ha⟩ := (Draft.declareAll_error_iff _ _ _).mp hall
      have hlisted := (hsound a (by simp)).listed
      exact .declaring rfl hbefore ((Draft.declare_unreported_iff _ hlisted e).mp ⟨ha, hnot⟩)
    | none =>
      rw [hall] at h
      obtain ⟨front, piece, back, text, q, hlayout, hfront, hpiece⟩ :=
        (Draft.build_unreported_iff_piece hduplicates operators e).mp ⟨h, hnot⟩
      exact .building hall hlayout hfront hpiece
  · intro h
    rw [run_fst]
    cases h with
    | @declaring before after a _ hall hbefore ha =>
      have hlisted := (hsound a (by simp [hall])).listed
      obtain ⟨hfault, hnot⟩ := (Draft.declare_unreported_iff _ hlisted e).mpr ha
      have hfails := (Draft.declareAll_error_iff _ all e).mpr
        ⟨before, a, after, hall, hbefore, hfault⟩
      rw [hfails]
      exact ⟨rfl, hnot⟩
    | building hall hlayout hfront hpiece =>
      rw [hall]
      exact (Draft.build_unreported_iff_piece hduplicates operators e).mpr
        ⟨_, _, _, _, _, hlayout, hfront, hpiece⟩

/-- The decoded form of a join on nothing. -/
def joinOnNothing : Value :=
  .dict [(.text "select", .dict [(.text "table", .text "user"), (.text "columns",
      .list [.text "*"])]),
    (.text "joins", .list [.dict [(.text "type", .text "left"), (.text "table", .text "order"),
      (.text "conditions", .null)]])]

set_option maxRecDepth 1000 in
theorem build_joinOnNothing :
    let payload : Value :=
      .text ("\x7b\"select\": \x7b\"table\": \"user\", \"columns\": [\"*\"]\x7d, \"joins\": " ++
        "[\x7b\"type\": \"left\", \"table\": \"order\", \"conditions\": null\x7d]\x7d")
    decode payload = .ok joinOnNothing ∧ (∃ checked, check joinOnNothing = .ok checked) ∧
      (build false .standard payload).1 = .error (.notIterable .null) ∧
      ¬Error.Reported (.notIterable .null) := by
  intro payload
  have hdecode : decode payload = .ok joinOnNothing :=
    (decode_of_unmarked (by decide)).trans rfl
  obtain ⟨checked, hcheck, hdeclared⟩ : ∃ checked, check joinOnNothing = .ok checked ∧
      declarations checked = [
        .statement .select (.dict [(.text "table", .text "user"), (.text "columns",
          .list [.text "*"])]) [],
        .joins (.list [.dict [(.text "type", .text "left"), (.text "table", .text "order"),
          (.text "conditions", .null)]])] := ⟨_, rfl, rfl⟩
  have hunreported := build_unreported_iff false .standard hdecode hcheck
  refine ⟨hdecode, ⟨checked, hcheck⟩, (hunreported _).mpr ?_⟩
  rw [hdeclared]
  refine .declaring (List.singleton_append).symm rfl ?_
  let join : Value := .dict [(.text "type", .text "left"), (.text "table", .text "order"),
    (.text "conditions", .null)]
  have hjoins : Draft.joinSpecs? (.list [join]) = some ([] ++ join :: []) := rfl
  have hjoin : Draft.readJoin join = .ok (.text "left", .text "order", .null) := rfl
  have htable : Value.text "order" ≠ .dict [] := by
    intro h
    cases h
  exact .join hjoins rfl hjoin (.noItems htable rfl rfl)

end Payload

end SqlDraft
