import SqlDraft.Proofs.Numerals
import SqlDraft.Proofs.Positional

/-!
Placeholders of a strict build. A build that succeeds has a parameter for each positional
placeholder and writes its literal; one without a parameter ends the build as soon as it is
resolved. Strictness does not concern named placeholders: one without a value is quoted like any
other name.
-/
namespace SqlDraft

namespace Operand

variable {scope : Scope} {seen : Nat} {o : Operand} {text : String}

/-- What stands for a placeholder behind `seen` positional ones: the literal of its value. A named
one alone may have none. -/
structure Replaced (scope : Scope) (seen : Nat) (o : Operand) (text : String) : Prop where
  positional : o.token = .text "?" →
    ∃ v, scope.params.get? (.slot seen) = some v ∧ text = literal v o.force
  named : ∀ name, Token.ofValue o.token = .named name →
    text = (scope.params.supplied? name).elim (identifier scope o.token o.force)
      fun v => literal v o.force

/-- Below the gap every placeholder but a named one has a value. -/
theorem Stands.replaced (h : o.Stands scope seen text)
    (hgap : o.token = .text "?" → seen < scope.params.gap) : o.Replaced scope seen text := by
  cases h with
  | filled force hseen hv =>
    refine ⟨fun _ => ⟨_, hv, rfl⟩, fun name hname => ?_⟩
    rw [show Token.ofValue (.text "?") = .positional from rfl] at hname
    cases hname
  | echoed force hseen => exact absurd (hgap rfl) (Nat.not_lt.mpr hseen)
  | other hne hlookup =>
    refine ⟨fun htoken => absurd htoken hne, fun name hnamed => ?_⟩
    obtain ⟨-, -, hname⟩ := (Token.ofValue_eq_named_iff _ name).mp hnamed
    rw [lookup_named scope hnamed] at hlookup
    cases hvalue : namedValue? scope.params name with
    | error fault => simp [hvalue] at hlookup
    | ok v? =>
      rw [← namedValue?_eq_ok hname hvalue]
      rw [hvalue] at hlookup
      cases v? with
      | none => exact (Except.ok.inj hlookup).symm
      | some v => exact (written_ok_iff.mp hlookup).2.symm

end Operand

/-- A positional placeholder stands behind fewer of them than there are. -/
theorem positionals_take_lt {l : List Operand} {i : Nat} {o : Operand} (ho : l[i]? = some o)
    (htoken : o.token = .text "?") : positionals (l.take i) < positionals l := by
  obtain ⟨hi, rfl⟩ := List.getElem?_eq_some_iff.mp ho
  have hone : positionals [l[i]] = 1 := by
    simp [positionals, Token.ofValue_eq_positional_iff, htoken]
  have hsplit : positionals (l.take (i + 1)) = positionals (l.take i) + positionals [l[i]] := by
    rw [← List.take_append_getElem hi, positionals_append]
  have hle : positionals (l.take (i + 1)) ≤ positionals l :=
    (List.take_sublist _ l).countP_le
  omega

/-- A strict run ends at a positional placeholder without a parameter. -/
theorem Piece.run_positional_strict {scope : Scope} {piece : Piece} {p : Progress} {force : Bool}
    (hstrict : scope.strict = true) (ho : ⟨.text "?", force⟩ ∈ piece.operands)
    (hfree : scope.params.get? (.slot p.cursor) = none) :
    ((piece.run scope).exec p).1 = .error (.missingParameter p.cursor) := by
  have hresolve (force : Bool) : (Operand.resolve scope (.text "?") force).exec p =
      (.error (.missingParameter p.cursor), p) := by
    rw [Operand.exec_resolve_positional, hfree]
    exact if_pos hstrict
  cases piece with
  | operand token force' =>
    obtain ⟨rfl, rfl⟩ : Value.text "?" = token ∧ force = force' := by simpa [operands] using ho
    rw [run, hresolve]
  | unused token =>
    obtain ⟨rfl, rfl⟩ : Value.text "?" = token ∧ force = false := by simpa [operands] using ho
    rw [run, Render.exec_bind, hresolve]
  | _ => cases ho

/-- A strict build that succeeds has written the literal of a parameter for each positional
placeholder, the one of its number, and for each named one that has a value. It fails for want of a
parameter at the first positional placeholder that has none, if nothing before it fails. -/
theorem Draft.placeholders_strict (d : Draft) (operators : OperatorTable)
    (hstrict : d.strict = true) :
    (∀ text, (d.build operators).1 = .ok text →
      ∃ texts, text = (d.layout operators).fill d.scope texts ∧
        texts.length = (d.operands operators).length ∧
        ∀ (i : Nat) (o : Operand), (d.operands operators)[i]? = some o →
          ∃ written, texts[i]? = some written ∧
            o.Replaced d.scope (positionals ((d.operands operators).take i)) written) ∧
    (∀ front piece back text q force, d.layout operators = front ++ piece :: back →
      (Layout.run d.scope front).exec .start = (.ok text, q) →
      ⟨.text "?", force⟩ ∈ piece.operands →
      d.params.get? (.slot (positionals front.operands)) = none →
      (d.build operators).1 = .error (.missingParameter (positionals front.operands))) := by
  have hstart : d.scope.Counted 0 .start := ⟨(Nat.zero_min _).symm, fun _ => Nat.zero_le _⟩
  rw [d.build_fst]
  constructor
  · intro text h
    rcases hrun : ((d.layout operators).run d.scope).exec .start with ⟨r, q⟩
    rw [hrun] at h
    subst h
    obtain ⟨texts, hresolved, hfill, hq⟩ := Layout.run_ok hstart hrun
    rw [d.operands_layout] at hresolved hq
    refine ⟨texts, hfill, hresolved.length_eq, ?_⟩
    intro i o ho
    obtain ⟨written, hwritten, hstands⟩ := hresolved.stands_at ho
    rw [Nat.zero_add] at hstands hq
    refine ⟨written, hwritten, hstands.replaced fun htoken => ?_⟩
    exact Nat.lt_of_lt_of_le (positionals_take_lt ho htoken) (hq.strict hstrict)
  · intro front piece back text q force hlayout hfront ho hfree
    obtain ⟨texts, -, -, hq⟩ := Layout.run_ok hstart hfront
    rw [Nat.zero_add] at hq
    -- A strict run does not pass the gap, so the slot that is missing is the gap.
    have hgap : d.params.gap ≤ positionals front.operands := by
      by_contra hlt
      obtain ⟨v, hv⟩ := Params.exists_of_lt_gap (Nat.not_le.mp hlt)
      rw [hfree] at hv
      cases hv
    have hcursor : q.cursor = positionals front.operands :=
      hq.cursor.trans (Nat.min_eq_left (hq.strict hstrict))
    rw [← hcursor] at hfree ⊢
    exact (Layout.run_error_iff d.scope _ .start _).mpr
      ⟨front, piece, back, text, q, hlayout, hfront, Piece.run_positional_strict hstrict ho hfree⟩

/-- One placeholder of each kind with a value, and a positional one without. -/
theorem Draft.placeholders_strict_search :
    let fields : List (String × Value) := [("table", .text "user"), ("columns", .list [.text "*"])]
    let conditions : Value := .list [.list [.text "id", .text "=", .text "?"],
      .list [.text "name", .text "=", .text "?:n"]]
    let d := ((Draft.empty true).declareAll [.statement .select .null fields, .filter conditions,
      .params (.list [.int 7]), .params (.dict [(.text "n", .text "ada")])]).draft
    let lacking := ((Draft.empty true).declare (.statement .select .null
      [("table", .text "user"), ("columns", .list [.text "?"])])).draft
    d.strict = true ∧ lacking.strict = true ∧
      (∃ texts, "SELECT *\nFROM `user`\nWHERE id = 7\nAND name = 'ada'\n" =
        (d.layout .standard).fill d.scope texts ∧ texts[2]? = some "7" ∧
        texts[4]? = some "'ada'") ∧
      (lacking.build .standard).1 = .error (.missingParameter 0) := by
  intro fields conditions d lacking
  have hbuild : (d.build .standard).1 =
      .ok "SELECT *\nFROM `user`\nWHERE id = 7\nAND name = 'ada'\n" := by decide +kernel
  have hoperands : d.operands .standard = [⟨.text "*", true⟩, ⟨.text "id", false⟩,
      ⟨.text "?", false⟩, ⟨.text "name", false⟩, ⟨.text "?:n", false⟩] := rfl
  obtain ⟨texts, htext, -, hreplaced⟩ := (d.placeholders_strict .standard rfl).1 _ hbuild
  rw [hoperands] at hreplaced
  refine ⟨rfl, rfl, ⟨texts, htext, ?_, ?_⟩, ?_⟩
  · obtain ⟨written, hwritten, hpositional, -⟩ := hreplaced 2 _ rfl
    obtain ⟨v, hv, rfl⟩ := hpositional rfl
    cases hv
    exact hwritten
  · obtain ⟨written, hwritten, -, hnamed⟩ := hreplaced 4 _ rfl
    rw [hwritten, hnamed "n" rfl]
    rfl
  · exact (lacking.placeholders_strict .standard rfl).2 [.sql "SELECT "] (.operand (.text "?") true)
      _ "SELECT " .start true rfl rfl List.mem_cons_self rfl

/-- A named placeholder without a value stays in the text of a strict build. -/
theorem Draft.placeholders_strict_named :
    let d := ((Draft.empty true).declare (.statement .select .null
      [("table", .text "user"), ("columns", .list [.text "?:id"])])).draft
    d.strict = true ∧ d.operands .standard = [⟨.text "?:id", true⟩] ∧
      Token.ofValue (.text "?:id") = .named "id" ∧ d.params.supplied? "id" = none ∧
      (d.build .standard).1 = .ok "SELECT `?:id`\nFROM `user`\n" := by
  intro d
  exact ⟨rfl, rfl, rfl, rfl, by decide +kernel⟩

end SqlDraft
