import SqlDraft.Proofs.Execution
import SqlDraft.Proofs.Masking

/-!
Data never changes the statement around it. Two builds that differ only in their data have the same
progress and the same error, or their texts are one template, filled with the data of each. Every
hole of a template takes one text and escapes it once.
-/
namespace SqlDraft

/-- Where a template takes data from: the parameter at an address, or the text with that number
among those that comparisons embed. -/
inductive Hole where
  | parameter (a : Address)
  | embedded (i : Nat)

inductive TemplatePiece where
  | fixed (text : String)
  | hole (h : Hole)

abbrev Template := List TemplatePiece

/-- The text in a hole, given the parameters and the embedded texts. -/
def Hole.datum? (params : Params) (texts : List String) : Hole → Option String
  | parameter a => (params.get? a).bind fun v => v.texts.head?
  | embedded i => texts[i]?

/-- Writes a template with the data of its holes, each escaped once. -/
def Template.fill (datum? : Hole → Option String) : Template → Option String
  | [] => some ""
  | .fixed text :: rest => (fill datum? rest).map fun others => text ++ others
  | .hole h :: rest => do
    let s ← datum? h
    let others ← fill datum? rest
    return Text.escape s ++ others

theorem Template.fill_append {datum? : Hole → Option String} {t u : Template}
    {first others : String} (ht : fill datum? t = some first) (hu : fill datum? u = some others) :
    fill datum? (t ++ u) = some (first ++ others) := by
  induction t generalizing first with
  | nil =>
    cases ht
    simpa using hu
  | cons piece rest ih =>
    cases piece with
    | fixed text =>
      obtain ⟨last, hlast, rfl⟩ := Option.map_eq_some_iff.mp ht
      simp [fill, ih hlast, String.append_assoc]
    | hole h =>
      simp only [fill, Option.bind_eq_bind, Option.bind_eq_some_iff] at ht
      obtain ⟨s, hs, last, hlast, heq⟩ := ht
      cases heq
      simp [fill, hs, ih hlast, String.append_assoc]

/-- Two results of one progress: the same error, or texts of one template. -/
inductive Agree (datum? datum?' : Hole → Option String) :
    Except Error String × Progress → Except Error String × Progress → Prop where
  | error (e : Error) (p : Progress) : Agree datum? datum?' (.error e, p) (.error e, p)
  | texts (template : Template) {text text' : String} (p : Progress) :
      template.fill datum? = some text → template.fill datum?' = some text' →
      Agree datum? datum?' (.ok text, p) (.ok text', p)

namespace Agree

variable {datum? datum?' : Hole → Option String}

theorem same (text : String) (p : Progress) :
    Agree datum? datum?' (.ok text, p) (.ok text, p) :=
  .texts [.fixed text] p (by simp [Template.fill]) (by simp [Template.fill])

theorem written (v : Value) (text : String) (p : Progress) :
    Agree datum? datum?' (Operand.written v text, p) (Operand.written v text, p) := by
  unfold Operand.written
  cases v.isWritable
  · exact .error _ p
  · exact .same text p

theorem hole {h : Hole} {s t : String} (p : Progress) (hs : datum? h = some s)
    (ht : datum?' h = some t) :
    Agree datum? datum?' (.ok (Text.escape s), p) (.ok (Text.escape t), p) :=
  .texts [.hole h] p (by simp [Template.fill, hs]) (by simp [Template.fill, ht])

theorem quoted {h : Hole} {s t : String} (p : Progress) (hs : datum? h = some s)
    (ht : datum?' h = some t) :
    Agree datum? datum?' (.ok (Text.quoteLiteral s), p) (.ok (Text.quoteLiteral t), p) :=
  .texts [.fixed "'", .hole h, .fixed "'"] p
    (by simp [Template.fill, hs, Text.quoteLiteral, String.append_assoc])
    (by simp [Template.fill, ht, Text.quoteLiteral, String.append_assoc])

theorem literal {params params' : Params} {texts texts' : List String} {a : Address}
    {v w : Value} (force : Bool) (p : Progress) (hv : params.get? a = some v)
    (hw : params'.get? a = some w) (hmasked : v.masked = w.masked) :
    Agree (Hole.datum? params texts) (Hole.datum? params' texts')
      (Operand.written (Operand.content v) (Operand.literal v force), p)
      (Operand.written (Operand.content w) (Operand.literal w force), p) := by
  rcases Value.masked_eq_masked hmasked with ⟨s, t, rfl, rfl⟩ | ⟨rfl, -⟩
  · rw [Operand.literal_text, Operand.literal_text]
    exact .quoted (h := .parameter a) p (by simp [Hole.datum?, hv, Value.texts])
      (by simp [Hole.datum?, hw, Value.texts])
  · exact .written _ _ p

end Agree

/-- Scopes that differ in the content of parameters only. -/
structure Scope.SameButData (scope scope' : Scope) : Prop where
  strict : scope.strict = scope'.strict
  identifiers : scope.identifiers = scope'.identifiers
  params : ∀ a, (scope.params.get? a).map Value.masked = (scope'.params.get? a).map Value.masked

namespace Scope.SameButData

variable {scope scope' : Scope} {texts texts' : List String}

variable (h : SameButData scope scope')

include h

theorem get?_cases (a : Address) :
    (scope.params.get? a = none ∧ scope'.params.get? a = none) ∨
      ∃ v w, scope.params.get? a = some v ∧ scope'.params.get? a = some w ∧
        v.masked = w.masked := by
  have ha := h.params a
  cases hv : scope.params.get? a with
  | none =>
    rw [hv] at ha
    exact Or.inl ⟨rfl, Option.map_eq_none_iff.mp ha.symm⟩
  | some v =>
    rw [hv] at ha
    obtain ⟨w, hw, heq⟩ := Option.map_eq_some_iff.mp ha.symm
    exact Or.inr ⟨v, w, rfl, hw, heq.symm⟩

/-- A name reads one address, whatever the data. -/
theorem namedValue?_cases (name : String) :
    (∃ a, Operand.namedValue? scope.params name = .ok (scope.params.get? a) ∧
      Operand.namedValue? scope'.params name = .ok (scope'.params.get? a)) ∨
    ∃ fault, Operand.namedValue? scope.params name = .error fault ∧
      Operand.namedValue? scope'.params name = .error fault := by
  unfold Operand.namedValue?
  rcases h.get?_cases (.name name) with ⟨hv, hw⟩ | ⟨v, w, hv, hw, -⟩
  · rw [hv, hw]
    by_cases hdigits : name.toList.all Text.isDigit
    · simp only [hdigits, if_true]
      cases Numeral.readDigits name with
      | ok n => exact Or.inl ⟨.slot n, rfl, rfl⟩
      | error fault => exact Or.inr ⟨fault, rfl, rfl⟩
    · simp only [hdigits, Bool.false_eq_true, if_false]
      exact Or.inl ⟨.name name, by rw [hv], by rw [hw]⟩
  · rw [hv, hw]
    exact Or.inl ⟨.name name, by rw [hv], by rw [hw]⟩

theorem identifier_eq (token : Value) (force : Bool) :
    Operand.identifier scope token force = Operand.identifier scope' token force := by
  unfold Operand.identifier
  rw [h.identifiers]

theorem lookup_agree (token : Value) (force : Bool) (p : Progress) :
    Agree (Hole.datum? scope.params texts) (Hole.datum? scope'.params texts')
      (Operand.lookup scope token force, p) (Operand.lookup scope' token force, p) := by
  unfold Operand.lookup
  cases Token.ofValue token with
  | named name =>
    rcases h.namedValue?_cases name with ⟨a, hv, hw⟩ | ⟨fault, hv, hw⟩
    · simp only [hv, hw]
      rcases h.get?_cases a with ⟨hnone, hnone'⟩ | ⟨v, w, hsome, hsome', hmasked⟩
      · simp only [hnone, hnone', h.identifier_eq]
        exact .same _ p
      · simp only [hsome, hsome']
        exact .literal force p hsome hsome' hmasked
    · simp only [hv, hw]
      exact .error _ p
  | string =>
    simp only [h.identifier_eq]
    exact .written _ _ p
  | _ => exact .written _ _ p

/-- A token stands for the same parameter or for none, so data decides nothing but the text. -/
theorem resolve_agree (token : Value) (force : Bool) (p : Progress) :
    Agree (Hole.datum? scope.params texts) (Hole.datum? scope'.params texts')
      ((Operand.resolve scope token force).exec p)
      ((Operand.resolve scope' token force).exec p) := by
  by_cases htoken : token = .text "?"
  · subst htoken
    rw [Operand.exec_resolve_positional, Operand.exec_resolve_positional, h.strict,
      h.identifier_eq]
    rcases h.get?_cases (.slot p.cursor) with ⟨hv, hw⟩ | ⟨v, w, hv, hw, hmasked⟩
    · simp only [hv, hw]
      split
      · exact .error _ p
      · exact .same _ _
    · simp only [hv, hw]
      exact .literal force _ hv hw hmasked
  · rw [Operand.exec_resolve_of_ne scope htoken, Operand.exec_resolve_of_ne scope' htoken]
    exact h.lookup_agree token force p

/-- Pieces without data agree on any data. -/
theorem piece_agree {piece : Piece} (hpiece : piece.texts = []) (p : Progress) :
    Agree (Hole.datum? scope.params texts) (Hole.datum? scope'.params texts')
      ((piece.run scope).exec p) ((piece.run scope').exec p) := by
  cases piece with
  | sql text => exact .same text p
  | data s => cases hpiece
  | writable v =>
    rw [Piece.run, Piece.run, Operand.exec_demand_bind]
    exact .written v "" p
  | name column =>
    rw [Piece.run, Piece.run, h.identifier_eq]
    exact .same _ p
  | operand token force => exact h.resolve_agree token force p
  | unused token =>
    rw [Piece.run, Piece.run, Render.exec_bind, Render.exec_bind]
    have hresolve : Agree (Hole.datum? scope.params texts) (Hole.datum? scope'.params texts') _ _ :=
      h.resolve_agree token false p
    generalize (Operand.resolve scope token false).exec p = r at hresolve ⊢
    generalize (Operand.resolve scope' token false).exec p = r' at hresolve ⊢
    cases hresolve with
    | error e q => exact .error e q
    | texts template q ht hu => exact .same "" q
  | malformed column operator value =>
    rw [Piece.run, Piece.run, h.strict]
    cases scope'.strict with
    | true => exact .error _ p
    | false => exact .same "" _
  | failure e => exact .error e p

/-- The run of alike layouts whose first data is the `n`-th text. -/
theorem layout_agree {l m : Layout} (hlayout : l.Alike m) {n : Nat} (p : Progress)
    (htexts : texts.drop n = l.texts) (htexts' : texts'.drop n = m.texts) :
    Agree (Hole.datum? scope.params texts) (Hole.datum? scope'.params texts')
      ((l.run scope).exec p) ((m.run scope').exec p) := by
  induction hlayout generalizing n p with
  | nil => exact .same "" p
  | @cons piece piece' l m hpiece hrest ih =>
    have hfirst : Agree (Hole.datum? scope.params texts) (Hole.datum? scope'.params texts')
        ((piece.run scope).exec p) ((piece'.run scope').exec p) := by
      cases hpiece with
      | same hnone => exact h.piece_agree hnone p
      | data s t =>
        have hs : texts[n]? = some s := by
          rw [← List.head?_drop, htexts]
          rfl
        have ht : texts'[n]? = some t := by
          rw [← List.head?_drop, htexts']
          rfl
        exact .hole (h := .embedded n) p hs ht
    have hlater : ∃ k, texts.drop k = Layout.texts l ∧ texts'.drop k = Layout.texts m := by
      cases hpiece with
      | same hnone =>
        rw [Layout.texts_cons, hnone, List.nil_append] at htexts htexts'
        exact ⟨n, htexts, htexts'⟩
      | data s t =>
        refine ⟨n + 1, ?_, ?_⟩
        · rw [← List.tail_drop, htexts]
          rfl
        · rw [← List.tail_drop, htexts']
          rfl
    obtain ⟨k, hk, hk'⟩ := hlater
    rw [Layout.run_cons, Layout.run_cons, Render.exec_bind, Render.exec_bind]
    generalize (piece.run scope).exec p = r at hfirst ⊢
    generalize (piece'.run scope').exec p = r' at hfirst ⊢
    cases hfirst with
    | error e q => exact .error e q
    | @texts template first first' q hfill hfill' =>
      simp only [Render.exec_bind]
      have hothers := ih q hk hk'
      generalize (Layout.run scope l).exec q = r at hothers ⊢
      generalize (Layout.run scope' m).exec q = r' at hothers ⊢
      cases hothers with
      | error e q => exact .error e q
      | texts template' q hfill₂ hfill₂' =>
        exact .texts (template ++ template') q (Template.fill_append hfill hfill₂)
          (Template.fill_append hfill' hfill₂')

end Scope.SameButData

/-- The data of a draft. -/
def Draft.datum? (d : Draft) (operators : OperatorTable) : Hole → Option String :=
  Hole.datum? d.params (d.texts operators)

theorem Agree.finish {datum? datum?' : Hole → Option String} {d e : Draft}
    (h : d.statement = e.statement) {r r' : Except Error String × Progress}
    (hr : Agree datum? datum?' r r') : Agree datum? datum?' (d.finish r) (e.finish r') := by
  cases hr with
  | error e p => exact .error e p
  | texts template p hfill hfill' =>
    unfold Draft.finish
    rw [h]
    exact .texts template _ hfill hfill'

theorem Draft.SameButData.run_agree {operators : OperatorTable} {d e : Draft}
    (h : SameButData operators d e) :
    Agree (d.datum? operators) (e.datum? operators) (d.run operators) (e.run operators) := by
  have hscope : Scope.SameButData d.scope e.scope := ⟨h.strict, h.identifiers, h.params⟩
  rw [d.run_eq, e.run_eq]
  cases hs : d.statement with
  | none =>
    have hs' : e.statement = none := h.statement.symm.trans hs
    have hlayout : d.layout operators = [.failure .noStatement] := by rw [layout, hs]
    have hlayout' : e.layout operators = [.failure .noStatement] := by rw [layout, hs']
    rw [hlayout, hlayout']
    exact .error .noStatement .start
  | some s =>
    have hs' : e.statement = some s := h.statement.symm.trans hs
    refine .finish h.statement (hscope.layout_agree h.layout_alike .start (n := 0) ?_ ?_)
    · rw [List.drop_zero, d.texts_layout (by simp [hs])]
    · rw [List.drop_zero, e.texts_layout (by simp [hs'])]

/-- Two builds that differ in data only end alike: with the same cursor and notices, and either
with the same error or with one template, in which every hole holds an escaped text. -/
theorem Draft.data_independence {operators : OperatorTable} {d e : Draft}
    (h : SameButData operators d e) :
    (d.run operators).2 = (e.run operators).2 ∧
      ((∃ error, (d.run operators).1 = .error error ∧ (e.run operators).1 = .error error) ∨
        ∃ (template : Template) (text text' : String),
          (d.run operators).1 = .ok text ∧ (e.run operators).1 = .ok text' ∧
          template.fill (d.datum? operators) = some text ∧
          template.fill (e.datum? operators) = some text') := by
  have hagree := h.run_agree
  generalize d.run operators = r at hagree ⊢
  generalize e.run operators = r' at hagree ⊢
  cases hagree with
  | error error p => exact ⟨rfl, Or.inl ⟨error, rfl, rfl⟩⟩
  | @texts template text text' p hfill hfill' =>
    exact ⟨rfl, Or.inr ⟨template, text, text', rfl, rfl, hfill, hfill'⟩⟩

/-- A search for a pattern and an owner. -/
def Draft.search (pattern owner : String) : Draft :=
  { Draft.empty true with
    statement := some (.select ⟨"user", none⟩ [.text "name"])
    filter := [.leaf (.text "name") (.text "contains") (some (.text pattern)),
      .leaf (.text "owner") (.text "=") (some (.text "?"))]
    params := Params.empty.write (.slot 0) (.text owner) }

theorem Draft.search_sameButData (pattern pattern' owner owner' : String) :
    SameButData .standard (search pattern owner) (search pattern' owner') := by
  refine ⟨rfl, rfl, ?_, rfl, rfl, rfl, rfl, rfl, rfl, rfl⟩
  intro a
  cases a with
  | name s => rfl
  | slot n =>
    by_cases hn : n = 0
    · subst hn
      rfl
    · simp only [search, Params.get?, Params.write, Params.empty]
      rw [OrderedMap.get?_insert_of_ne _ hn, OrderedMap.get?_insert_of_ne _ hn]

theorem Draft.data_independence_search :
    SameButData .standard (search "a" "b") (search "'; --" "?") ∧
      (run (search "a" "b") .standard).2 = (run (search "'; --" "?") .standard).2 ∧
      ∃ (template : Template) (text text' : String),
        (run (search "a" "b") .standard).1 = .ok text ∧
        (run (search "'; --" "?") .standard).1 = .ok text' ∧
        template.fill (datum? (search "a" "b") .standard) = some text ∧
        template.fill (datum? (search "'; --" "?") .standard) = some text' := by
  have h := search_sameButData "a" "'; --" "b" "?"
  obtain ⟨hprogress, ⟨e, he, -⟩ | htemplate⟩ := data_independence h
  · cases he
  · exact ⟨h, hprogress, htemplate⟩

end SqlDraft
