import Mathlib.Data.List.Forall2
import SqlDraft.Condition.Reading

/-!
The items that are read as conditions. Strict reading accepts a list exactly if each of its items,
and each item at any depth in its combinations, is recognised; it then gives one condition for each
item, in order and at every level. Lenient reading is strict reading of the list without the items
that are not recognised.
-/
namespace SqlDraft

theorem Combinator.ofKeyword?_eq_some_iff (s : String) (combinator : Combinator) :
    ofKeyword? s = some combinator ↔ s = combinator.keyword := by
  unfold ofKeyword?
  split <;> cases combinator <;> simp_all [keyword]

namespace Condition

/-- The shapes of an item: a condition, a text, three parts of a comparison, or AND or OR in any
letter case over a list. -/
def isRecognised : Value → Bool
  | .condition _ => true
  | .text _ => true
  | .list items => items.length = 3
  | .tuple items => items.length = 3
  | .dict [(.text key, body)] =>
    (Text.upper key = "AND" || Text.upper key = "OR") && body.items?.isSome
  | _ => false

/-- An item of a list, or one at any depth in the lists that its mappings combine. -/
inductive Among (v : Value) : List Value → Prop where
  | item {items : List Value} (hmem : v ∈ items) : Among v items
  | child {items children : List Value} {key body : Value} (hmem : .dict [(key, body)] ∈ items)
      (hrecognised : isRecognised (.dict [(key, body)]) = true)
      (hbody : body.items? = some children) (hchild : Among v children) : Among v items

/-- The condition that an item stands for. A combination has one for each of its items, in order. -/
inductive Reads : Value → Condition → Prop where
  | condition (c : Condition) : Reads (.condition c) c
  | text (s : String) : Reads (.text s) (.raw s)
  | comparison {v column operator value : Value} (h : v.items? = some [column, operator, value]) :
      Reads v (.leaf column operator (some value))
  | combination {key : String} {combinator : Combinator} {body : Value} {children : List Value}
      {conditions : List Condition} (hkey : Text.upper key = combinator.keyword)
      (hbody : body.items? = some children) (hchildren : List.Forall₂ Reads children conditions) :
      Reads (.dict [(.text key, body)]) (.group combinator conditions)

mutual

/-- A combination without the items that are not recognised; anything else as it is. -/
def pruneChildren : Value → Value
  | .dict [(key, .list children)] => .dict [(key, .list (prune children))]
  | .dict [(key, .tuple children)] => .dict [(key, .tuple (prune children))]
  | v => v
termination_by structural v => v

/-- The items that are recognised, with what is left of those inside them. -/
def prune : List Value → List Value
  | [] => []
  | v :: rest => if isRecognised v then pruneChildren v :: prune rest else prune rest
termination_by structural vs => vs

end

/-- Induction on the items of a list and on the lists inside its mappings. -/
theorem items_induction {motive : List Value → Prop} (nil : motive [])
    (cons : ∀ v rest, (∀ key body children, v = .dict [(key, body)] →
      body.items? = some children → motive children) → motive rest → motive (v :: rest)) :
    (items : List Value) → motive items
  | [] => nil
  | v :: rest => by
    refine cons v rest (fun key body children hv hbody => ?_) (items_induction nil cons rest)
    have hsmaller : sizeOf children < sizeOf v := by
      rw [hv]
      cases body <;> cases hbody <;> simp +arith
    exact items_induction nil cons children
termination_by items => sizeOf items
decreasing_by all_goals simp only [List.cons.sizeOf_spec]; omega

/-- What reading an item comes to: it is passed over, it stands for a condition by itself, or it
combines what is read of a list. -/
inductive ReadCase (v : Value) : Prop where
  | skipped (hshape : isRecognised v = false) (hread : read v = (none, [v])) : ReadCase v
  | single {c : Condition} (hshape : isRecognised v = true) (hplain : ∀ entries, v ≠ .dict entries)
      (hreads : Reads v c) (hread : read v = (some c, [])) : ReadCase v
  | combination {key : String} {combinator : Combinator} {body : Value} {children : List Value}
      (hv : v = .dict [(.text key, body)]) (hkey : Text.upper key = combinator.keyword)
      (hbody : body.items? = some children)
      (hread : read v = (some (.group combinator (readAll children).1), (readAll children).2)) :
      ReadCase v

theorem isRecognised_combination {key : String} {combinator : Combinator} {body : Value}
    {children : List Value} (hkey : Text.upper key = combinator.keyword)
    (hbody : body.items? = some children) :
    isRecognised (.dict [(.text key, body)]) = true := by
  cases combinator <;> simp_all [isRecognised, Combinator.keyword]

theorem combinator?_text_iff (s : String) (combinator : Combinator) :
    combinator? (.text s) = some combinator ↔ Text.upper s = combinator.keyword :=
  Combinator.ofKeyword?_eq_some_iff _ _

theorem read_combination {key : String} {combinator : Combinator} {body : Value}
    {children : List Value} (hkey : Text.upper key = combinator.keyword)
    (hbody : body.items? = some children) :
    read (.dict [(.text key, body)]) =
      (some (.group combinator (readAll children).1), (readAll children).2) := by
  have hcombinator := (combinator?_text_iff key combinator).mpr hkey
  cases body <;> cases hbody <;> simp only [read, hcombinator]

theorem read_dict_cases (key body : Value) : ReadCase (.dict [(key, body)]) := by
  cases key with
  | text s =>
    cases hbody : body.items? with
    | none =>
      refine .skipped (by simp [isRecognised, hbody]) ?_
      cases body <;> first | rfl | cases hbody
    | some children =>
      cases hcombinator : combinator? (.text s) with
      | none =>
        have hne (combinator : Combinator) : Text.upper s ≠ combinator.keyword := fun h => by
          rw [(combinator?_text_iff s combinator).mpr h] at hcombinator
          cases hcombinator
        have hand : Text.upper s ≠ "AND" := hne .and
        have hor : Text.upper s ≠ "OR" := hne .or
        refine .skipped (by simp [isRecognised, hand, hor]) ?_
        cases body <;> cases hbody <;> simp only [read, hcombinator]
      | some combinator =>
        have hkey := (combinator?_text_iff s combinator).mp hcombinator
        exact .combination rfl hkey hbody (read_combination hkey hbody)
  | _ => cases body <;> exact .skipped rfl rfl

theorem read_cases (v : Value) : ReadCase v := by
  cases v with
  | condition c => exact .single rfl nofun (.condition c) rfl
  | text s => exact .single rfl nofun (.text s) rfl
  | list items =>
    rcases items with _ | ⟨a, _ | ⟨b, _ | ⟨c, _ | ⟨d, rest⟩⟩⟩⟩
    case cons.cons.cons.nil => exact .single rfl nofun (.comparison rfl) rfl
    all_goals exact .skipped (by simp [isRecognised]) rfl
  | tuple items =>
    rcases items with _ | ⟨a, _ | ⟨b, _ | ⟨c, _ | ⟨d, rest⟩⟩⟩⟩
    case cons.cons.cons.nil => exact .single rfl nofun (.comparison rfl) rfl
    all_goals exact .skipped (by simp [isRecognised]) rfl
  | dict entries =>
    rcases entries with _ | ⟨⟨key, body⟩, _ | ⟨other, rest⟩⟩
    · exact .skipped rfl rfl
    · exact read_dict_cases key body
    · cases key <;> cases body <;> exact .skipped rfl rfl
  | _ => exact .skipped rfl rfl

/-- An item of the list that an item combines, or one at any depth in it. -/
def Inside (w v : Value) : Prop :=
  ∃ key body children, v = .dict [(key, body)] ∧ isRecognised v = true ∧
    body.items? = some children ∧ Among w children

theorem among_cons_iff (w v : Value) (rest : List Value) :
    Among w (v :: rest) ↔ w = v ∨ Inside w v ∨ Among w rest := by
  constructor
  · intro h
    cases h with
    | item hmem =>
      rcases List.mem_cons.mp hmem with rfl | hmem
      · exact Or.inl rfl
      · exact Or.inr (Or.inr (.item hmem))
    | child hmem hrecognised hbody hchild =>
      rcases List.mem_cons.mp hmem with rfl | hmem
      · exact Or.inr (Or.inl ⟨_, _, _, rfl, hrecognised, hbody, hchild⟩)
      · exact Or.inr (Or.inr (.child hmem hrecognised hbody hchild))
  · rintro (rfl | ⟨key, body, children, rfl, hrecognised, hbody, hchild⟩ | h)
    · exact .item List.mem_cons_self
    · exact .child List.mem_cons_self hrecognised hbody hchild
    · cases h with
      | item hmem => exact .item (List.mem_cons_of_mem v hmem)
      | child hmem hrecognised hbody hchild =>
        exact .child (List.mem_cons_of_mem v hmem) hrecognised hbody hchild

theorem inside_combination_iff {key body : Value} {children : List Value}
    (hrecognised : isRecognised (.dict [(key, body)]) = true) (hbody : body.items? = some children)
    (w : Value) : Inside w (.dict [(key, body)]) ↔ Among w children := by
  constructor
  · rintro ⟨key', body', children', hv, -, hbody', hchild⟩
    cases hv
    rw [hbody] at hbody'
    cases hbody'
    exact hchild
  · exact fun hchild => ⟨key, body, children, rfl, hrecognised, hbody, hchild⟩

/-- An item itself is passed over, or what it combines and what is inside of that is, given that
this holds of the list that it combines. -/
theorem mem_skipped_read_iff {v : Value}
    (hchildren : ∀ key body children, v = .dict [(key, body)] → body.items? = some children →
      ∀ w, w ∈ (readAll children).2 ↔ Among w children ∧ isRecognised w = false) (w : Value) :
    w ∈ (read v).2 ↔ (w = v ∨ Inside w v) ∧ isRecognised w = false := by
  cases read_cases v with
  | skipped hshape hread =>
    rw [hread, List.mem_singleton]
    constructor
    · rintro rfl
      exact ⟨Or.inl rfl, hshape⟩
    · rintro ⟨hw | ⟨_, _, _, _, hrecognised, _⟩, _⟩
      · exact hw
      · rw [hshape] at hrecognised
        cases hrecognised
  | single hshape hplain hreads hread =>
    simp only [hread, List.not_mem_nil, false_iff]
    rintro ⟨rfl | ⟨_, _, _, hv, _⟩, hw⟩
    · rw [hshape] at hw
      cases hw
    · exact hplain _ hv
  | @combination key combinator body children hv hkey hbody hread =>
    subst hv
    have hshape := isRecognised_combination hkey hbody
    rw [hread, hchildren _ body children rfl hbody, inside_combination_iff hshape hbody]
    refine and_congr_left fun hw => ⟨Or.inr, ?_⟩
    rintro (rfl | hchild)
    · rw [hshape] at hw
      cases hw
    · exact hchild

/-- What is passed over are the items, at any depth, that are not recognised. -/
theorem mem_skipped_iff (w : Value) (items : List Value) :
    w ∈ (readAll items).2 ↔ Among w items ∧ isRecognised w = false := by
  induction items using items_induction generalizing w with
  | nil =>
    simp only [readAll, List.not_mem_nil, false_iff]
    rintro ⟨h, -⟩
    cases h <;> contradiction
  | cons v rest ihchildren ih =>
    simp only [readAll, List.mem_append]
    rw [mem_skipped_read_iff ihchildren, ih, among_cons_iff, ← or_and_right, or_assoc]

/-- An item is read as a condition alone exactly if it stands for it, given that this holds of the
items that it combines. -/
theorem read_eq_iff {v : Value}
    (hchildren : ∀ key body children, v = .dict [(key, body)] → body.items? = some children →
      ∀ conditions, readAll children = (conditions, []) ↔
        List.Forall₂ Reads children conditions) (c : Condition) :
    read v = (some c, []) ↔ Reads v c := by
  constructor
  · intro h
    cases read_cases v with
    | skipped hshape hread => simp [hread] at h
    | single hshape hplain hreads hread =>
      rw [hread] at h
      cases h
      exact hreads
    | @combination key combinator body children hv hkey hbody hread =>
      rw [hread, Prod.mk.injEq] at h
      obtain ⟨hc, hnone⟩ := h
      cases hc
      subst hv
      exact .combination hkey hbody ((hchildren _ _ _ rfl hbody _).mp (Prod.ext rfl hnone))
  · intro h
    cases h with
    | comparison hitems => cases v <;> cases hitems <;> rfl
    | combination hkey hbody hforall =>
      rw [read_combination hkey hbody, (hchildren _ _ _ rfl hbody _).mpr hforall]
    | _ => rfl

/-- An item that is not passed over gives a condition. -/
theorem exists_of_skipped_nil {v : Value} (h : (read v).2 = []) : ∃ c, read v = (some c, []) := by
  cases read_cases v with
  | skipped hshape hread => simp [hread] at h
  | single hshape hplain hreads hread => exact ⟨_, hread⟩
  | combination hv hkey hbody hread =>
    rw [hread] at h
    exact ⟨_, hread.trans (Prod.ext rfl h)⟩

theorem readAll_cons_iff (v : Value) (rest : List Value) (conditions : List Condition) :
    readAll (v :: rest) = (conditions, []) ↔
      ∃ c others, read v = (some c, []) ∧ readAll rest = (others, []) ∧
        conditions = c :: others := by
  constructor
  · intro h
    simp only [readAll, Prod.mk.injEq, List.append_eq_nil_iff] at h
    obtain ⟨hconditions, hv, hrest⟩ := h
    obtain ⟨c, hc⟩ := exists_of_skipped_nil hv
    rw [hc] at hconditions
    exact ⟨c, _, hc, Prod.ext rfl hrest, hconditions.symm⟩
  · rintro ⟨c, others, hc, hrest, rfl⟩
    simp only [readAll, hc, hrest, Option.toList, List.cons_append, List.nil_append]

/-- Nothing is passed over exactly if each item stands for one condition. -/
theorem readAll_eq_iff (items : List Value) (conditions : List Condition) :
    readAll items = (conditions, []) ↔ List.Forall₂ Reads items conditions := by
  induction items using items_induction generalizing conditions with
  | nil => simp [readAll, eq_comm]
  | cons v rest ihchildren ih =>
    rw [readAll_cons_iff, List.forall₂_cons_left_iff]
    refine exists_congr fun c => exists_congr fun others => ?_
    rw [read_eq_iff ihchildren, ih]

theorem isWritable_of_mem {items : List Value} {v : Value} (h : Value.isWritableAll items)
    (hv : v ∈ items) : v.isWritable := by
  induction items with
  | nil => cases hv
  | cons first rest ih =>
    rw [Value.isWritableAll, Bool.and_eq_true] at h
    rcases List.mem_cons.mp hv with rfl | hv
    · exact h.1
    · exact ih h.2 hv

/-- What stands in a list whose integers can all be written can be written. -/
theorem Among.isWritable {items : List Value} {v : Value} (hv : Among v items)
    (h : Value.isWritableAll items) : v.isWritable := by
  induction hv with
  | item hmem => exact isWritable_of_mem h hmem
  | @child _ children key body hmem _ hbody _ ih =>
    have hmapping := isWritable_of_mem h hmem
    simp only [Value.isWritable, Value.isWritableEntries, Bool.and_true,
      Bool.and_eq_true] at hmapping
    refine ih ?_
    cases body <;> cases hbody <;> exact hmapping.2

theorem readAll_prune (items : List Value) : readAll (prune items) = ((readAll items).1, []) := by
  induction items using items_induction with
  | nil => rfl
  | cons v rest ihchildren ih =>
    cases read_cases v with
    | skipped hshape hread => simp [prune, hshape, ih, readAll, hread]
    | single hshape hplain hreads hread =>
      have hsame : pruneChildren v = v := by
        cases v <;> first | rfl | exact absurd rfl (hplain _)
      simp [prune, hshape, hsame, readAll, hread, ih]
    | @combination key combinator body children hv hkey hbody hread =>
      have hshape : isRecognised v = true := hv ▸ isRecognised_combination hkey hbody
      have hpruned : read (pruneChildren v) =
          (some (.group combinator (readAll (prune children)).1),
            (readAll (prune children)).2) := by
        subst hv
        cases body <;> cases hbody <;> exact read_combination hkey rfl
      simp [prune, hshape, readAll, hpruned, hread, ih, ihchildren _ body children hv hbody]

end Condition

namespace ConditionList

open Condition

/-- Strict reading fails on the first item that is passed over, if there is one. -/
theorem ofItems_strict_error (items : List Value) :
    (ofItems true items).error =
      (readAll items).2.head?.map fun item => (Error.unrecognisedCondition item).raised := by
  unfold ofItems accept
  rcases readAll items with ⟨conditions, _ | ⟨item, rest⟩⟩ <;> rfl

theorem ofItems_strict_ok_iff (items : List Value) (conditions : List Condition) :
    ofItems true items = ⟨conditions, [], none⟩ ↔ readAll items = (conditions, []) := by
  unfold ofItems accept
  rcases readAll items with ⟨read, _ | ⟨item, rest⟩⟩ <;> simp

/-- Strict reading fails exactly on a list with an item that is not recognised, at whatever depth,
with an error that shows the item if its integers can be written, and gives one condition for each
item of any other list. Lenient reading does not fail, and is strict reading of the list without the
items that are not recognised. -/
theorem recognised_items (items : List Value) :
    ((∃ item, (ofItems true items).error = some (Error.unrecognisedCondition item).raised ∧
        Among item items ∧ isRecognised item = false) ↔
      ∃ item, Among item items ∧ isRecognised item = false) ∧
    (Value.isWritableAll items → ∀ item, Among item items →
      (Error.unrecognisedCondition item).raised = .unrecognisedCondition item) ∧
    ((ofItems true items).error = none ↔ ¬∃ item, Among item items ∧ isRecognised item = false) ∧
    (∀ conditions, ofItems true items = ⟨conditions, [], none⟩ ↔
      List.Forall₂ Reads items conditions) ∧
    (ofItems false items).error = none ∧
    ofItems true (prune items) = ⟨(ofItems false items).conditions, [], none⟩ := by
  have hlost (item : Value) (h : item ∈ (readAll items).2) :
      Among item items ∧ isRecognised item = false := (mem_skipped_iff item items).mp h
  have hfail : ∀ item, Among item items ∧ isRecognised item = false →
      ∃ first, (ofItems true items).error = some (Error.unrecognisedCondition first).raised ∧
        Among first items ∧ isRecognised first = false := by
    intro item hitem
    have hmem := (mem_skipped_iff item items).mpr hitem
    rw [ofItems_strict_error]
    cases hskipped : (readAll items).2 with
    | nil => simp [hskipped] at hmem
    | cons first rest => exact ⟨first, rfl, hlost first (by simp [hskipped])⟩
  refine ⟨⟨?_, fun ⟨item, hitem⟩ => hfail item hitem⟩, ?_, ?_, ?_, rfl, ?_⟩
  · rintro ⟨item, _, hitem⟩
    exact ⟨item, hitem⟩
  · intro hwritable item hitem
    exact if_pos (by simp [Error.shown, hitem.isWritable hwritable])
  · constructor
    · rintro hnone ⟨item, hitem⟩
      obtain ⟨first, herror, -⟩ := hfail item hitem
      rw [hnone] at herror
      cases herror
    · intro hall
      rw [ofItems_strict_error]
      cases hskipped : (readAll items).2 with
      | nil => rfl
      | cons first rest => exact absurd ⟨first, hlost first (by simp [hskipped])⟩ hall
  · intro conditions
    rw [ofItems_strict_ok_iff, readAll_eq_iff]
  · rw [ofItems_strict_ok_iff, readAll_prune]
    rfl

example :
    prune [.dict [(.text "And", .list [.int 1, .text "a = 1"])], .list [.text "a", .text "="]] =
      [.dict [(.text "And", .list [.text "a = 1"])]] := by rfl

end ConditionList

end SqlDraft
