import SqlDraft.Payload
import SqlDraft.Proofs.Json.Unreadable

/-!
Payloads that are rejected before anything is declared. Callers get a report of that with what was
rejected, unless the octets are no text or an integer in the text has too many digits.
-/
namespace SqlDraft

/-- Whether callers are told that `given` could not be read. -/
def Error.ParsingOf (e : Error) (given : Value) : Prop :=
  (∃ report, e.report? = some report ∧ report.kind = .parsing) ∧ e.source? = some given

namespace Payload

/-- What is rejected: the payload where it is not read, else what was read from it. -/
def subject (payload : Value) : Value :=
  match decode payload with
  | .ok p => p
  | .error _ => payload

theorem subject_of_ok {payload p : Value} (h : decode payload = .ok p) : subject payload = p := by
  rw [subject, h]

theorem subject_of_error {payload : Value} {e : Error} (h : decode payload = .error e) :
    subject payload = payload := by
  rw [subject, h]

/-- The text a payload is read from. One with a byte order mark is not read. -/
def characters? : Value → Option (List Char)
  | .text s => if s.toList.head? = some '\uFEFF' then none else some s.toList
  | .octets bytes => (Text.decode bytes).toOption
  | _ => none

/-- How reading fails without a report. -/
inductive Unread : Value → Error → Prop where
  | undecodable {bytes : List UInt8} {fault : Text.EncodingFault}
      (hbytes : Text.decode bytes = .error fault) : Unread (.octets bytes) (.undecodable fault)
  /-- The reader stops on digits of the text, more in a row than an integer may have. -/
  | numeral {payload : Value} {chars digits : List Char} (hchars : characters? payload = some chars)
      (hread : Json.readAll chars = .error (.numeral (.tooLong digits.length)))
      (hdigits : digits <:+: chars) (hall : digits.all Char.isDigit)
      (hlong : Numeral.digitLimit < digits.length) :
      Unread payload (.numeral (.tooLong digits.length))

theorem decode_of_characters {payload : Value} {chars : List Char}
    (h : characters? payload = some chars) :
    decode payload = match Json.readAll chars with
      | .ok v => .ok v
      | .error (.problem p offset) =>
        .error (.malformedJson (Json.Fault.locate chars p offset) payload)
      | .error (.numeral fault) => .error (.numeral fault) := by
  cases payload with
  | text s =>
    rw [characters?] at h
    by_cases hmark : s.toList.head? = some '\uFEFF'
    · rw [if_pos hmark] at h
      cases h
    · rw [if_neg hmark] at h
      obtain rfl : s.toList = chars := Option.some.inj h
      simp only [decode, Json.read_of_unmarked hmark, Json.readChars]
      rcases Json.readAll s.toList with (_ | _) | _ <;> rfl
  | octets bytes =>
    rw [characters?] at h
    cases hbytes : Text.decode bytes with
    | error fault =>
      rw [hbytes] at h
      cases h
    | ok read =>
      rw [hbytes] at h
      obtain rfl : read = chars := Option.some.inj h
      simp only [decode, Json.readOctets, hbytes, Json.readChars]
      rcases Json.readAll read with (_ | _) | _ <;> rfl
  | _ => cases h

/-- A text without a byte order mark is read as JSON. -/
theorem decode_of_unmarked {s : String} (h : s.toList.head? ≠ some '\uFEFF') :
    decode (.text s) = match Json.readAll s.toList with
      | .ok v => .ok v
      | .error (.problem p offset) =>
        .error (.malformedJson (Json.Fault.locate s.toList p offset) (.text s))
      | .error (.numeral fault) => .error (.numeral fault) :=
  decode_of_characters (if_neg h)

theorem decode_error_cases {payload : Value} {e : Error} (h : decode payload = .error e) :
    (∃ fault, e = .malformedJson fault payload) ∨ Unread payload e := by
  cases hchars : characters? payload with
  | some chars =>
    rw [decode_of_characters hchars] at h
    split at h
    · cases h
    · cases h
      exact Or.inl ⟨_, rfl⟩
    · next fault hread =>
      cases h
      cases Json.causedBy_of_readAll hread with
      | numeral hdigits hall hlong => exact Or.inr (.numeral hchars hread hdigits hall hlong)
  | none =>
    cases payload with
    | text s =>
      by_cases hmark : s.toList.head? = some '\uFEFF'
      · simp only [decode, Json.read_of_marked hmark] at h
        cases h
        exact Or.inl ⟨_, rfl⟩
      · rw [characters?, if_neg hmark] at hchars
        cases hchars
    | octets bytes =>
      rw [characters?] at hchars
      cases hbytes : Text.decode bytes with
      | error fault =>
        simp only [decode, Json.readOctets, hbytes] at h
        cases h
        exact Or.inr (.undecodable hbytes)
      | ok read =>
        rw [hbytes] at hchars
        cases hchars
    | _ => cases h

theorem decode_of_unread {payload : Value} {e : Error} (h : Unread payload e) :
    decode payload = .error e := by
  cases h with
  | undecodable hbytes => simp only [decode, Json.readOctets, hbytes]
  | numeral hchars hread => rw [decode_of_characters hchars, hread]

theorem report?_of_unread {payload : Value} {e : Error} (h : Unread payload e) :
    e.report? = none := by
  cases h with
  | _ => rfl

theorem unread_iff (payload : Value) (e : Error) :
    Unread payload e ↔ decode payload = .error e ∧ e.report? = none := by
  refine ⟨fun h => ⟨decode_of_unread h, report?_of_unread h⟩, ?_⟩
  rintro ⟨hdecode, hreport⟩
  rcases decode_error_cases hdecode with ⟨fault, rfl⟩ | hunread
  · cases hreport
  · exact hunread

/-- An integer with too many digits is not read, be it by itself or behind brackets that open lists,
however many and though none is closed. -/
theorem unread_of_digits {s : String} {digits : List Char} (depth : Nat)
    (hs : s.toList = List.replicate depth '[' ++ digits) (hall : digits.all Char.isDigit)
    (hzero : digits.head? ≠ some '0') (hlong : Numeral.digitLimit < digits.length) :
    Unread (.text s) (.numeral (.tooLong digits.length)) := by
  have hmark : s.toList.head? ≠ some '\uFEFF' := by
    intro hhead
    have hmem := List.mem_of_head? hhead
    rw [hs, List.mem_append] at hmem
    rcases hmem with hbracket | hdigit
    · cases List.eq_of_mem_replicate hbracket
    · cases List.all_eq_true.mp hall _ hdigit
  have hchars : characters? (.text s) = some s.toList := by
    rw [characters?, if_neg hmark]
  refine .numeral hchars ?_ ?_ hall hlong
  · rw [hs]
    exact Json.readAll_tooLong hall hzero hlong depth
  · rw [hs]
    exact (List.suffix_append _ _).isInfix

theorem check_error {p : Value} {e : Error} (h : check p = .error e) :
    ∃ faults, e = .invalidPayload faults p := by
  unfold check at h
  split at h
  · cases h
  · cases h
  · cases h
    exact ⟨_, rfl⟩

/-- A payload that is not read, or whose value does not have the shape of a statement, is rejected
as one that could not be read, unless it is unread for its octets or its digits. -/
theorem build_rejected_iff (strict : Bool) (operators : OperatorTable) {payload : Value} {e : Error}
    (h : (decode payload >>= check) = .error e) :
    build strict operators payload = (.error e, []) ∧
      (e.ParsingOf (subject payload) ↔ ¬Unread payload e) := by
  have hbuild : build strict operators payload = (.error e, []) := by
    simp only [build, h]
  refine ⟨hbuild, ?_, fun hread => ?_⟩
  · rintro ⟨⟨report, hreport, -⟩, -⟩ hunread
    rw [report?_of_unread hunread] at hreport
    cases hreport
  · cases hdecode : decode payload with
    | error fault =>
      rw [hdecode] at h
      cases h
      obtain ⟨fault, rfl⟩ := (decode_error_cases hdecode).resolve_right hread
      rw [subject_of_error hdecode]
      exact ⟨⟨_, rfl, rfl⟩, rfl⟩
    | ok p =>
      rw [hdecode] at h
      obtain ⟨faults, rfl⟩ := check_error h
      rw [subject_of_ok hdecode]
      exact ⟨⟨_, rfl, rfl⟩, rfl⟩

/-- A text that is no JSON is reported, an octet that starts no character is not. -/
theorem build_notJson :
    let malformed : Value := .text "\x7bnot json"
    let undecodable : Value := .octets [0xFF]
    let fault : Text.EncodingFault := ⟨.utf8, .invalidStart, 0, 1, 0xFF⟩
    (∃ e, build false .standard malformed = (.error e, []) ∧ e.ParsingOf malformed) ∧
      build false .standard undecodable = (.error (.undecodable fault), []) ∧
      ¬Error.ParsingOf (.undecodable fault) undecodable := by
  intro malformed undecodable fault
  let problem : Json.Fault := .locate "\x7bnot json".toList .nameExpected 1
  have hmalformed : decode malformed = .error (.malformedJson problem malformed) :=
    (decode_of_unmarked (by decide)).trans rfl
  have hbytes : Text.decode [0xFF] = .error fault := by rfl
  have hunread : Unread undecodable (.undecodable fault) := .undecodable hbytes
  have hundecodable : decode undecodable = .error (.undecodable fault) := decode_of_unread hunread
  have hfirst : (decode malformed >>= check) = .error (.malformedJson problem malformed) := by
    rw [hmalformed]
    rfl
  have hsecond : (decode undecodable >>= check) = .error (.undecodable fault) := by
    rw [hundecodable]
    rfl
  obtain ⟨hbuild, hparsing⟩ := build_rejected_iff false .standard hfirst
  obtain ⟨hbuild', hparsing'⟩ := build_rejected_iff false .standard hsecond
  rw [subject_of_error hmalformed] at hparsing
  rw [subject_of_error hundecodable] at hparsing'
  refine ⟨⟨_, hbuild, hparsing.mpr ?_⟩, hbuild', fun h => hparsing'.mp h hunread⟩
  intro h
  cases report?_of_unread h

end Payload

end SqlDraft
