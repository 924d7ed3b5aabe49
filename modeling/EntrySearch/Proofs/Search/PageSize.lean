import EntrySearch.Proofs.Decimal.Padding
import EntrySearch.Proofs.Search.Permissiveness
import EntrySearch.Proofs.Search.Reordering
import EntrySearch.Proofs.Settings.Validity

/-!
# The size of a page

A page has as many entries as the first text for the limit asks for, or the usual number if that
text is no number of entries, but never more than the greatest number. Nothing else decides about
the size, and the limit decides about nothing else.
-/

namespace EntrySearch

open Outcome

namespace Decimal

/-- A text writes an integer with digits behind at most one sign, and with nothing else. -/
def Writes (text : String) (n : Int) : Prop :=
  ∃ sign ∈ [[], ['-'], ['+']], ∃ ds : List Char, text.toList = sign ++ ds ∧ ds ≠ [] ∧
    (∀ c ∈ ds, c.isDigit = true) ∧ n = signed (sign = ['-']) (Nat.ofDigitChars 10 ds 0)

theorem writes_iff {text : String} {n : Int} :
    Writes text n ↔ isSignedDigits text.toList = true ∧
      n = signed (splitSign text.toList).1 (ofDigits (splitSign text.toList).2) := by
  rw [isSignedDigits_iff]
  constructor
  · rintro ⟨sign, known, ds, text_eq, filled, digits, rfl⟩
    rw [text_eq, splitSign_append known digits, ofDigits_eq_ofDigitChars]
    exact ⟨⟨filled, digits⟩, rfl⟩
  · rintro ⟨⟨filled, digits⟩, rfl⟩
    obtain ⟨sign, known, text_eq⟩ := exists_sign_splitSign text.toList
    have split_eq := splitSign_append known digits
    rw [← text_eq] at split_eq
    refine ⟨sign, known, _, text_eq, filled, digits, ?_⟩
    have sign_eq : (splitSign text.toList).1 = decide (sign = ['-']) := congrArg Prod.fst split_eq
    rw [← ofDigits_eq_ofDigitChars, sign_eq]

theorem readInteger_eq_of_no_fault {cs : List Char} (short : fault? (readInteger cs) = none) :
    readInteger cs = .ok (signed (splitSign cs).1 (ofDigits (splitSign cs).2)) := by
  rw [fault?_readInteger, ite_eq_right_iff] at short
  have fits : ¬digitLimit < (splitSign cs).2.length := fun long => nomatch short long
  exact if_neg fits

end Decimal

namespace Parameters

/-- The first text for the limit writes a number of entries that can be asked for. -/
def AsksFor (raw : Parameters) (n : Nat) : Prop :=
  ∃ text ∈ (raw.valuesOf "limit").head?, Decimal.Writes text n ∧ n < 2 ^ 31

/-- Parameters without those for the limit. -/
def withoutLimit (raw : Parameters) : Parameters :=
  raw.filter fun entry => normalKey entry.1 ≠ "limit"

theorem valuesOf_limit_withoutLimit (raw : Parameters) :
    raw.withoutLimit.valuesOf "limit" = [] := by
  refine List.flatMap_eq_nil_iff.mpr fun entry member => if_neg ?_
  exact of_decide_eq_true (List.mem_filter.mp member).2

end Parameters

/-- Parameters without those for the limit, their values being of any kind. -/
def RawParameters.withoutLimit (given : RawParameters) : RawParameters :=
  given.filter fun entry => Parameters.normalKey entry.1 ≠ "limit"

namespace Criteria

/-- A limit that is not too long is the number that it writes, if so many can be asked for. -/
theorem limit?_eq_some_iff {text : String} (short : tooLong? text = none) {n : Nat} :
    limit? text = some n ↔ Decimal.Writes text n ∧ n < 2 ^ 31 := by
  rw [Decimal.writes_iff]
  rw [tooLong?] at short
  rw [limit?]
  by_cases shaped : Decimal.isSignedDigits text.toList = true
  · rw [if_pos shaped] at short
    rw [if_pos shaped, Decimal.readInteger_eq_of_no_fault short, toOption_ok, Option.bind_some]
    generalize Decimal.signed _ _ = m
    rw [Option.ite_none_left_eq_some, greatestLimit, Option.some.injEq]
    constructor
    · rintro ⟨inside, rfl⟩
      exact ⟨⟨shaped, by omega⟩, by omega⟩
    · rintro ⟨⟨-, rfl⟩, small⟩
      exact ⟨by omega, Int.toNat_natCast n⟩
  · simp [shaped]

variable {raw : Parameters}

theorem limit_asked (zone : Time.Zone) (raw : Parameters) :
    (asked zone raw).limit = (raw.valuesOf "limit").head?.bind limit? := by
  rw [asked_eq]

theorem tooLong?_eq_none_of_not_refused (accepted : refused? raw = none) {text : String}
    (first : text ∈ (raw.valuesOf "limit").head?) : tooLong? text = none := by
  have given : text ∈ raw.valuesOf "limit" := List.mem_of_mem_head? first
  have known : "limit" ∈ raw.firstKeys :=
    Parameters.mem_firstKeys_iff.mpr (List.ne_nil_of_mem given)
  rw [refused?_eq, List.findSome?_eq_none_iff] at accepted
  have quiet := accepted "limit" known
  rwa [refusalAt?_limit, Option.mem_def.mp first, Option.map_eq_none_iff] at quiet

theorem limit_asked_eq_some_iff (zone : Time.Zone) (accepted : refused? raw = none) {n : Nat} :
    (asked zone raw).limit = some n ↔ raw.AsksFor n := by
  rw [limit_asked, Option.bind_eq_some_iff]
  refine exists_congr fun text => and_congr_right fun first => ?_
  exact limit?_eq_some_iff (tooLong?_eq_none_of_not_refused accepted first)

theorem asked_withoutLimit (zone : Time.Zone) (raw : Parameters) :
    asked zone raw.withoutLimit = { asked zone raw with limit := none } := by
  have others : ∀ key, key ≠ "limit" → raw.withoutLimit.valuesOf key = raw.valuesOf key :=
    fun key other => Parameters.valuesOf_filter (· ≠ "limit") (decide_eq_true other) raw
  have either : raw.withoutLimit.valuesOfEither "description" "desc" =
      raw.valuesOfEither "description" "desc" :=
    Parameters.valuesOfEither_filter (· ≠ "limit") (by decide) (by decide) raw
  have flags : ∀ key, key ≠ "limit" →
      (key ∈ raw.withoutLimit.givenKeys ↔ key ∈ raw.givenKeys) := by
    intro key other
    rw [Parameters.mem_givenKeys_iff, Parameters.mem_givenKeys_iff, others key other]
  rw [asked_eq, asked_eq, either, Parameters.valuesOf_limit_withoutLimit]
  simp (disch := decide) only [others, flags, List.head?_nil, Option.bind_none]

theorem refused?_withoutLimit (accepted : refused? raw = none) :
    refused? raw.withoutLimit = none := by
  rw [refused?_eq, List.findSome?_eq_none_iff] at accepted ⊢
  intro key known
  rw [Parameters.mem_firstKeys_iff] at known
  have other : key ≠ "limit" := by
    rintro rfl
    exact known (Parameters.valuesOf_limit_withoutLimit raw)
  have same : raw.withoutLimit.valuesOf key = raw.valuesOf key :=
    Parameters.valuesOf_filter (· ≠ "limit") (decide_eq_true other) raw
  rw [same] at known ⊢
  exact accepted key (Parameters.mem_firstKeys_iff.mpr known)

theorem size_bounds (criteria : Criteria) {policy : Policy} (usual : 1 ≤ policy.defaultSize)
    (greatest : 1 ≤ policy.maxSize) :
    0 ≤ criteria.size policy ∧ criteria.size policy ≤ policy.maxSize ∧
      (criteria.size policy = 0 → criteria.limit = some 0) := by
  rw [size]
  cases criteria.limit with
  | none =>
      simp only [Option.elim_none, reduceCtorEq]
      omega
  | some limit =>
      simp only [Option.elim_some, Option.some.injEq]
      omega

end Criteria

/-- The size of a page is what the first text for the limit asks for, or else the usual one, and at
most the greatest one. The limit decides about nothing else. With settings that are accepted a page
is empty only if that is asked for. -/
theorem Policy.size_of_compiled (policy : Policy) (zone : Time.Zone) (now : Present)
    (given : RawParameters) (request : Request)
    (compiled : (policy.compileRaw zone (now.resolve zone) given).outcome = .ok request) :
    ∃ raw, Parameters.ofRaw given = .ok raw ∧
      (∀ n, raw.AsksFor n → request.size = min (n : Int) policy.maxSize) ∧
      ((∀ n, ¬raw.AsksFor n) → request.size = min policy.defaultSize policy.maxSize) ∧
      (∃ other,
        (policy.compileRaw zone (now.resolve zone) given.withoutLimit).outcome = .ok other ∧
          request = { other with size := request.size }) ∧
      (Settings.checkSearch policy = .ok () →
        0 ≤ request.size ∧ request.size ≤ policy.maxSize ∧
          (request.size = 0 → raw.AsksFor 0)) := by
  obtain ⟨raw, read, accepted, rfl⟩ := Policy.outcome_compileRaw_eq_ok_iff.mp compiled
  have asks_iff := @Criteria.limit_asked_eq_some_iff raw zone accepted
  refine ⟨raw, read, ?_, ?_, ?_, ?_⟩
  · intro n asks
    have limit_eq := asks_iff.mpr asks
    rw [Criteria.assembled, Criteria.size, limit_eq, Option.elim_some]
  · intro asks_nothing
    have limit_eq : (Criteria.asked zone raw).limit = none :=
      Option.eq_none_iff_forall_ne_some.mpr fun n asks => asks_nothing n (asks_iff.mp asks)
    rw [Criteria.assembled, Criteria.size, limit_eq, Option.elim_none]
  · refine ⟨_, Policy.outcome_compileRaw_eq_ok_iff.mpr ⟨raw.withoutLimit, ?_,
      Criteria.refused?_withoutLimit accepted, rfl⟩, ?_⟩
    · exact Parameters.ofRaw_filter (· ≠ "limit") read
    · rw [Criteria.asked_withoutLimit]
      rfl
  · intro checked
    obtain ⟨-, usual, greatest⟩ := Settings.checkSearch_eq_ok checked
    obtain ⟨least, most, empty⟩ := (Criteria.asked zone raw).size_bounds usual greatest
    exact ⟨least, most, fun zero => asks_iff.mp (empty zero)⟩

/-- Limits under keys that mean the same, the first of them without a text. -/
def collidingLimits : GivenParameters :=
  [("limit", .list []),
    (" Limit", .list ["+007", "-1"]),
    ("level", .text "info"),
    ("LIMIT", .text "9")]

theorem Policy.size_of_collidingLimits :
    let policy : Policy := { defaultSize := 2000, maxSize := 5 }
    let request : Request :=
      { index := "olog_logs*"
        query := .all [.any [.wildcard "level" "info"]]
        sort := [⟨"createdDate", .descending⟩]
        offset := 0
        size := 5
        seconds := 60 }
    (policy.compileRaw .utc Time.Moment.epoch collidingLimits.toRaw).outcome = .ok request ∧
      collidingLimits.texts.AsksFor 7 ∧ Settings.checkSearch policy = .ok () ∧
      ∃ raw, Parameters.ofRaw collidingLimits.toRaw = .ok raw ∧
        (∀ n, raw.AsksFor n → request.size = min (n : Int) policy.maxSize) ∧
        ((∀ n, ¬raw.AsksFor n) → request.size = min policy.defaultSize policy.maxSize) ∧
        (∃ other, (policy.compileRaw .utc Time.Moment.epoch
            collidingLimits.toRaw.withoutLimit).outcome = .ok other ∧
          request = { other with size := request.size }) ∧
        (Settings.checkSearch policy = .ok () →
          0 ≤ request.size ∧ request.size ≤ policy.maxSize ∧
            (request.size = 0 → raw.AsksFor 0)) := by
  intro policy request
  have writes : Decimal.Writes "+007" (7 : Nat) :=
    ⟨['+'], by decide, ['0', '0', '7'], rfl, by decide, by simp [Char.isDigit], rfl⟩
  have checked : Settings.checkSearch policy = .ok () := by
    rw [Settings.checkSearch_eq, if_neg (by decide), if_neg (by decide), if_neg (by decide)]
  refine ⟨rfl, ⟨"+007", rfl, writes, by decide⟩, checked, ?_⟩
  exact Policy.size_of_compiled policy .utc (.moment Time.Moment.epoch) collidingLimits.toRaw
    request rfl

end EntrySearch
