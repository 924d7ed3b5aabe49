import EntrySearch.Proofs.Search.PageSize
import EntrySearch.Proofs.Search.TimeClause
import EntrySearch.Proofs.Traces

/-!
# The account of a compilation

What a compilation writes to the journal tells what it passed over: keys that are not known, a limit
that is no number of entries, and a time that bounds nothing. The last record counts the clauses of
the request and the entries of its page. A compilation that is refused has written about the keys
before the refused one, and about nothing else.
-/

namespace EntrySearch

open Outcome

namespace Decimal

/-- The integer that a text writes, if it writes one. -/
def valueOf (text : String) : Int :=
  signed (splitSign text.toList).1 (ofDigits (splitSign text.toList).2)

theorem writes_iff_valueOf {text : String} {n : Int} :
    Writes text n ↔ isSignedDigits text.toList = true ∧ n = valueOf text :=
  writes_iff

theorem readInteger_eq_valueOf {text : String} (short : fault? (readInteger text.toList) = none) :
    readInteger text.toList = .ok (valueOf text) :=
  readInteger_eq_of_no_fault short

theorem exists_writes_iff {text : String} :
    (∃ n, Writes text n) ↔ isSignedDigits text.toList = true := by
  simp only [writes_iff, exists_and_left, exists_eq, and_true]

instance (text : String) : Decidable (∃ n, Writes text n) :=
  decidable_of_iff _ exists_writes_iff.symm

end Decimal

/-- The record about a span that is empty or runs backwards. -/
def Span.dropped (span : Span) : Record :=
  ⟨.debug,
    s!"Dropping temporal filter: start={span.start.text} is not before end={span.finish.text}"⟩

/-- The record about a request with so many clauses, for a page of so many entries. -/
def Record.compiled (clauses : Nat) (size : Int) : Record :=
  ⟨.debug, s!"Compiled search: clauses={clauses} size={size}"⟩

namespace Criteria

/-- A text writes a number of entries that can be asked for. -/
def IsLimit (text : String) : Prop :=
  ∃ n : Nat, Decimal.Writes text n ∧ n < 2 ^ 31

/-- A text is a limit if it writes an integer that is a number of entries. -/
theorem isLimit_iff {text : String} :
    IsLimit text ↔ Decimal.isSignedDigits text.toList = true ∧
      ¬(Decimal.valueOf text < 0 ∨ greatestLimit < Decimal.valueOf text) := by
  simp only [IsLimit, Decimal.writes_iff_valueOf, greatestLimit]
  constructor
  · rintro ⟨n, ⟨shaped, value⟩, small⟩
    exact ⟨shaped, by omega⟩
  · rintro ⟨shaped, inside⟩
    exact ⟨(Decimal.valueOf text).toNat, ⟨shaped, by omega⟩, by omega⟩

instance (text : String) : Decidable (IsLimit text) :=
  decidable_of_iff _ isLimit_iff.symm

/-- What is written about a text that is given as the limit and is none. -/
def rejection? (text : String) : Option Record :=
  if IsLimit text then none
  else if ∃ n, Decimal.Writes text n then
    some ⟨.warning, s!"Encountered out-of-range 'limit' value: {text}"⟩
  else some ⟨.warning, s!"Encountered unparsable 'limit' value: {Text.quoted text}"⟩

/-- What is written about a normal key with its texts. -/
def remark? (entry : String × List String) : Option Record :=
  if entry.1 ∉ Parameter.supported then
    some ⟨.debug, s!"Ignoring unsupported search parameter: {entry.1}"⟩
  else if entry.1 = "limit" then entry.2.head?.bind rejection?
  else none

theorem trace_limitOf {text : String} (short : tooLong? text = none) :
    (limitOf text).trace = (rejection? text).toList := by
  unfold limitOf rejection?
  by_cases shaped : Decimal.isSignedDigits text.toList = true
  · rw [tooLong?, if_pos shaped] at short
    simp only [isLimit_iff, Decimal.exists_writes_iff, shaped, true_and,
      Decimal.readInteger_eq_valueOf short]
    by_cases outside : Decimal.valueOf text < 0 ∨ greatestLimit < Decimal.valueOf text
    · simp [outside, Except.mapError, Traced.note, Traced.emit]
    · simp [outside, Except.mapError]
  · simp [isLimit_iff, Decimal.exists_writes_iff, shaped, Traced.note, Traced.emit]

theorem trace_limitOf_of_tooLong {text : String} {fault : Decimal.TooManyDigits}
    (long : tooLong? text = some fault) : (limitOf text).trace = [] := by
  unfold limitOf
  by_cases shaped : Decimal.isSignedDigits text.toList = true
  · rw [tooLong?, if_pos shaped, fault?_eq_some_iff] at long
    simp [shaped, long, Except.mapError, Traced.fail]
  · simp [tooLong?, shaped] at long

variable (zone : Time.Zone) (criteria : Criteria)

theorem trace_absorb {parameter : Parameter} (unlimited : parameter ≠ .limit)
    (values : List String) : (criteria.absorb zone parameter values).trace = [] := by
  cases parameter with
  | start | finish => exact Traced.trace_ofExcept_bind _ fun _ => rfl
  | limit => exact absurd rfl unlimited
  | _ => rfl

theorem trace_absorb_limit (value : String) (rest : List String) :
    (criteria.absorb zone .limit (value :: rest)).trace = (limitOf value).trace := by
  simp only [absorb]
  generalize limitOf value = made
  obtain ⟨trace, fault | asked⟩ := made
  · rfl
  · cases asked <;> exact List.append_nil trace

/-- Taking up a key writes the remark on it, and nothing else. -/
theorem trace_absorbKey {entry : String × List String} (accepted : refusalAt? entry = none) :
    (criteria.absorbKey zone entry.1 entry.2).trace = (remark? entry).toList := by
  obtain ⟨key, values⟩ := entry
  rw [absorbKey, remark?]
  cases known : Parameter.ofKey? key with
  | none =>
      have unknown : key ∉ Parameter.supported := by simp [Parameter.mem_supported_iff, known]
      rw [if_pos unknown]
      rfl
  | some parameter =>
      have supported : key ∈ Parameter.supported := Parameter.mem_supported_iff.mpr ⟨_, known⟩
      rw [if_neg (not_not_intro supported)]
      by_cases limited : key = "limit"
      · subst limited
        obtain rfl : Parameter.limit = parameter := Option.some.inj known
        rw [if_pos rfl]
        cases values with
        | nil => rfl
        | cons value rest =>
            have short : tooLong? value = none := by
              simpa [refusalAt?_limit] using accepted
            exact (trace_absorb_limit zone criteria value rest).trans (trace_limitOf short)
      · have unlimited : parameter ≠ .limit := by
          rintro rfl
          exact limited (Parameter.ofKey?_eq_limit_iff.mp known)
        rw [if_neg limited]
        exact trace_absorb zone criteria unlimited values

theorem trace_absorbKey_of_refused {entry : String × List String} {fault : SearchFault}
    (refused : refusalAt? entry = some fault) :
    (criteria.absorbKey zone entry.1 entry.2).trace = [] := by
  obtain ⟨key, values⟩ := entry
  rw [absorbKey]
  cases known : Parameter.ofKey? key with
  | none => simp [refusalAt?, known] at refused
  | some parameter =>
      by_cases limited : parameter = .limit
      · subst limited
        obtain rfl := Parameter.ofKey?_eq_limit_iff.mp known
        cases values with
        | nil => rfl
        | cons value rest =>
            obtain ⟨reason, long, -⟩ : ∃ reason, tooLong? value = some reason ∧ _ := by
              simpa [refusalAt?_limit] using refused
            exact (trace_absorb_limit zone criteria value rest).trans
              (trace_limitOf_of_tooLong long)
      · exact trace_absorb zone criteria limited values

/-- Taking up normal keys one after another remarks on those before the first refused one. -/
theorem trace_absorbAll {normal : Parameters} (filled : ∀ entry ∈ normal, entry.2 ≠ []) :
    (criteria.absorbAll zone normal).trace =
      (normal.takeWhile fun entry => (refusalAt? entry).isNone).filterMap remark? := by
  induction normal generalizing criteria with
  | nil => rfl
  | cons entry rest ih =>
      obtain ⟨head_filled, rest_filled⟩ := List.forall_mem_cons.mp filled
      have taken := outcome_absorbKey zone criteria entry.1 head_filled
      show (criteria.absorbKey zone entry.1 entry.2 >>= fun next =>
        next.absorbAll zone rest).trace = _
      cases refusal : refusalAt? entry with
      | some fault =>
          rw [refusal, barring_some] at taken
          rw [Traced.trace_bind_of_error taken, trace_absorbKey_of_refused zone criteria refusal,
            List.takeWhile_cons_of_neg (by simp [refusal])]
          rfl
      | none =>
          rw [refusal, barring_none] at taken
          rw [Traced.trace_bind_of_ok taken, trace_absorbKey zone criteria refusal,
            ih _ rest_filled, List.takeWhile_cons_of_pos (by simp [refusal]), List.filterMap_cons]
          cases remark? entry <;> rfl

/-- A span is written about if a time is asked for and the span is empty or runs backwards. -/
theorem trace_temporalClause (now : Time.Moment) :
    (criteria.temporalClause now).trace =
      if criteria.isTemporal ∧ ¬(criteria.span now).isOrdered then [(criteria.span now).dropped]
      else [] := by
  unfold temporalClause
  by_cases temporal : criteria.isTemporal
  · by_cases ordered : (criteria.span now).isOrdered
    · simp [temporal, ordered]
    · simp [temporal, ordered, Traced.note, Traced.emit, Span.dropped]
  · simp [temporal]

theorem trace_request (policy : Policy) (now : Time.Moment) :
    (criteria.request policy now).trace =
      (criteria.temporalClause now).trace ++
        [Record.compiled (criteria.clauses now).length (criteria.size policy)] := by
  rw [request, Traced.trace_bind_of_ok (criteria.outcome_temporalClause now)]
  rfl

end Criteria

namespace Parameters

variable (zone : Time.Zone) (now : Time.Moment) (raw : Parameters)

/-- What is written about keys of the parameters, one after another. -/
def remarksOn (keys : List String) : List Record :=
  keys.filterMap fun key => Criteria.remark? (key, raw.valuesOf key)

/-- A start or an end is given. -/
def AsksForTime : Prop :=
  raw.valuesOf "start" ≠ [] ∨ raw.valuesOf "end" ≠ []

instance : Decidable raw.AsksForTime :=
  inferInstanceAs (Decidable (_ ∨ _))

/-- A span reaches from the start of the window of a search to its end. -/
structure IsSpan (span : Span) : Prop where
  /-- It starts with the least start that is given. -/
  start_eq : span.start.micros = raw.windowStart zone
  /-- It ends with the greatest end that is given. -/
  finish_eq : span.finish.micros = raw.windowEnd zone now

/-- Taking up keys one after another stops at a key with a fault. -/
structure StopsAt (before : List String) (key : String) (fault : SearchFault) : Prop where
  /-- The keys before it are taken up, whatever is gathered so far. -/
  taken : ∀ earlier ∈ before, ∀ criteria : Criteria, ∃ next,
    (criteria.absorbKey zone earlier (raw.valuesOf earlier)).outcome = .ok next
  /-- The key itself is refused, whatever is gathered so far. -/
  refused : ∀ criteria : Criteria,
    (criteria.absorbKey zone key (raw.valuesOf key)).outcome = .error fault

variable {raw}

theorem stopsAt_of_refused {before after : List String} {key : String} {fault : SearchFault}
    (keys_eq : raw.firstKeys = before ++ key :: after)
    (before_accepted : ∀ earlier ∈ before,
      Criteria.refusalAt? (earlier, raw.valuesOf earlier) = none)
    (refused : Criteria.refusalAt? (key, raw.valuesOf key) = some fault) :
    raw.StopsAt zone before key fault := by
  have filled : ∀ known ∈ before ++ key :: after, raw.valuesOf known ≠ [] := fun known member =>
    mem_firstKeys_iff.mp (keys_eq ▸ member)
  constructor
  · intro earlier member criteria
    have earlier_filled := filled earlier (List.mem_append_left _ member)
    rw [Criteria.outcome_absorbKey zone criteria earlier earlier_filled,
      before_accepted earlier member]
    exact ⟨_, rfl⟩
  · intro criteria
    have key_filled := filled key (List.mem_append_right _ List.mem_cons_self)
    rw [Criteria.outcome_absorbKey zone criteria key key_filled, refused, barring_some]

theorem instants_ne_nil_iff (accepted : Criteria.refused? raw = none) {key : String}
    (bound : key ∈ boundKeys) : raw.instants zone key ≠ [] ↔ raw.valuesOf key ≠ [] := by
  have count := length_filterMap_of_no_fault (Timestamp.moment zone key) (raw.valuesOf key)
  simp only [Timestamp.fault?_moment, Timestamp.toOption_moment] at count
  have faultless := Criteria.malformed?_eq_none_of_not_refused accepted bound
  have same_length : (Criteria.momentsOf zone (raw.valuesOf key)).length =
      (raw.valuesOf key).length := count (List.findSome?_eq_none_iff.mpr faultless)
  rw [instants, Ne, List.map_eq_nil_iff, ← List.length_eq_zero_iff, same_length,
    List.length_eq_zero_iff]

theorem asksForTime_iff (accepted : Criteria.refused? raw = none) :
    raw.AsksForTime ↔ (Criteria.asked zone raw).isTemporal = true := by
  rw [Criteria.isTemporal_asked, instants_ne_nil_iff zone accepted (by simp [boundKeys]),
    instants_ne_nil_iff zone accepted (by simp [boundKeys]), AsksForTime]

/-- A time that is asked for has no clause if and only if its span is empty or runs backwards. -/
theorem asksForTime_and_not_mentionsTime_iff (accepted : Criteria.refused? raw = none) :
    (raw.AsksForTime ∧
        ∀ clause ∈ (Criteria.asked zone raw).clauses now, ¬clause.MentionsTime) ↔
      (Criteria.asked zone raw).isTemporal = true ∧
        ¬((Criteria.asked zone raw).span now).isOrdered = true := by
  have timeless : (∀ clause ∈ (Criteria.asked zone raw).clauses now, ¬clause.MentionsTime) ↔
      ¬raw.HasWindow zone now := by
    rw [← Criteria.exists_mentionsTime_iff]
    push Not
    rfl
  rw [timeless, Criteria.hasWindow_iff, asksForTime_iff zone accepted]
  tauto

end Parameters

namespace Criteria

theorem refused?_eq_some_iff {raw : Parameters} {fault : SearchFault} :
    refused? raw = some fault ↔ ∃ before key after, raw.firstKeys = before ++ key :: after ∧
      refusalAt? (key, raw.valuesOf key) = some fault ∧
      ∀ earlier ∈ before, refusalAt? (earlier, raw.valuesOf earlier) = none := by
  rw [refused?_eq, List.findSome?_eq_some_iff]

/-- Gathering remarks on the keys before the first refused one. -/
theorem trace_gather (zone : Time.Zone) (raw : Parameters) :
    (gather zone raw).trace =
      raw.remarksOn
        (raw.firstKeys.takeWhile fun key => (refusalAt? (key, raw.valuesOf key)).isNone) := by
  rw [gather, trace_absorbAll zone {} (Parameters.filled_normalize raw), Parameters.normalize_eq,
    List.takeWhile_map, List.filterMap_map]
  rfl

end Criteria

namespace Policy

variable (policy : Policy) (zone : Time.Zone) (now : Time.Moment) {raw : Parameters}

theorem trace_compile (accepted : Criteria.refused? raw = none) :
    let criteria := Criteria.asked zone raw
    (policy.compile zone now raw).trace =
      raw.remarksOn raw.firstKeys ++
        (if raw.AsksForTime ∧ ∀ clause ∈ criteria.clauses now, ¬clause.MentionsTime then
          [(criteria.span now).dropped] else []) ++
        [Record.compiled (criteria.clauses now).length (criteria.size policy)] := by
  intro criteria
  have gathered : (Criteria.gather zone raw).outcome = .ok criteria := by
    rw [Criteria.outcome_gather, accepted, barring_none]
  have none_refused : ∀ key ∈ raw.firstKeys,
      (Criteria.refusalAt? (key, raw.valuesOf key)).isNone = true := by
    simpa [Criteria.refused?_eq] using accepted
  rw [compile, Traced.trace_bind_of_ok gathered, Criteria.trace_gather,
    List.takeWhile_eq_self_iff.mpr none_refused, Criteria.trace_request,
    Criteria.trace_temporalClause, List.append_assoc,
    if_congr (Parameters.asksForTime_and_not_mentionsTime_iff zone now accepted) rfl rfl]

theorem trace_compile_of_refused {before after : List String} {key : String} {fault : SearchFault}
    (keys_eq : raw.firstKeys = before ++ key :: after)
    (before_accepted : ∀ earlier ∈ before,
      Criteria.refusalAt? (earlier, raw.valuesOf earlier) = none)
    (refused : Criteria.refusalAt? (key, raw.valuesOf key) = some fault) :
    (policy.compile zone now raw).trace = raw.remarksOn before := by
  have failed : (Criteria.gather zone raw).outcome = .error fault := by
    rw [Criteria.outcome_gather, barring_eq_error_iff, Criteria.refused?_eq_some_iff]
    exact ⟨before, key, after, keys_eq, refused, before_accepted⟩
  rw [compile, Traced.trace_bind_of_error failed, Criteria.trace_gather, keys_eq,
    List.takeWhile_append_of_pos (by simpa using before_accepted),
    List.takeWhile_cons_of_neg (by simp [refused]), List.append_nil]

theorem compileRaw_eq_compile {given : RawParameters} (read : Parameters.ofRaw given = .ok raw) :
    policy.compileRaw zone now given = policy.compile zone now raw := by
  rw [compileRaw, read]
  rfl

end Policy

/-- The journal is an exact account of a compilation. One that ends well has remarked on all normal
keys in order, on the span of a time that is asked for and has no clause, and on the clauses and the
size of the request; one that fails has remarked on the keys before the one that it fails for. No
error is ever reported. -/
theorem Policy.trace_compileRaw (policy : Policy) (zone : Time.Zone) (now : Present)
    (given : RawParameters) :
    let compiling := policy.compileRaw zone (now.resolve zone) given
    (∀ record ∈ compiling.trace, record.level ≠ .error) ∧
      (∀ request, compiling.outcome = .ok request → ∃ raw clauses span,
        Parameters.ofRaw given = .ok raw ∧ request.query = .all clauses ∧
          raw.IsSpan zone (now.resolve zone) span ∧
          compiling.trace =
            raw.remarksOn raw.firstKeys ++
              (if raw.AsksForTime ∧ ∀ clause ∈ clauses, ¬clause.MentionsTime then [span.dropped]
                else []) ++
              [Record.compiled clauses.length request.size]) ∧
      ∀ fault, compiling.outcome = .error fault →
        (∃ reason, Parameters.ofRaw given = .error reason) ∧ compiling.trace = [] ∨
          ∃ raw before key after, Parameters.ofRaw given = .ok raw ∧
            raw.firstKeys = before ++ key :: after ∧ raw.StopsAt zone before key fault ∧
            compiling.trace = raw.remarksOn before := by
  intro compiling
  refine ⟨?_, ?_, ?_⟩
  · exact (Traced.only_ofExcept _).bind fun raw => policy.only_compile zone _ raw
  · intro request compiled
    obtain ⟨raw, read, accepted, rfl⟩ := Policy.outcome_compileRaw_eq_ok_iff.mp compiled
    have span_fits : raw.IsSpan zone (now.resolve zone)
        ((Criteria.asked zone raw).span (now.resolve zone)) :=
      ⟨Criteria.micros_start_span zone _ raw, Criteria.micros_finish_span zone _ raw⟩
    refine ⟨raw, _, _, read, rfl, span_fits, ?_⟩
    exact (congrArg Traced.trace (policy.compileRaw_eq_compile zone _ read)).trans
      (policy.trace_compile zone _ accepted)
  · intro fault failed
    cases read : Parameters.ofRaw given with
    | error reason =>
        refine .inl ⟨⟨reason, rfl⟩, ?_⟩
        simp only [compiling, Policy.compileRaw, read]
        rfl
    | ok raw =>
        have compiling_eq : compiling = policy.compile zone (now.resolve zone) raw :=
          policy.compileRaw_eq_compile zone _ read
        rw [compiling_eq, Policy.outcome_compile, barring_eq_error_iff] at failed
        obtain ⟨before, key, after, keys_eq, refused, before_accepted⟩ :=
          Criteria.refused?_eq_some_iff.mp failed
        refine .inr ⟨raw, before, key, after, rfl, keys_eq,
          Parameters.stopsAt_of_refused zone keys_eq before_accepted refused, ?_⟩
        rw [compiling_eq]
        exact policy.trace_compile_of_refused zone _ keys_eq before_accepted refused

/-- Parameters with a key that is not known, a limit that is too great, and an end of a time. -/
def neglectedParameters (start : String) : GivenParameters :=
  [("sort", .text "up"),
    ("Limit", .list ["2147483648", "5"]),
    ("level", .list []),
    (" START", .text start),
    ("end", .text "1999-12-31 00:00:00.000"),
    ("Sort ", .text "down"),
    ("owner", .text "ann")]

theorem Policy.trace_neglectedParameters :
    let passed : List Record :=
      [⟨.debug, "Ignoring unsupported search parameter: sort"⟩,
        ⟨.warning, "Encountered out-of-range 'limit' value: 2147483648"⟩]
    (∃ span : Span, span.start.micros = 946684800000000 ∧ span.finish.micros = 946598400000000 ∧
        (({} : Policy).compileRaw .utc Time.Moment.epoch
            (neglectedParameters "2000-01-01 00:00:00.000").toRaw).trace =
          passed ++ [span.dropped] ++ [⟨.debug, "Compiled search: clauses=1 size=100"⟩]) ∧
      (({} : Policy).compileRaw .utc Time.Moment.epoch (neglectedParameters "soon").toRaw).trace =
        passed := by
  intro passed
  obtain ⟨-, ended, -⟩ := Policy.trace_compileRaw {} .utc (.moment Time.Moment.epoch)
    (neglectedParameters "2000-01-01 00:00:00.000").toRaw
  obtain ⟨-, -, halted⟩ := Policy.trace_compileRaw {} .utc (.moment Time.Moment.epoch)
    (neglectedParameters "soon").toRaw
  constructor
  · obtain ⟨raw, clauses, span, read, query_eq, ⟨start_eq, finish_eq⟩, account⟩ := ended
      { index := "olog_logs*"
        query := .all [.any [.wildcard "owner" "ann"]]
        sort := [⟨"createdDate", .descending⟩]
        offset := 0
        size := 100
        seconds := 60 } rfl
    obtain rfl := Except.ok.inj ((GivenParameters.ofRaw_toRaw _).symm.trans read)
    obtain rfl := Query.all.inj query_eq
    have remarked : (neglectedParameters "2000-01-01 00:00:00.000").texts.remarksOn
        (neglectedParameters "2000-01-01 00:00:00.000").texts.firstKeys = passed := by
      decide +kernel
    rw [remarked, if_pos (by decide +kernel)] at account
    exact ⟨span, start_eq, finish_eq, account⟩
  · rcases halted (.malformed ⟨"start", "soon", .shape⟩) rfl with
      ⟨⟨reason, unread⟩, -⟩ | ⟨raw, before, key, after, read, keys_eq, ⟨taken, refused⟩, account⟩
    · exact absurd unread nofun
    · obtain rfl := Except.ok.inj ((GivenParameters.ofRaw_toRaw _).symm.trans read)
      have keys_are : (neglectedParameters "soon").texts.firstKeys =
          ["sort", "limit", "start", "end", "owner"] := by
        decide +kernel
      rw [keys_are] at keys_eq
      obtain _ | ⟨first, _ | ⟨second, _ | ⟨third, rest⟩⟩⟩ := before
      · obtain rfl := (List.cons.inj keys_eq).1
        exact absurd (refused {}) nofun
      · obtain ⟨rfl, rfl, -⟩ : "sort" = first ∧ "limit" = key ∧ _ := by simpa using keys_eq
        exact absurd (refused {}) nofun
      · obtain ⟨rfl, rfl, -⟩ : "sort" = first ∧ "limit" = second ∧ _ := by simpa using keys_eq
        exact account.trans (by decide +kernel)
      · obtain ⟨rfl, rfl, rfl, -⟩ : "sort" = first ∧ "limit" = second ∧ "start" = third ∧ _ := by
          simpa using keys_eq
        obtain ⟨next, ended⟩ := taken "start" (by simp) {}
        exact absurd ended nofun

end EntrySearch
