import EntrySearch.Proofs.Outcome
import EntrySearch.Proofs.Search.Normalization
import EntrySearch.Search.Criteria

/-!
# Gathered criteria

Taking up parameters one after another has a closed form: what refuses them is the first parameter
that is refused on its own, and barring that each criterion is read off the texts given for its
parameter alone.
-/

namespace EntrySearch

open Outcome

namespace Entries

variable {κ β : Type} [BEq κ] [LawfulBEq κ]

theorem get?_eq_some_iff {key : κ} {value : β} {entries : List (κ × β)}
    (nodup : (entries.map Prod.fst).Nodup) :
    get? key entries = some value ↔ (key, value) ∈ entries := by
  induction entries with
  | nil => simp
  | cons entry rest ih =>
      obtain ⟨k, other⟩ := entry
      obtain ⟨fresh, nodup⟩ := List.nodup_cons.mp nodup
      by_cases same : k = key
      · subst same
        have gone : (k, value) ∉ rest := fun member =>
          fresh (List.mem_map.mpr ⟨(k, value), member, rfl⟩)
        simp [get?, gone, eq_comm]
      · simp [get?, same, Ne.symm same, ih nodup]

end Entries

namespace Timestamp

/-- The moment that a text names in a zone, if it is a timestamp. -/
def moment? (zone : Time.Zone) (text : String) : Option Time.Moment :=
  (read text).toOption.map zone.moment

/-- Why a text given under a key is refused as a timestamp. -/
def malformed? (key text : String) : Option Malformed :=
  (fault? (read text)).map (⟨key, text, ·⟩)

theorem fault?_moment (zone : Time.Zone) (key text : String) :
    fault? (moment zone key text) = malformed? key text := by
  unfold moment malformed?
  cases read text <;> rfl

theorem toOption_moment (zone : Time.Zone) (key text : String) :
    (moment zone key text).toOption = moment? zone text := by
  unfold moment moment?
  cases read text <;> rfl

end Timestamp

namespace Parameter

theorem ofKey?_eq_some_iff {key : String} {parameter : Parameter} :
    ofKey? key = some parameter ↔ (key, parameter) ∈ keys :=
  Entries.get?_eq_some_iff (by decide)

/-- The keys of a parameter. -/
def keysOf (parameter : Parameter) : List String :=
  (keys.filter fun entry => entry.2 = parameter).map Prod.fst

theorem ofKey?_eq_some_iff_mem {key : String} {parameter : Parameter} :
    ofKey? key = some parameter ↔ key ∈ parameter.keysOf := by
  simp [ofKey?_eq_some_iff, keysOf]

theorem ofKey?_eq_limit_iff {key : String} : ofKey? key = some .limit ↔ key = "limit" := by
  simp [ofKey?_eq_some_iff_mem, keysOf, keys]

/-- A key is supported if and only if it is the key of a parameter. -/
theorem mem_supported_iff {key : String} :
    key ∈ supported ↔ ∃ parameter, ofKey? key = some parameter := by
  simp [supported, ofKey?_eq_some_iff]

/-- The parameters that are taken up once at most: a second text would not be joined to the first
ones but weighed against them. -/
def isSingular : Parameter → Bool
  | .start | .finish | .limit => true
  | _ => false

theorem key_eq_of_isSingular {parameter : Parameter} (singular : parameter.isSingular = true)
    {key other : String} (first : ofKey? key = some parameter)
    (second : ofKey? other = some parameter) : key = other := by
  rw [ofKey?_eq_some_iff] at first second
  cases parameter <;> simp_all [isSingular, keys]

end Parameter

/-- The texts given for a parameter under any of its keys, in order. -/
def Parameters.textsFor (parameters : Parameters) (parameter : Parameter) : List String :=
  parameters.flatMap fun entry =>
    if Parameter.ofKey? entry.1 = some parameter then entry.2 else []

namespace Parameters

theorem textsFor_cons (entry : String × List String) (rest : Parameters) (parameter : Parameter) :
    textsFor (entry :: rest) parameter = textsFor [entry] parameter ++ textsFor rest parameter := by
  simp [textsFor]

theorem textsFor_singleton (key : String) (values : List String) (parameter : Parameter) :
    textsFor [(key, values)] parameter =
      if Parameter.ofKey? key = some parameter then values else [] := by
  simp [textsFor]

theorem exists_key_of_textsFor_ne_nil {parameters : Parameters} {parameter : Parameter}
    (filled : parameters.textsFor parameter ≠ []) :
    ∃ entry ∈ parameters, Parameter.ofKey? entry.1 = some parameter := by
  by_contra missing
  push Not at missing
  apply filled
  refine List.flatMap_eq_nil_iff.mpr fun entry member => ?_
  rw [if_neg (missing entry member)]

theorem textsFor_eq_nil_or {entry : String × List String} {rest : Parameters}
    (nodup : ((entry :: rest).map Prod.fst).Nodup) {parameter : Parameter}
    (singular : parameter.isSingular = true) :
    textsFor [entry] parameter = [] ∨ textsFor rest parameter = [] := by
  by_contra both
  push Not at both
  obtain ⟨first, at_first, of_first⟩ := exists_key_of_textsFor_ne_nil both.1
  obtain ⟨other, member, of_other⟩ := exists_key_of_textsFor_ne_nil both.2
  rw [List.mem_singleton.mp at_first] at of_first
  have same := Parameter.key_eq_of_isSingular singular of_first of_other
  exact (List.nodup_cons.mp nodup).1 (same ▸ List.mem_map.mpr ⟨other, member, rfl⟩)

end Parameters

/-- Texts for one parameter only. -/
def Parameter.only (parameter : Parameter) (texts : List String) (other : Parameter) :
    List String :=
  if other = parameter then texts else []

namespace Criteria

/-- The moments that texts name; texts that are no timestamps are left out. -/
def momentsOf (zone : Time.Zone) (texts : List String) : List Time.Moment :=
  texts.filterMap (Timestamp.moment? zone)

@[simp]
theorem momentsOf_nil (zone : Time.Zone) : momentsOf zone [] = [] :=
  rfl

@[simp]
theorem phrasesOf_nil : phrasesOf [] = [] :=
  rfl

@[simp]
theorem patternsOf_nil : patternsOf [] = [] :=
  rfl

/-- Why a limit is refused: it is a whole number, but too long to be read. -/
def tooLong? (text : String) : Option Decimal.TooManyDigits :=
  if Decimal.isSignedDigits text.toList then fault? (Decimal.readInteger text.toList) else none

/-- The number of entries that a text asks for, if it is a number of entries. -/
def limit? (text : String) : Option Nat :=
  if Decimal.isSignedDigits text.toList then
    (Decimal.readInteger text.toList).toOption.bind fun n =>
      if n < 0 ∨ greatestLimit < n then none else some n.toNat
  else none

/-- Why texts for a parameter are refused. -/
def refusal? (texts : List String) : Parameter → Option SearchFault
  | .start => (texts.findSome? (Timestamp.malformed? "start")).map .malformed
  | .finish => (texts.findSome? (Timestamp.malformed? "end")).map .malformed
  | .limit => (texts.head?.bind tooLong?).map .digits
  | _ => none

/-- Why the texts of a normal key are refused. -/
def refusalAt? (entry : String × List String) : Option SearchFault :=
  (Parameter.ofKey? entry.1).bind (refusal? entry.2)

/-- Criteria to which texts for the parameters are added. -/
def extend (zone : Time.Zone) (criteria : Criteria) (texts : Parameter → List String) :
    Criteria where
  description := criteria.description ++ (texts .description).flatMap Term.words
  title := criteria.title ++ (texts .title).flatMap Term.words
  level := criteria.level ++ (texts .level).flatMap Term.words
  mode := if texts .fuzzy = [] then criteria.mode else .fuzzy
  phrases := criteria.phrases ++ phrasesOf (texts .phrase)
  owners := criteria.owners ++ (texts .owner).flatMap Term.words
  tags := criteria.tags ++ (texts .tags).flatMap Term.names
  logbooks := criteria.logbooks ++ (texts .logbooks).flatMap Term.names
  properties := criteria.properties ++ patternsOf (texts .properties)
  start := Bound.earliest.outermost? (momentsOf zone (texts .start) ++ criteria.start.toList)
  finish := Bound.latest.outermost? (momentsOf zone (texts .finish) ++ criteria.finish.toList)
  includeEvents := criteria.includeEvents || !(texts .includeEvents).isEmpty
  limit := ((texts .limit).head?.bind limit?).or criteria.limit

/-- A single moment is the outermost one. -/
@[simp]
theorem outermost?_toList (bound : Bound) (known : Option Time.Moment) :
    bound.outermost? known.toList = known := by
  cases known <;> rfl

theorem outermost?_eq_none_iff {bound : Bound} {moments : List Time.Moment} :
    bound.outermost? moments = none ↔ moments = [] := by
  cases moments <;> simp [Bound.outermost?]

/-- The texts of a bound are refused with the first one that is no timestamp, and give a moment
otherwise. -/
theorem timeOf_eq_barring (zone : Time.Zone) (bound : Bound) (key : String)
    (known : Option Time.Moment) {values : List String} (filled : values ≠ []) :
    (timeOf zone bound key known values).map some =
      barring ((values.findSome? (Timestamp.malformed? key)).map .malformed)
        (bound.outermost? (momentsOf zone values ++ known.toList)) := by
  have read_all := mapM_eq_barring (Timestamp.moment zone key) values
  have count := length_filterMap_of_no_fault (Timestamp.moment zone key) values
  simp only [Timestamp.fault?_moment, Timestamp.toOption_moment] at read_all count
  rw [timeOf, read_all, mapError_barring, momentsOf]
  cases faulty : values.findSome? (Timestamp.malformed? key) with
  | some fault => rfl
  | none =>
      have named : values.filterMap (Timestamp.moment? zone) ++ known.toList ≠ [] := by
        intro nothing
        have none_named := (List.append_eq_nil_iff.mp nothing).1
        rw [none_named] at count
        exact filled (List.length_eq_zero_iff.mp (count faulty).symm)
      cases found : bound.outermost?
          (values.filterMap (Timestamp.moment? zone) ++ known.toList) with
      | none => exact absurd (outermost?_eq_none_iff.mp found) named
      | some moment =>
          simp only [Option.map_none, barring_none, bind, Except.bind, found]
          rfl

theorem outcome_limitOf (text : String) :
    (limitOf text).outcome = barring ((tooLong? text).map .digits) (limit? text) := by
  unfold limitOf tooLong? limit?
  by_cases shaped : Decimal.isSignedDigits text.toList
  · simp only [shaped, Bool.not_true, Bool.false_eq_true, if_false, if_true]
    cases Decimal.readInteger text.toList with
    | error fault => rfl
    | ok n =>
        by_cases outside : n < 0 ∨ greatestLimit < n
        · simp [Except.mapError, outside, Traced.outcome_note_bind]
        · simp [Except.mapError, outside]
  · simp [shaped, Traced.outcome_note_bind]

/-- Taking up the texts of a parameter adds them, unless they are refused. -/
theorem outcome_absorb (zone : Time.Zone) (criteria : Criteria) (parameter : Parameter)
    {values : List String} (filled : values ≠ []) :
    (criteria.absorb zone parameter values).outcome =
      barring (refusal? values parameter) (criteria.extend zone (parameter.only values)) := by
  cases parameter with
  | start =>
      have read := timeOf_eq_barring zone .earliest "start" criteria.start filled
      cases taken : timeOf zone .earliest "start" criteria.start values with
      | error fault =>
          rw [taken, Except.map, eq_comm, barring_eq_error_iff] at read
          simp [absorb, taken, refusal?, read]
      | ok moment =>
          rw [taken, Except.map, eq_comm, barring_eq_ok_iff] at read
          simp [absorb, taken, refusal?, read, extend, Parameter.only]
  | finish =>
      have read := timeOf_eq_barring zone .latest "end" criteria.finish filled
      cases taken : timeOf zone .latest "end" criteria.finish values with
      | error fault =>
          rw [taken, Except.map, eq_comm, barring_eq_error_iff] at read
          simp [absorb, taken, refusal?, read]
      | ok moment =>
          rw [taken, Except.map, eq_comm, barring_eq_ok_iff] at read
          simp [absorb, taken, refusal?, read, extend, Parameter.only]
  | limit =>
      obtain ⟨value, rest, rfl⟩ := List.exists_cons_of_ne_nil filled
      simp only [absorb, Traced.outcome_bind, outcome_limitOf, refusal?, List.head?_cons,
        Option.bind_some]
      cases tooLong? value with
      | some fault => rfl
      | none =>
          cases asked : limit? value with
          | none => simp [bind, Except.bind, extend, Parameter.only, asked]
          | some limit => simp [bind, Except.bind, extend, Parameter.only, asked]
  | fuzzy => simp [absorb, refusal?, extend, Parameter.only, filled]
  | includeEvents => simp [absorb, refusal?, extend, Parameter.only, filled]
  | _ => simp [absorb, refusal?, extend, Parameter.only]

theorem phrasesOf_append (left right : List String) :
    phrasesOf (left ++ right) = phrasesOf left ++ phrasesOf right := by
  simp [phrasesOf, Term.ofPieces]

theorem patternsOf_append (left right : List String) :
    patternsOf (left ++ right) = patternsOf left ++ patternsOf right := by
  simp [patternsOf]

/-- Weighing moments against the outermost one of others weighs all of them, if either side has
none. -/
theorem outermost?_weighed (bound : Bound) (zone : Time.Zone) (known : Option Time.Moment)
    {first second : List String} (apart : first = [] ∨ second = []) :
    bound.outermost? (momentsOf zone second ++
        (bound.outermost? (momentsOf zone first ++ known.toList)).toList) =
      bound.outermost? (momentsOf zone (first ++ second) ++ known.toList) := by
  rcases apart with rfl | rfl <;> simp

theorem extend_nothing (zone : Time.Zone) (criteria : Criteria) :
    (criteria.extend zone fun _ => []) = criteria := by
  simp [extend]

/-- Adding texts twice adds them together, if no singular parameter has texts both times. -/
theorem extend_extend (zone : Time.Zone) (criteria : Criteria)
    {first second : Parameter → List String}
    (apart : ∀ parameter, parameter.isSingular = true →
      first parameter = [] ∨ second parameter = []) :
    (criteria.extend zone first).extend zone second =
      criteria.extend zone fun parameter => first parameter ++ second parameter := by
  have fuzzy : (if second .fuzzy = [] then if first .fuzzy = [] then criteria.mode else .fuzzy
      else .fuzzy) = if first .fuzzy ++ second .fuzzy = [] then criteria.mode else .fuzzy := by
    by_cases second_nil : second .fuzzy = [] <;> simp [second_nil]
  have limit : ((second .limit).head?.bind limit?).or
        (((first .limit).head?.bind limit?).or criteria.limit) =
      ((first .limit ++ second .limit).head?.bind limit?).or criteria.limit := by
    rcases apart .limit rfl with nil | nil <;> simp [nil]
  have events : ((criteria.includeEvents || !(first .includeEvents).isEmpty) ||
        !(second .includeEvents).isEmpty) =
      (criteria.includeEvents || !(first .includeEvents ++ second .includeEvents).isEmpty) := by
    cases first .includeEvents <;> simp
  simp only [extend, fuzzy, limit, events, List.flatMap_append, List.append_assoc,
    phrasesOf_append, patternsOf_append, outermost?_weighed _ zone _ (apart .start rfl),
    outermost?_weighed _ zone _ (apart .finish rfl)]

/-- Taking up the texts of a key adds them to its parameter, unless they are refused. -/
theorem outcome_absorbKey (zone : Time.Zone) (criteria : Criteria) (key : String)
    {values : List String} (filled : values ≠ []) :
    (criteria.absorbKey zone key values).outcome =
      barring (refusalAt? (key, values))
        (criteria.extend zone (Parameters.textsFor [(key, values)])) := by
  unfold absorbKey refusalAt?
  cases known : Parameter.ofKey? key with
  | none =>
      have nothing : Parameters.textsFor [(key, values)] = fun _ => [] := by
        funext parameter
        simp [Parameters.textsFor_singleton, known]
      rw [nothing, extend_nothing]
      rfl
  | some parameter =>
      have only : Parameters.textsFor [(key, values)] = parameter.only values := by
        funext other
        simp [Parameters.textsFor_singleton, known, Parameter.only, eq_comm]
      rw [only]
      exact outcome_absorb zone criteria parameter filled

/-- Taking up normal parameters adds their texts, unless one of them is refused. -/
theorem outcome_absorbAll (zone : Time.Zone) (criteria : Criteria) {parameters : Parameters}
    (nodup : (parameters.map Prod.fst).Nodup) (filled : ∀ entry ∈ parameters, entry.2 ≠ []) :
    (criteria.absorbAll zone parameters).outcome =
      barring (parameters.findSome? refusalAt?)
        (criteria.extend zone (Parameters.textsFor parameters)) := by
  -- Every key adds to criteria gathered before, so the equation is for all of them.
  induction parameters generalizing criteria with
  | nil => exact congrArg Except.ok (extend_nothing zone criteria).symm
  | cons entry rest ih =>
      obtain ⟨key, values⟩ := entry
      have rest_nodup := (List.nodup_cons.mp nodup).2
      have rest_filled : ∀ entry ∈ rest, entry.2 ≠ [] := fun entry member =>
        filled entry (List.mem_cons_of_mem _ member)
      have head_filled : values ≠ [] := filled (key, values) List.mem_cons_self
      have apart : ∀ parameter : Parameter, parameter.isSingular = true → _ :=
        fun parameter singular => Parameters.textsFor_eq_nil_or nodup singular
      have texts_eq : Parameters.textsFor ((key, values) :: rest) = fun parameter =>
          Parameters.textsFor [(key, values)] parameter ++ Parameters.textsFor rest parameter := by
        funext parameter
        exact Parameters.textsFor_cons _ rest parameter
      rw [absorbAll, Traced.outcome_bind, outcome_absorbKey zone criteria key head_filled]
      simp only [ih _ rest_nodup rest_filled]
      rw [barring_bind_barring, extend_extend zone criteria apart, texts_eq, List.findSome?_cons]
      cases refusalAt? (key, values) <;> rfl

end Criteria

namespace Parameters

/-- Where one item of a list is the only one with texts, the texts are those of that item. -/
theorem flatMap_of_unique {keys : List String} (nodup : keys.Nodup) (key : String)
    {texts : String → List String} (others : ∀ other ∈ keys, other ≠ key → texts other = []) :
    keys.flatMap texts = if key ∈ keys then texts key else [] := by
  induction keys with
  | nil => rfl
  | cons first rest ih =>
      obtain ⟨fresh, nodup⟩ := List.nodup_cons.mp nodup
      have later := ih nodup fun other member => others other (List.mem_cons_of_mem _ member)
      rw [List.flatMap_cons, later]
      by_cases same : first = key
      · subst same
        simp [fresh]
      · simp [others first List.mem_cons_self same, Ne.symm same]

/-- Where two items of a list are the only ones with texts, the texts of the first one found come
first. -/
theorem flatMap_of_either {keys : List String} (nodup : keys.Nodup) {key other : String}
    (distinct : key ≠ other) {texts : String → List String}
    (others : ∀ k ∈ keys, k ≠ key → k ≠ other → texts k = [])
    (missing : ∀ k, k ∉ keys → texts k = []) :
    keys.flatMap texts =
      if keys.find? (fun k => k = key ∨ k = other) = some other then texts other ++ texts key
      else texts key ++ texts other := by
  cases found : keys.find? fun k => k = key ∨ k = other with
  | none =>
      have absent : ∀ k ∈ keys, k ≠ key ∧ k ≠ other := by simpa using found
      have key_nil : texts key = [] := missing key fun member => (absent key member).1 rfl
      have other_nil : texts other = [] := missing other fun member => (absent other member).2 rfl
      simp only [key_nil, other_nil, List.append_nil, ite_self, List.flatMap_eq_nil_iff]
      exact fun k member => others k member (absent k member).1 (absent k member).2
  | some first =>
      obtain ⟨either, before, after, rfl, absent⟩ := List.find?_eq_some_iff_append.mp found
      obtain ⟨_, after_nodup, _⟩ := List.nodup_append.mp nodup
      obtain ⟨fresh, after_nodup⟩ := List.nodup_cons.mp after_nodup
      have before_nil : before.flatMap texts = [] := by
        refine List.flatMap_eq_nil_iff.mpr fun k member => ?_
        obtain ⟨not_key, not_other⟩ : k ≠ key ∧ k ≠ other := by simpa using absent k member
        exact others k (by simp [member]) not_key not_other
      have rest_eq : ∀ second, second ≠ first → (second = key ∨ second = other) →
          (∀ k ∈ after, k ≠ second → texts k = []) → after.flatMap texts = texts second := by
        intro second differs is_either only
        rw [flatMap_of_unique after_nodup second only]
        split
        · rfl
        · rename_i not_after
          refine (missing second ?_).symm
          have not_before : second ∉ before := fun member => by
            simpa [is_either] using absent second member
          simp [differs, not_after, not_before]
      rw [List.flatMap_append, List.flatMap_cons, before_nil, List.nil_append]
      have after_only : ∀ k ∈ after, k ≠ key → k ≠ other → texts k = [] := fun k member =>
        others k (by simp [member])
      rcases of_decide_eq_true either with rfl | rfl
      · rw [if_neg (by simpa using distinct),
          rest_eq other (Ne.symm distinct) (.inr rfl) fun k member => after_only k member
            fun same => fresh (same ▸ member)]
      · rw [if_pos rfl, rest_eq key distinct (.inl rfl) fun k member differs =>
          after_only k member differs fun same => fresh (same ▸ member)]

/-- The texts of two keys that mean the same: all of the one that is given a text first, then all
of the other one. -/
def valuesOfEither (key other : String) (raw : Parameters) : List String :=
  if (givenKeys raw).find? (fun k => k = key ∨ k = other) = some other then
    valuesOf other raw ++ valuesOf key raw
  else valuesOf key raw ++ valuesOf other raw

theorem valuesOfEither_ne_nil_iff {key other : String} {raw : Parameters} :
    valuesOfEither key other raw ≠ [] ↔ key ∈ givenKeys raw ∨ other ∈ givenKeys raw := by
  rw [mem_givenKeys_iff, mem_givenKeys_iff, valuesOfEither]
  split
  · rw [ne_eq, List.append_eq_nil_iff, not_and_or, or_comm]
  · rw [ne_eq, List.append_eq_nil_iff, not_and_or]

theorem valuesOfEither_filter (keep : String → Bool) {key other : String} (kept : keep key = true)
    (other_kept : keep other = true) (raw : Parameters) :
    valuesOfEither key other (raw.filter fun entry => keep (normalKey entry.1)) =
      valuesOfEither key other raw := by
  have found : (givenKeys raw).find? (fun k =>
        decide (keep k = true ∧ decide (k = key ∨ k = other) = true)) =
      (givenKeys raw).find? fun k => k = key ∨ k = other := by
    congr 1
    funext k
    by_cases either : k = key ∨ k = other
    · have kept_either : keep k = true := either.elim (· ▸ kept) (· ▸ other_kept)
      simp [kept_either]
    · simp [either]
  rw [valuesOfEither, givenKeys_filter, List.find?_filter, found, valuesOf_filter keep kept,
    valuesOf_filter keep other_kept, valuesOfEither]

theorem keys_normalize (raw : Parameters) : raw.normalize.map Prod.fst = firstKeys raw := by
  rw [normalize_eq, List.map_map]
  exact List.map_id _

theorem nodup_normalize (raw : Parameters) : (raw.normalize.map Prod.fst).Nodup :=
  keys_normalize raw ▸ nodup_firstKeys raw

theorem filled_normalize (raw : Parameters) : ∀ entry ∈ raw.normalize, entry.2 ≠ [] := by
  intro entry member
  rw [normalize_eq] at member
  obtain ⟨key, known, rfl⟩ := List.mem_map.mp member
  exact mem_firstKeys_iff.mp known

theorem textsFor_normalize (raw : Parameters) (parameter : Parameter) :
    textsFor raw.normalize parameter = (firstKeys raw).flatMap fun key =>
      if Parameter.ofKey? key = some parameter then valuesOf key raw else [] := by
  rw [textsFor, normalize_eq, List.flatMap_map]

theorem valuesOf_of_notMem {key : String} {raw : Parameters} (missing : key ∉ firstKeys raw) :
    valuesOf key raw = [] := by
  simpa [mem_firstKeys_iff] using missing

theorem textsFor_normalize_of_unique (raw : Parameters) {parameter : Parameter} {key : String}
    (keys_eq : parameter.keysOf = [key]) :
    textsFor raw.normalize parameter = valuesOf key raw := by
  have unique : ∀ other, Parameter.ofKey? other = some parameter ↔ other = key := by
    simp [Parameter.ofKey?_eq_some_iff_mem, keys_eq]
  rw [textsFor_normalize, flatMap_of_unique (nodup_firstKeys raw) key
    fun other _ differs => if_neg (mt (unique other).mp differs)]
  rw [if_pos ((unique key).mpr rfl)]
  split
  · rfl
  · rename_i missing
    exact (valuesOf_of_notMem missing).symm

/-- The texts for a parameter with two keys, the one that is given a text first coming first. -/
theorem textsFor_normalize_of_either (raw : Parameters) {parameter : Parameter}
    {key other : String} (distinct : key ≠ other) (keys_eq : parameter.keysOf = [key, other]) :
    textsFor raw.normalize parameter = valuesOfEither key other raw := by
  have either : ∀ k, Parameter.ofKey? k = some parameter ↔ k = key ∨ k = other := by
    simp [Parameter.ofKey?_eq_some_iff_mem, keys_eq]
  rw [textsFor_normalize, flatMap_of_either (nodup_firstKeys raw) distinct]
  · rw [if_pos ((either key).mpr (.inl rfl)), if_pos ((either other).mpr (.inr rfl)), firstKeys,
      find?_eraseDups, valuesOfEither]
  · intro k _ not_key not_other
    rw [if_neg fun known => ((either k).mp known).elim not_key not_other]
  · intro k missing
    rw [valuesOf_of_notMem missing, ite_self]

end Parameters

namespace Criteria

/-- The criteria that parameters ask for. -/
def asked (zone : Time.Zone) (raw : Parameters) : Criteria :=
  extend zone {} (Parameters.textsFor raw.normalize)

/-- Why parameters are refused. -/
def refused? (raw : Parameters) : Option SearchFault :=
  raw.normalize.findSome? refusalAt?

/-- Each criterion is read off the texts given under its keys. -/
theorem asked_eq (zone : Time.Zone) (raw : Parameters) :
    asked zone raw =
      { description := (raw.valuesOfEither "description" "desc").flatMap Term.words
        title := (raw.valuesOf "title").flatMap Term.words
        level := (raw.valuesOf "level").flatMap Term.words
        mode := if "fuzzy" ∈ raw.givenKeys then .fuzzy else .wildcard
        phrases := phrasesOf (raw.valuesOf "phrase")
        owners := (raw.valuesOf "owner").flatMap Term.words
        tags := (raw.valuesOf "tags").flatMap Term.names
        logbooks := (raw.valuesOf "logbooks").flatMap Term.names
        properties := patternsOf (raw.valuesOf "properties")
        start := Bound.earliest.outermost? (momentsOf zone (raw.valuesOf "start"))
        finish := Bound.latest.outermost? (momentsOf zone (raw.valuesOf "end"))
        includeEvents := "includeevents" ∈ raw.givenKeys ∨ "includeevent" ∈ raw.givenKeys
        limit := (raw.valuesOf "limit").head?.bind limit? } := by
  have description := Parameters.textsFor_normalize_of_either raw (by decide)
    (show Parameter.keysOf .description = ["description", "desc"] by decide)
  have events := Parameters.textsFor_normalize_of_either raw (by decide)
    (show Parameter.keysOf .includeEvents = ["includeevents", "includeevent"] by decide)
  have given_events : (!(raw.valuesOfEither "includeevents" "includeevent").isEmpty) =
      decide ("includeevents" ∈ raw.givenKeys ∨ "includeevent" ∈ raw.givenKeys) := by
    rw [Bool.eq_iff_iff, decide_eq_true_iff, Bool.not_eq_true', List.isEmpty_eq_false_iff,
      Parameters.valuesOfEither_ne_nil_iff]
  have unique := @Parameters.textsFor_normalize_of_unique raw
  simp only [asked, extend, description, events, given_events,
    unique (show Parameter.keysOf .title = ["title"] by decide),
    unique (show Parameter.keysOf .level = ["level"] by decide),
    unique (show Parameter.keysOf .fuzzy = ["fuzzy"] by decide),
    unique (show Parameter.keysOf .phrase = ["phrase"] by decide),
    unique (show Parameter.keysOf .owner = ["owner"] by decide),
    unique (show Parameter.keysOf .tags = ["tags"] by decide),
    unique (show Parameter.keysOf .logbooks = ["logbooks"] by decide),
    unique (show Parameter.keysOf .properties = ["properties"] by decide),
    unique (show Parameter.keysOf .start = ["start"] by decide),
    unique (show Parameter.keysOf .finish = ["end"] by decide),
    unique (show Parameter.keysOf .limit = ["limit"] by decide)]
  simp [Parameters.mem_givenKeys_iff]

/-- Gathering gives the criteria asked for, unless the parameters are refused. -/
theorem outcome_gather (zone : Time.Zone) (raw : Parameters) :
    (gather zone raw).outcome = barring (refused? raw) (asked zone raw) :=
  outcome_absorbAll zone {} (Parameters.nodup_normalize raw) (Parameters.filled_normalize raw)

end Criteria

end EntrySearch
