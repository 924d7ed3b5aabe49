import EntrySearch.Proofs.Search.CleanTerms
import EntrySearch.Proofs.Search.Permissiveness
import EntrySearch.Proofs.Text.LetterCase

/-!
# How parameters are spelled

A search does not depend on the case of ASCII letters in keys and texts, nor on blank characters
around keys: parameters that differ in nothing else ask for the same request, or are refused for the
same fault, in which at most the text that is no timestamp is spelled differently.
-/

namespace EntrySearch

open Outcome Text

/-- Two texts differ in the case of ASCII letters only. -/
def SameText (text other : String) : Prop :=
  SameButForCase text.toList other.toList

instance (text other : String) : Decidable (SameText text other) :=
  inferInstanceAs (Decidable (SameButForCase text.toList other.toList))

/-- A text with blank characters around it. -/
def Text.Padded (core cs : List Char) : Prop :=
  ∃ before after, cs = before ++ core ++ after ∧ (∀ c ∈ before, isBlank c = true) ∧
    ∀ c ∈ after, isBlank c = true

/-- Two keys differ in the case of ASCII letters and in blank characters around them only. -/
def SameKey (key other : String) : Prop :=
  ∃ core recased, Padded core key.toList ∧ Padded recased other.toList ∧
    SameButForCase core recased

/-- Blank characters around a text are trimmed with its own. -/
theorem Text.Padded.trim_eq {core cs : List Char} (padded : Padded core cs) : trim cs = trim core := by
  obtain ⟨before, after, rfl, blank_before, blank_after⟩ := padded
  have behind (xs : List Char) : trimEnd (xs ++ after) = trimEnd xs := by
    have blank : ∀ c ∈ after.reverse, isBlank c = true := fun c member =>
      blank_after c (List.mem_reverse.mp member)
    rw [trimEnd, trimEnd, List.reverse_append, List.dropWhile_append_of_pos blank]
  have front : (before ++ core ++ after).dropWhile isBlank = (core ++ after).dropWhile isBlank := by
    rw [List.append_assoc, List.dropWhile_append_of_pos blank_before]
  rw [trim, trim, front, List.dropWhile_append]
  split
  · rename_i nothing
    have gone : after.dropWhile isBlank = [] := List.dropWhile_eq_nil_iff.mpr blank_after
    rw [gone, List.isEmpty_iff.mp nothing]
  · exact behind _

theorem Parameters.normalKey_eq_of_sameKey {key other : String} (same : SameKey key other) :
    normalKey key = normalKey other := by
  obtain ⟨core, recased, padded, padded', same⟩ := same
  rw [normalKey, normalKey, padded.trim_eq, padded'.trim_eq, same.trim.lower_eq]

section Lists

variable {α β : Type} {xs ys : List String}

/-- What is read off each text by itself is the same for texts spelled differently. -/
theorem map_eq_of_sameText {look : String → α} (blind : ∀ x y, SameText x y → look x = look y)
    (same : List.Forall₂ SameText xs ys) : xs.map look = ys.map look := by
  induction same with
  | nil => rfl
  | cons head _ ih => rw [List.map_cons, List.map_cons, blind _ _ head, ih]

theorem flatMap_eq_of_sameText {look : String → List α}
    (blind : ∀ x y, SameText x y → look x = look y) (same : List.Forall₂ SameText xs ys) :
    xs.flatMap look = ys.flatMap look := by
  rw [List.flatMap_def, List.flatMap_def, map_eq_of_sameText blind same]

theorem rel_findSome? {γ δ : Type} {related : α → β → Prop} {alike : γ → δ → Prop}
    {look : α → Option γ} {look' : β → Option δ} {items : List α} {others : List β}
    (each : ∀ x y, related x y → Option.Rel alike (look x) (look' y))
    (same : List.Forall₂ related items others) :
    Option.Rel alike (items.findSome? look) (others.findSome? look') := by
  induction same with
  | nil => exact .none
  | @cons x y rest rest' head tail ih =>
      have here := each x y head
      rw [List.findSome?_cons, List.findSome?_cons]
      generalize look x = first, look' y = second at here ⊢
      cases here with
      | none => exact ih
      | some found => exact .some found

end Lists

namespace Term

theorem isCaseBlind_endsName : IsCaseBlind endsName :=
  isCaseBlind_of_isMark isMark_of_endsName

theorem isCaseBlind_endsWord : IsCaseBlind endsWord :=
  isCaseBlind_of_isMark isMark_of_endsWord

theorem ofPieces_eq_of_same {parts others : List (List Char)}
    (same : List.Forall₂ SameButForCase parts others) : ofPieces parts = ofPieces others := by
  have terms_eq : parts.map ofPiece = others.map ofPiece := by
    induction same with
    | nil => rfl
    | cons head _ ih =>
        rw [List.map_cons, List.map_cons, ih, ofPiece, ofPiece, head.trim.lower_eq]
  rw [ofPieces, ofPieces, terms_eq]

theorem words_eq_of_sameText (text other : String) (same : SameText text other) :
    words text = words other :=
  ofPieces_eq_of_same (same.pieces isCaseBlind_endsWord)

theorem names_eq_of_sameText (text other : String) (same : SameText text other) :
    names text = names other :=
  ofPieces_eq_of_same (same.pieces isCaseBlind_endsName)

end Term

/-- Texts without letters are spelled in one way. -/
theorem SameText.eq_or_exists_isAlpha {text other : String} (same : SameText text other) :
    text = other ∨
      (∃ c ∈ text.toList, c.isAlpha = true) ∧ ∃ c ∈ other.toList, c.isAlpha = true :=
  (SameButForCase.eq_or_exists_isAlpha same).imp_left String.toList_inj.mp

namespace Timestamp

theorem isDigit_or_mem_of_fits {marks cs : List Char} (fitting : fits marks cs = true) :
    ∀ c ∈ cs, c.isDigit = true ∨ c ∈ marks := by
  induction marks generalizing cs with
  | nil =>
      cases cs with
      | nil => exact fun _ member => absurd member List.not_mem_nil
      | cons c rest => exact absurd fitting Bool.false_ne_true
  | cons mark marks ih =>
      cases cs with
      | nil => exact absurd fitting Bool.false_ne_true
      | cons c rest =>
          rw [fits, Bool.and_eq_true] at fitting
          refine List.forall_mem_cons.mpr ⟨?_, fun d member => ?_⟩
          · split at fitting
            · exact .inl fitting.1
            · exact .inr (beq_iff_eq.mp fitting.1 ▸ List.mem_cons_self)
          · exact (ih fitting.2 d member).imp_right (List.mem_cons_of_mem mark)

theorem read_of_isAlpha {text : String} (letter : ∃ c ∈ text.toList, c.isAlpha = true) :
    read text = .error .shape := by
  obtain ⟨c, member, alpha⟩ := letter
  have misfit : fits shape text.toList = false := by
    by_contra fitting
    rw [Bool.not_eq_false] at fitting
    rcases isDigit_or_mem_of_fits fitting c member with digit | mark
    · exact absurd digit (by simp [(isPlainLetter_of_isAlpha alpha).undigital])
    · have letterless : shape.any Char.isAlpha = false := by decide
      exact absurd alpha (List.any_eq_false.mp letterless c mark)
  simp [read, Fields.ofChars?, misfit]

theorem read_eq_or_shape {text other : String} (same : SameText text other) :
    text = other ∨ read text = .error .shape ∧ read other = .error .shape :=
  same.eq_or_exists_isAlpha.imp_right fun letters =>
    ⟨read_of_isAlpha letters.1, read_of_isAlpha letters.2⟩

theorem moment?_eq_of_sameText (zone : Time.Zone) (text other : String)
    (same : SameText text other) : moment? zone text = moment? zone other := by
  obtain rfl | ⟨first, second⟩ := read_eq_or_shape same
  · rfl
  · rw [moment?, moment?, first, second]

end Timestamp

/-- Two faults tell the same, up to the case of letters in a text that is no timestamp. -/
inductive SearchFault.SameButForCase : SearchFault → SearchFault → Prop
  /-- The faults are the same. -/
  | same (fault : SearchFault) : SameButForCase fault fault
  /-- The texts are spelled differently. -/
  | malformed {key value other : String} {reason : Timestamp.Fault} (texts : SameText value other) :
    SameButForCase (.malformed ⟨key, value, reason⟩) (.malformed ⟨key, other, reason⟩)

theorem Timestamp.rel_malformed? (key text other : String) (same : SameText text other) :
    Option.Rel (fun fault later => SearchFault.SameButForCase (.malformed fault) (.malformed later))
      (malformed? key text) (malformed? key other) := by
  obtain rfl | ⟨first, second⟩ := read_eq_or_shape same
  · generalize malformed? key text = fault
    cases fault with
    | none => exact .none
    | some fault => exact .some (.same _)
  · rw [malformed?, malformed?, first, second]
    exact .some (.malformed same)

namespace Criteria

theorem isSignedDigits_of_isAlpha {text : String} (letter : ∃ c ∈ text.toList, c.isAlpha = true) :
    Decimal.isSignedDigits text.toList = false := by
  obtain ⟨c, member, alpha⟩ := letter
  by_contra shaped
  rw [Bool.not_eq_false, Decimal.isSignedDigits_iff] at shaped
  obtain ⟨sign, signed, split_eq⟩ := Decimal.exists_sign_splitSign text.toList
  rw [split_eq, List.mem_append] at member
  rcases member with front | digits
  · have plain : ∀ sign ∈ [[], ['-'], ['+']], ∀ c ∈ sign, c.isAlpha = false := by simp
    exact absurd alpha (by simp [plain sign signed c front])
  · exact absurd (shaped.2 c digits) (by simp [(isPlainLetter_of_isAlpha alpha).undigital])

theorem limit?_eq_of_sameText (text other : String) (same : SameText text other) :
    limit? text = limit? other := by
  obtain rfl | ⟨first, second⟩ := same.eq_or_exists_isAlpha
  · rfl
  · simp [limit?, isSignedDigits_of_isAlpha first, isSignedDigits_of_isAlpha second]

theorem tooLong?_eq_of_sameText (text other : String) (same : SameText text other) :
    tooLong? text = tooLong? other := by
  obtain rfl | ⟨first, second⟩ := same.eq_or_exists_isAlpha
  · rfl
  · simp [tooLong?, isSignedDigits_of_isAlpha first, isSignedDigits_of_isAlpha second]

theorem rel_refusalAt? (key : String) {texts others : List String}
    (same : List.Forall₂ SameText texts others) :
    Option.Rel SearchFault.SameButForCase (refusalAt? (key, texts)) (refusalAt? (key, others)) := by
  by_cases bound : key ∈ Parameters.boundKeys
  · have faults := rel_findSome? (Timestamp.rel_malformed? key) same
    rw [refusalAt?_bound bound, refusalAt?_bound bound]
    generalize texts.findSome? (Timestamp.malformed? key) = first,
      others.findSome? (Timestamp.malformed? key) = second at faults ⊢
    cases faults with
    | none => exact .none
    | some alike => exact .some alike
  · have same_refusal : refusalAt? (key, texts) = refusalAt? (key, others) := by
      by_cases limit : key = "limit"
      · subst limit
        rw [refusalAt?_limit, refusalAt?_limit]
        cases same with
        | nil => rfl
        | cons head _ =>
            rw [List.head?_cons, List.head?_cons, Option.bind_some, Option.bind_some,
              tooLong?_eq_of_sameText _ _ head]
      · rw [refusalAt?_other bound limit, refusalAt?_other bound limit]
    rw [same_refusal]
    cases refusalAt? (key, others) with
    | none => exact .none
    | some fault => exact .some (.same fault)

end Criteria

/-- Two entries have one normal key, and texts that differ in the case of ASCII letters only. -/
structure Parameters.SameEntry (entry other : String × List String) : Prop where
  /-- The keys belong together. -/
  key : normalKey entry.1 = normalKey other.1
  /-- The texts are spelled differently at most. -/
  texts : List.Forall₂ SameText entry.2 other.2

namespace Parameters

variable {raw other : Parameters}

theorem givenKeys_eq_of_same (same : List.Forall₂ SameEntry raw other) :
    givenKeys raw = givenKeys other := by
  induction same with
  | nil => rfl
  | @cons entry entry' rest rest' head _ ih =>
      have filled : entry.2.isEmpty = entry'.2.isEmpty := by
        rw [Bool.eq_iff_iff, List.isEmpty_iff_length_eq_zero, List.isEmpty_iff_length_eq_zero,
          head.texts.length_eq]
      simp only [givenKeys, List.filter_cons, filled] at ih ⊢
      split
      · rw [List.map_cons, List.map_cons, head.key, ih]
      · exact ih

theorem valuesOf_same (key : String) (same : List.Forall₂ SameEntry raw other) :
    List.Forall₂ SameText (valuesOf key raw) (valuesOf key other) := by
  induction same with
  | nil => exact .nil
  | @cons entry entry' rest rest' head _ ih =>
      rw [valuesOf, valuesOf, List.flatMap_cons, List.flatMap_cons, head.key]
      apply List.rel_append _ ih
      split
      · exact head.texts
      · exact .nil

theorem valuesOfEither_same (key second : String) (same : List.Forall₂ SameEntry raw other) :
    List.Forall₂ SameText (valuesOfEither key second raw) (valuesOfEither key second other) := by
  rw [valuesOfEither, valuesOfEither, givenKeys_eq_of_same same]
  split
  · exact List.rel_append (valuesOf_same second same) (valuesOf_same key same)
  · exact List.rel_append (valuesOf_same key same) (valuesOf_same second same)

end Parameters

namespace Criteria

variable {raw other : Parameters}

theorem asked_eq_of_same (zone : Time.Zone) (same : List.Forall₂ Parameters.SameEntry raw other) :
    asked zone raw = asked zone other := by
  have words_eq (key : String) := flatMap_eq_of_sameText Term.words_eq_of_sameText
    (Parameters.valuesOf_same key same)
  have names_eq (key : String) := flatMap_eq_of_sameText Term.names_eq_of_sameText
    (Parameters.valuesOf_same key same)
  have either_eq := flatMap_eq_of_sameText Term.words_eq_of_sameText
    (Parameters.valuesOfEither_same "description" "desc" same)
  have phrases_eq : phrasesOf (raw.valuesOf "phrase") = phrasesOf (other.valuesOf "phrase") := by
    apply Term.ofPieces_eq_of_same
    rw [List.forall₂_map_left_iff, List.forall₂_map_right_iff]
    exact Parameters.valuesOf_same "phrase" same
  have moments_eq (key : String) :
      momentsOf zone (raw.valuesOf key) = momentsOf zone (other.valuesOf key) := by
    have read := map_eq_of_sameText (Timestamp.moment?_eq_of_sameText zone)
      (Parameters.valuesOf_same key same)
    simpa only [momentsOf, List.filterMap_map, Function.id_comp] using
      congrArg (List.filterMap id) read
  have limit_eq : (raw.valuesOf "limit").head?.bind limit? =
      (other.valuesOf "limit").head?.bind limit? := by
    have read := congrArg List.head? (map_eq_of_sameText limit?_eq_of_sameText
      (Parameters.valuesOf_same "limit" same))
    rw [List.head?_map, List.head?_map] at read
    simpa only [Option.bind_map, Function.id_comp] using congrArg (·.bind id) read
  rw [asked_eq, asked_eq]
  simp only [words_eq, names_eq, either_eq, phrases_eq, moments_eq, limit_eq, patternsOf,
    Parameters.givenKeys_eq_of_same same]

/-- Parameters that are spelled differently are refused for the same fault, or not at all. -/
theorem rel_refused? (same : List.Forall₂ Parameters.SameEntry raw other) :
    Option.Rel SearchFault.SameButForCase (refused? raw) (refused? other) := by
  have keys_eq : raw.firstKeys = other.firstKeys := by
    rw [Parameters.firstKeys, Parameters.firstKeys, Parameters.givenKeys_eq_of_same same]
  rw [refused?_eq, refused?_eq, keys_eq]
  have aligned : List.Forall₂ Eq other.firstKeys other.firstKeys :=
    List.forall₂_same.mpr fun _ _ => rfl
  apply rel_findSome? _ aligned
  rintro key _ rfl
  exact rel_refusalAt? key (Parameters.valuesOf_same key same)

end Criteria

/-- Two parameters differ in the case of ASCII letters and in blank characters around the key. -/
structure Respelled (entry other : String × Given) : Prop where
  /-- The keys differ in case and in blank characters around them. -/
  key : SameKey entry.1 other.1
  /-- The texts differ in case. -/
  texts : List.Forall₂ SameText entry.2.texts other.2.texts

theorem GivenParameters.sameEntry_texts {given other : GivenParameters}
    (same : List.Forall₂ Respelled given other) :
    List.Forall₂ Parameters.SameEntry given.texts other.texts := by
  rw [texts, texts, List.forall₂_map_left_iff, List.forall₂_map_right_iff]
  exact same.imp fun entry entry' respelled =>
    ⟨Parameters.normalKey_eq_of_sameKey respelled.key, respelled.texts⟩

/-- Parameters whose keys and texts are spelled differently are compiled to the same request, or
refused for the same fault, up to the spelling of a text that is no timestamp. -/
theorem Policy.compileRaw_respelled (policy : Policy) (zone : Time.Zone) (now : Present)
    {given other : GivenParameters} (same : List.Forall₂ Respelled given other) :
    let outcome := (policy.compileRaw zone (now.resolve zone) given.toRaw).outcome
    let respelled := (policy.compileRaw zone (now.resolve zone) other.toRaw).outcome
    (∃ request, outcome = .ok request ∧ respelled = .ok request) ∨
      ∃ fault later, outcome = .error fault ∧ respelled = .error later ∧
        fault.SameButForCase later := by
  intro outcome respelled
  have entries := GivenParameters.sameEntry_texts same
  have faults := Criteria.rel_refused? entries
  simp only [outcome, respelled, GivenParameters.compileRaw_toRaw, Policy.outcome_compile,
    Criteria.asked_eq_of_same zone entries]
  generalize Criteria.refused? given.texts = first, Criteria.refused? other.texts = second
    at faults ⊢
  cases faults with
  | none => exact .inl ⟨_, rfl, rfl⟩
  | some alike => exact .inr ⟨_, _, rfl, rfl, alike⟩

/-- A sigma with a small letter behind it, and a limit that is no number. -/
def writtenSmall : GivenParameters :=
  [("desc", .text "ΑΣa beam"), ("Limit", .text "1E5")]

/-- The same in capitals, with blank characters around a key. -/
def writtenLarge : GivenParameters :=
  [(" DESC\t", .text "ΑΣA BEAM"), ("limit", .text "1e5")]

theorem Policy.compileRaw_writtenLarge :
    List.Forall₂ Respelled writtenSmall writtenLarge ∧
      ∃ request, (({} : Policy).compileRaw .utc .epoch writtenSmall.toRaw).outcome = .ok request ∧
        (({} : Policy).compileRaw .utc .epoch writtenLarge.toRaw).outcome = .ok request := by
  have padded : Padded "DESC".toList " DESC\t".toList :=
    ⟨[' '], ['\t'], by decide, by simp [isBlank], by simp [isBlank]⟩
  have bare (cs : List Char) : Padded cs cs :=
    ⟨[], [], by simp, by simp, by simp⟩
  have same : List.Forall₂ Respelled writtenSmall writtenLarge :=
    .cons ⟨⟨_, _, bare _, padded, by decide⟩, .cons (by decide) .nil⟩
      (.cons ⟨⟨_, _, bare _, bare _, by decide⟩, .cons (by decide) .nil⟩ .nil)
  refine ⟨same, ?_⟩
  obtain compiled | ⟨fault, _, refused, _⟩ :=
    Policy.compileRaw_respelled {} .utc (.moment .epoch) same
  · exact compiled
  · have accepted : Criteria.refused? writtenSmall.texts = none := by decide +kernel
    rw [GivenParameters.compileRaw_toRaw, Policy.outcome_compile, accepted] at refused
    exact absurd refused ok_ne_error

end EntrySearch
