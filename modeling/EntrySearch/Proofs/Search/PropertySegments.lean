import EntrySearch.Proofs.Search.CleanTerms
import EntrySearch.Proofs.Search.Refusal
import EntrySearch.Proofs.Text.Pieces
import EntrySearch.Proofs.Text.WordEnds

/-!
# The segments of a property pattern

A segment of a pattern does not depend on the segments behind it, with one exception: a pattern is
put in lower case before it is cut, and the mark between segments is passed over beside a sigma. A
sigma at the end of a segment is a final one or not as the next segment starts.
-/

namespace EntrySearch

open Outcome Text

namespace Query

mutual

/-- The patterns that a query has for a field, in order. -/
def patterns (field : String) : Query → List String
  | .all clauses => patternsOfAll field clauses
  | .any queries => patternsOfAll field queries
  | .wildcard other pattern => if other = field then [pattern] else []
  | .fuzzy _ _ => []
  | .phrase _ _ => []
  | .range _ _ _ => []
  | .nested _ inner _ => inner.patterns field

/-- The patterns that queries have for a field, in order. -/
def patternsOfAll (field : String) : List Query → List String
  | [] => []
  | query :: rest => query.patterns field ++ patternsOfAll field rest

end

end Query

/-- The patterns for a field that are made of one text for the properties. -/
def Policy.patternsFor (policy : Policy) (zone : Time.Zone) (now : Present)
    (field text : String) : Except SearchFault (List String) :=
  (policy.compileRaw zone (now.resolve zone) [("properties", .text text)]).outcome.map
    fun request => request.query.patterns field

theorem Parameters.normalKey_properties : normalKey "properties" = "properties" := by
  decide

namespace Criteria

open Parameters

theorem givenKeys_properties (text : String) :
    Parameters.givenKeys [("properties", [text])] = ["properties"] := by
  simp [Parameters.givenKeys, normalKey_properties]

theorem refused?_properties (text : String) : refused? [("properties", [text])] = none := by
  have keys_eq : Parameters.firstKeys [("properties", [text])] = ["properties"] := by
    rw [Parameters.firstKeys, givenKeys_properties]
    rfl
  rw [refused?_eq, keys_eq, List.findSome?_singleton]
  exact refusalAt?_other (by decide) (by decide) _

theorem asked_properties (zone : Time.Zone) (text : String) :
    asked zone [("properties", [text])] = { properties := patternsOf [text] } := by
  simp [asked_eq, Parameters.valuesOf_singleton, Parameters.valuesOfEither, normalKey_properties,
    givenKeys_properties, Bound.outermost?]

theorem patternsOf_singleton {text : String} (whole : ∀ c ∈ text.toList, Term.endsName c = false) :
    patternsOf [text] = (PropertyPattern.ofTerm? (Term.ofPiece text.toList)).toList := by
  rw [patternsOf, List.flatMap_singleton, Term.names, pieces_eq_singleton whole, Term.ofPieces,
    List.map_singleton, List.filter_singleton]
  cases empty : (Term.ofPiece text.toList).isEmpty with
  | true =>
      rw [String.isEmpty_iff.mp empty]
      rfl
  | false =>
      show List.filterMap PropertyPattern.ofTerm? [Term.ofPiece text.toList] = _
      cases read : PropertyPattern.ofTerm? (Term.ofPiece text.toList) <;> simp [read]

theorem patterns_propertyQuery (pattern : PropertyPattern) :
    (propertyQuery pattern).patterns "properties.name" = pattern.name.toList ∧
      (propertyQuery pattern).patterns "properties.attributes.name" =
        pattern.attributeName.toList := by
  obtain ⟨name, attributeName, value⟩ := pattern
  constructor
  · cases name <;> cases attributeName <;> cases value <;> rfl
  · cases name <;> cases attributeName <;> cases value <;> rfl

end Criteria

namespace PropertyPattern

theorem flatMap_ofTerm? (term : String) :
    let segment := segmentAt (pieces (· = '.') term.toList)
    (ofTerm? term).toList.flatMap (·.name.toList) = (segment 0).toList ∧
      (ofTerm? term).toList.flatMap (·.attributeName.toList) = (segment 1).toList := by
  intro segment
  rw [ofTerm?_eq]
  by_cases nothing : segment 0 = none ∧ segment 1 = none
  · rw [if_pos nothing, nothing.1, nothing.2]
    exact ⟨rfl, rfl⟩
  · rw [if_neg nothing]
    simp [segment]

theorem segment?_congr {piece other : List Char} (same : trim piece = trim other) :
    segment? piece = segment? other := by
  simp only [segment?, same]

theorem segment?_of_filled {piece : List Char} (filled : trim piece ≠ []) :
    segment? piece = some (String.ofList (trim piece)) :=
  segment?_eq_some_iff.mpr ⟨filled, rfl⟩

/-- The mark between segments is passed over beside a sigma. -/
theorem passed_dot : isCaseIgnorable '.' = true := by
  decide +kernel

theorem lowerFrom_append_dot (before : Bool) (front back : List Char) :
    lowerFrom before (front ++ '.' :: back) =
      lowerWithin before (startsCased back) front ++
        '.' :: lowerFrom (front.foldl casedAfter before) back := by
  have cased_eq : startsCased ('.' :: back) = startsCased back := by
    rw [startsCased, if_pos passed_dot]
  obtain ⟨form, cut, -, -, same⟩ := lowerFrom_cons (front.foldl casedAfter before) '.' back
  have near_eq : casedAfter (front.foldl casedAfter before) '.' =
      front.foldl casedAfter before := if_pos passed_dot
  rw [lowerFrom_append, cased_eq, cut, same (by decide +kernel), near_eq]
  rfl

/-- No mark between segments is made by lower case. -/
theorem undotted {before after : Bool} {cs : List Char} (whole : '.' ∉ cs) :
    ∀ c ∈ lowerWithin before after cs, decide (c = '.') = false := by
  intro c member
  rw [decide_eq_false_iff_not]
  rintro rfl
  exact whole (mem_of_isMark_of_mem_lowerWithin (by decide) member)

variable {front name : List Char}

theorem segmentAt_zero (whole : '.' ∉ name) :
    segmentAt (pieces (· = '.') (trim (lower name))) 0 = segment? (lowerFrom false name) := by
  have apart : ∀ c ∈ trim (lower name), decide (c = '.') = false := by
    intro c member
    rw [lower, ← lowerWithin_false] at member
    exact undotted whole c (mem_of_mem_trim member)
  rw [pieces_eq_singleton apart]
  exact segment?_congr (trim_trim _)

/-- The text is cut at the first mark, and trimmed at its own ends only. -/
theorem pieces_trim_lower_append (whole : '.' ∉ front) (back : List Char) :
    pieces (· = '.') (trim (lower (front ++ '.' :: back))) =
      (lowerWithin false (startsCased back) front).dropWhile isBlank ::
        pieces (· = '.') (trimEnd (lowerFrom (front.foldl casedAfter false) back)) := by
  have apart : ∀ c ∈ (lowerWithin false (startsCased back) front).dropWhile isBlank,
      decide (c = '.') = false :=
    fun c member => undotted whole c ((List.dropWhile_sublist isBlank).mem member)
  rw [lower, lowerFrom_append_dot, trim_append_cons (by decide),
    pieces_append_cons apart (by decide)]

theorem segmentAt_zero_append (whole : '.' ∉ name) (back : List Char) :
    segmentAt (pieces (· = '.') (trim (lower (name ++ '.' :: back)))) 0 =
      segment? (lowerWithin false (startsCased back) name) := by
  rw [pieces_trim_lower_append whole]
  exact segment?_congr (trim_dropWhile _)

theorem segmentAt_one (whole : '.' ∉ front) (whole_name : '.' ∉ name) :
    segmentAt (pieces (· = '.') (trim (lower (front ++ '.' :: name)))) 1 =
      segment? (lowerFrom (front.foldl casedAfter false) name) := by
  have apart : ∀ c ∈ trimEnd (lowerFrom (front.foldl casedAfter false) name),
      decide (c = '.') = false := by
    intro c member
    rw [← lowerWithin_false] at member
    exact undotted whole_name c ((List.rdropWhile_prefix isBlank _).mem member)
  rw [pieces_trim_lower_append whole, pieces_eq_singleton apart]
  exact segment?_congr (trim_trimEnd _)

theorem segmentAt_one_append (whole : '.' ∉ front) (whole_name : '.' ∉ name) (back : List Char) :
    segmentAt (pieces (· = '.') (trim (lower (front ++ '.' :: (name ++ '.' :: back))))) 1 =
      segment? (lowerWithin (front.foldl casedAfter false) (startsCased back) name) := by
  rw [pieces_trim_lower_append whole, lowerFrom_append_dot, trimEnd_append_cons (by decide),
    pieces_append_cons (undotted whole_name) (by decide)]
  rfl

/-- What stands behind a text changes the segment that it gives exactly if it meets a sigma at its
end. -/
theorem segment?_lowerWithin (before after : List Char) {name : List Char}
    (filled : ∃ c ∈ name, isBlank c = false) :
    ∃ alone joined, segment? (lowerFrom (before.foldl casedAfter false) name) = some alone ∧
      segment? (lowerWithin (before.foldl casedAfter false) (startsCased after) name) =
        some joined ∧
      (joined = alone ↔ ¬SigmaMeets before name after) := by
  have filled_alone : trim (lowerFrom (before.foldl casedAfter false) name) ≠ [] := by
    rw [← lowerWithin_false]
    exact trim_lowerWithin_ne_nil _ _ filled
  refine ⟨_, _, segment?_of_filled filled_alone,
    segment?_of_filled (trim_lowerWithin_ne_nil _ _ filled), ?_⟩
  rw [String.ofList_inj, trim_lowerWithin_eq_iff]

theorem whole_of_endsSegment {cs : List Char} (apart : ∀ c ∈ cs, endsSegment c = false) :
    '.' ∉ cs ∧ ∀ c ∈ cs, Term.endsName c = false := by
  refine ⟨fun member => absurd (apart '.' member) (by decide), fun c member => ?_⟩
  exact (Bool.or_eq_false_iff.mp (apart c member)).1

end PropertyPattern

namespace Policy

open PropertyPattern

variable (policy : Policy) (zone : Time.Zone) (now : Present)

theorem patternsFor_eq_flatMap (field : String) {text : String}
    (whole : ∀ c ∈ text.toList, Term.endsName c = false) :
    policy.patternsFor zone now field text =
      .ok ((ofTerm? (Term.ofPiece text.toList)).toList.flatMap fun pattern =>
        (Criteria.propertyQuery pattern).patterns field) := by
  have compiled : (policy.compileRaw zone (now.resolve zone) [("properties", .text text)]).outcome =
      .ok (({ properties := Criteria.patternsOf [text] } : Criteria).assembled policy
        (now.resolve zone)) := by
    rw [outcome_compileRaw_eq_ok_iff, ← Criteria.asked_properties zone]
    exact ⟨[("properties", [text])], rfl, Criteria.refused?_properties text, rfl⟩
  rw [patternsFor, compiled, Criteria.patternsOf_singleton whole]
  cases ofTerm? (Term.ofPiece text.toList) with
  | none => rfl
  | some pattern =>
      show Except.ok (((Criteria.propertyQuery pattern).patterns field ++ []) ++ []) = _
      simp

/-- The patterns for names of properties and of attributes are the first two segments. -/
theorem patternsFor_eq {text : String} (whole : ∀ c ∈ text.toList, Term.endsName c = false) :
    let segment := segmentAt (pieces (· = '.') (trim (lower text.toList)))
    policy.patternsFor zone now "properties.name" text = .ok (segment 0).toList ∧
      policy.patternsFor zone now "properties.attributes.name" text = .ok (segment 1).toList := by
  have segments := flatMap_ofTerm? (Term.ofPiece text.toList)
  rw [Term.toList_ofPiece, lower_trim] at segments
  simp only [patternsFor_eq_flatMap policy zone now _ whole, Criteria.patterns_propertyQuery]
  exact ⟨congrArg Except.ok segments.1, congrArg Except.ok segments.2⟩

variable {policy zone now}

theorem toList_dotted (front back : String) :
    (front ++ "." ++ back).toList = front.toList ++ '.' :: back.toList := by
  simp

/-- The mark between segments ends no name. -/
theorem uncut_dotted {front back : String} (uncut : ∀ c ∈ front.toList, Term.endsName c = false)
    (uncut_back : ∀ c ∈ back.toList, Term.endsName c = false) :
    ∀ c ∈ (front ++ "." ++ back).toList, Term.endsName c = false := by
  rw [toList_dotted, List.forall_mem_append, List.forall_mem_cons]
  exact ⟨uncut, by decide, uncut_back⟩

/-- The name of a property is the same with more behind it exactly if no sigma at its end is met. -/
theorem name_joined_iff {n a : String} (apart : ∀ c ∈ n.toList, endsSegment c = false)
    (filled : ∃ c ∈ n.toList, isBlank c = false) (uncut : ∀ c ∈ a.toList, Term.endsName c = false) :
    ∃ alone joined,
      policy.patternsFor zone now "properties.name" n = .ok [alone] ∧
      policy.patternsFor zone now "properties.name" (n ++ "." ++ a) = .ok [joined] ∧
      (joined = alone ↔ ¬SigmaMeets [] n.toList a.toList) := by
  obtain ⟨undotted, uncut_name⟩ := whole_of_endsSegment apart
  have uncut_joined := uncut_dotted uncut_name uncut
  obtain ⟨alone, joined, alone_eq, joined_eq, same_iff⟩ :=
    segment?_lowerWithin [] a.toList filled
  refine ⟨alone, joined, ?_, ?_, same_iff⟩
  · rw [(patternsFor_eq policy zone now uncut_name).1, segmentAt_zero undotted]
    exact congrArg (Except.ok ∘ Option.toList) alone_eq
  · rw [(patternsFor_eq policy zone now uncut_joined).1, toList_dotted,
      segmentAt_zero_append undotted]
    exact congrArg (Except.ok ∘ Option.toList) joined_eq

/-- The name of an attribute is the same with more behind it exactly if no sigma at its end is
met. -/
theorem attributeName_joined_iff {p a v : String} (apart : ∀ c ∈ p.toList, endsSegment c = false)
    (apart_name : ∀ c ∈ a.toList, endsSegment c = false)
    (filled : ∃ c ∈ a.toList, isBlank c = false) (uncut : ∀ c ∈ v.toList, Term.endsName c = false) :
    ∃ alone joined,
      policy.patternsFor zone now "properties.attributes.name" (p ++ "." ++ a) = .ok [alone] ∧
      policy.patternsFor zone now "properties.attributes.name" (p ++ "." ++ a ++ "." ++ v) =
        .ok [joined] ∧
      (joined = alone ↔ ¬SigmaMeets (p ++ ".").toList a.toList v.toList) := by
  obtain ⟨undotted, uncut_front⟩ := whole_of_endsSegment apart
  obtain ⟨undotted_name, uncut_name⟩ := whole_of_endsSegment apart_name
  have uncut_alone := uncut_dotted uncut_front uncut_name
  have uncut_joined := uncut_dotted uncut_alone uncut
  have near_eq : (p ++ ".").toList.foldl casedAfter false = p.toList.foldl casedAfter false := by
    simp [casedAfter, passed_dot]
  obtain ⟨alone, joined, alone_eq, joined_eq, same_iff⟩ :=
    segment?_lowerWithin (p ++ ".").toList v.toList filled
  rw [near_eq] at alone_eq joined_eq
  refine ⟨alone, joined, ?_, ?_, same_iff⟩
  · rw [(patternsFor_eq policy zone now uncut_alone).2, toList_dotted,
      segmentAt_one undotted undotted_name]
    exact congrArg (Except.ok ∘ Option.toList) alone_eq
  · rw [(patternsFor_eq policy zone now uncut_joined).2, toList_dotted, toList_dotted,
      List.append_assoc, List.cons_append, segmentAt_one_append undotted undotted_name]
    exact congrArg (Except.ok ∘ Option.toList) joined_eq

/-- A segment of a property pattern is the same with more behind it exactly if no sigma at its end
is met by a letter of the next segment: this holds for the name of the property and for the name of
the attribute. -/
theorem patternsFor_joined_iff (policy : Policy) (zone : Time.Zone) (now : Present) :
    (∀ n a : String, (∀ c ∈ n.toList, endsSegment c = false) →
      (∃ c ∈ n.toList, isBlank c = false) → (∀ c ∈ a.toList, Term.endsName c = false) →
      ∃ alone joined,
        policy.patternsFor zone now "properties.name" n = .ok [alone] ∧
        policy.patternsFor zone now "properties.name" (n ++ "." ++ a) = .ok [joined] ∧
        (joined = alone ↔ ¬SigmaMeets [] n.toList a.toList)) ∧
    ∀ p a v : String, (∀ c ∈ p.toList, endsSegment c = false) →
      (∀ c ∈ a.toList, endsSegment c = false) → (∃ c ∈ a.toList, isBlank c = false) →
      (∀ c ∈ v.toList, Term.endsName c = false) →
      ∃ alone joined,
        policy.patternsFor zone now "properties.attributes.name" (p ++ "." ++ a) = .ok [alone] ∧
        policy.patternsFor zone now "properties.attributes.name" (p ++ "." ++ a ++ "." ++ v) =
          .ok [joined] ∧
        (joined = alone ↔ ¬SigmaMeets (p ++ ".").toList a.toList v.toList) := by
  constructor
  · intro n a apart filled uncut
    exact name_joined_iff apart filled uncut
  · intro p a v apart apart_name filled uncut
    exact attributeName_joined_iff apart apart_name filled uncut

theorem patternsFor_joined_sigmas :
    let patterns := ({} : Policy).patternsFor .utc (.moment .epoch)
    SigmaMeets [] "ΑΣ".toList "Β".toList ∧ ¬SigmaMeets ("P" ++ ".").toList "ΑΣ".toList " Β".toList ∧
      (∃ alone joined, patterns "properties.name" "ΑΣ" = .ok [alone] ∧
        patterns "properties.name" ("ΑΣ" ++ "." ++ "Β") = .ok [joined] ∧ joined ≠ alone) ∧
      ∃ name, patterns "properties.attributes.name" ("P" ++ "." ++ "ΑΣ") = .ok [name] ∧
        patterns "properties.attributes.name" ("P" ++ "." ++ "ΑΣ" ++ "." ++ " Β") =
          .ok [name] := by
  intro patterns
  have meets : SigmaMeets [] "ΑΣ".toList "Β".toList :=
    ⟨['Α'], [], by decide, List.forall_mem_nil _, by decide +kernel, by decide +kernel⟩
  have apart : ¬SigmaMeets ("P" ++ ".").toList "ΑΣ".toList " Β".toList := by
    rintro ⟨-, -, -, -, -, met⟩
    exact absurd met (by decide +kernel)
  obtain ⟨names, attributes⟩ := patternsFor_joined_iff {} .utc (.moment .epoch)
  have filled : ∃ c ∈ "ΑΣ".toList, isBlank c = false := ⟨'Α', by decide, by decide⟩
  obtain ⟨alone, joined, alone_eq, joined_eq, same_iff⟩ :=
    names "ΑΣ" "Β" (by simp [endsSegment, Term.endsName]) filled (by simp [Term.endsName])
  obtain ⟨name, other, name_eq, other_eq, other_iff⟩ :=
    attributes "P" "ΑΣ" " Β" (by simp [endsSegment, Term.endsName])
      (by simp [endsSegment, Term.endsName]) filled (by simp [Term.endsName])
  obtain rfl := other_iff.mpr apart
  exact ⟨meets, apart, ⟨alone, joined, alone_eq, joined_eq, fun same => same_iff.mp same meets⟩,
    other, name_eq, other_eq⟩

theorem not_patternsFor_joined :
    ¬∀ n a : String, (∀ c ∈ n.toList, endsSegment c = false) →
      (∃ c ∈ n.toList, isBlank c = false) → (∀ c ∈ a.toList, Term.endsName c = false) →
      ∃ name, ({} : Policy).patternsFor .utc (.moment .epoch) "properties.name" n = .ok [name] ∧
        ({} : Policy).patternsFor .utc (.moment .epoch) "properties.name" (n ++ "." ++ a) =
          .ok [name] := by
  intro alike
  obtain ⟨name, alone_eq, joined_eq⟩ := alike "ΑΣ" "Β" (by simp [endsSegment, Term.endsName])
    ⟨'Α', by decide, by decide⟩ (by simp [Term.endsName])
  have final : ({} : Policy).patternsFor .utc (.moment .epoch) "properties.name" "ΑΣ" =
      .ok ["ας"] := by
    decide +kernel
  have plain : ({} : Policy).patternsFor .utc (.moment .epoch) "properties.name"
      ("ΑΣ" ++ "." ++ "Β") = .ok ["ασ"] := by
    decide +kernel
  have same := (plain.symm.trans joined_eq).trans (alone_eq.symm.trans final)
  exact absurd same (by decide)

end Policy

end EntrySearch
