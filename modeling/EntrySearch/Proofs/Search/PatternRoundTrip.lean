import EntrySearch.Proofs.Search.PropertySegments

/-!
# Patterns written as terms

A pattern that is read from a term is read again from the term that it is written as. The patterns
that are read from some term are those whose segments are cut clean and which constrain a name or an
attribute, and a value only together with its attribute.
-/

namespace EntrySearch.PropertyPattern

open Text

/-- A pattern as a term; the segment of a level without a constraint is empty. -/
def render (pattern : PropertyPattern) : String :=
  ".".intercalate [pattern.name.getD "", pattern.attributeName.getD "", pattern.value.getD ""]

/-- The text at a position between the marks of the segments of a term, empty where there is
none. -/
def textAt (term : String) (position : Nat) : List Char :=
  (pieces (· = '.') term.toList)[position]?.getD []

/-- A segment as a pattern holds it. -/
structure IsSegment (segment : String) : Prop where
  /-- It is not empty and has no blank character at either end. -/
  trimmed : IsTrimmed segment.toList
  /-- The mark between segments is not part of it. -/
  undotted : '.' ∉ segment.toList

/-- A pattern as it is read. -/
structure IsProper (pattern : PropertyPattern) : Prop where
  /-- The segments that are given are cut clean. -/
  segments : ∀ segment ∈ pattern.segments, IsSegment segment
  /-- There is a name or an attribute. -/
  given : pattern.name ≠ none ∨ pattern.attributeName ≠ none
  /-- A value is one of an attribute. -/
  tied : pattern.value ≠ none → pattern.attributeName ≠ none

theorem segment?_eq_none_iff {piece : List Char} :
    segment? piece = none ↔ isAllBlank piece = true := by
  rw [← trim_eq_nil_iff]
  simp [segment?]

theorem segmentAt_eq_none_iff {parts : List (List Char)} {position : Nat} :
    segmentAt parts position = none ↔ isAllBlank (parts[position]?.getD []) = true := by
  rw [segmentAt]
  cases parts[position]? with
  | none => exact iff_of_true rfl rfl
  | some piece => exact segment?_eq_none_iff

/-- Nothing is read from a term whose first two segments are blank, and from no other one. -/
theorem ofTerm?_eq_none_iff {term : String} :
    ofTerm? term = none ↔
      isAllBlank (textAt term 0) = true ∧ isAllBlank (textAt term 1) = true := by
  rw [ofTerm?_eq, textAt, textAt, ← segmentAt_eq_none_iff, ← segmentAt_eq_none_iff]
  simp

theorem isSegment_of_segmentAt {term segment : String} {position : Nat}
    (found : segmentAt (pieces (· = '.') term.toList) position = some segment) :
    IsSegment segment := by
  obtain ⟨piece, at_position, segment_eq⟩ := Option.bind_eq_some_iff.mp found
  obtain ⟨filled, rfl⟩ := segment?_eq_some_iff.mp segment_eq
  constructor
  · rw [String.toList_ofList]
    exact isTrimmed_trim filled
  · rw [String.toList_ofList]
    intro dot
    have apart := (of_mem_pieces (List.mem_of_getElem? at_position) '.' (mem_of_mem_trim dot)).2
    exact absurd apart (by decide)

theorem isProper_of_ofTerm? {term : String} {pattern : PropertyPattern}
    (read : ofTerm? term = some pattern) : pattern.IsProper := by
  obtain ⟨given, cut⟩ := of_ofTerm? read
  refine ⟨fun segment member => ?_, given, ?_⟩
  · obtain ⟨position, found⟩ := cut segment member
    exact isSegment_of_segmentAt found
  · rw [ofTerm?_eq, Option.ite_none_left_eq_some] at read
    obtain rfl := Option.some.inj read.2
    dsimp only
    intro valued alone
    rw [alone] at valued
    exact valued rfl

theorem forall_mem_segments_iff {pattern : PropertyPattern} {holds : String → Prop} :
    (∀ segment ∈ pattern.segments, holds segment) ↔
      (∀ segment ∈ pattern.name, holds segment) ∧
        (∀ segment ∈ pattern.attributeName, holds segment) ∧
          ∀ segment ∈ pattern.value, holds segment := by
  rw [segments, List.forall_mem_append, List.forall_mem_append, and_assoc]
  simp only [Option.mem_toList, Option.mem_def]

section Levels

variable {given : Option String} (clean : ∀ segment ∈ given, IsSegment segment)

include clean

theorem segment?_getD : segment? (given.getD "").toList = given := by
  cases given with
  | none => rfl
  | some segment =>
      have trimmed := (clean segment rfl).trimmed
      rw [Option.getD_some, segment?_eq_some_iff, trimmed.trim_eq, String.ofList_toList]
      exact ⟨trimmed.filled, rfl⟩

theorem undotted_getD : ∀ c ∈ (given.getD "").toList, decide (c = '.') = false := by
  cases given with
  | none => exact List.forall_mem_nil _
  | some segment =>
      intro c member
      rw [decide_eq_false_iff_not]
      rintro rfl
      exact (clean segment rfl).undotted member

end Levels

/-- A proper pattern is read from the term that it is written as. -/
theorem ofTerm?_render {pattern : PropertyPattern} (proper : pattern.IsProper) :
    ofTerm? pattern.render = some pattern := by
  obtain ⟨name, attributeName, value⟩ := forall_mem_segments_iff.mp proper.segments
  have cut : pieces (· = '.') pattern.render.toList =
      [(pattern.name.getD "").toList, (pattern.attributeName.getD "").toList,
        (pattern.value.getD "").toList] := by
    have undotted : ∀ part ∈ [(pattern.name.getD "").toList,
          (pattern.attributeName.getD "").toList, (pattern.value.getD "").toList],
        ∀ c ∈ part, decide (c = '.') = false := by
      simp only [List.forall_mem_cons]
      exact ⟨undotted_getD name, undotted_getD attributeName, undotted_getD value,
        List.forall_mem_nil _⟩
    rw [render, String.toList_intercalate]
    exact pieces_intercalate (decide_eq_true rfl) (List.cons_ne_nil _ _) undotted
  have levels : segmentAt (pieces (· = '.') pattern.render.toList) 0 = pattern.name ∧
      segmentAt (pieces (· = '.') pattern.render.toList) 1 = pattern.attributeName ∧
      segmentAt (pieces (· = '.') pattern.render.toList) 2 = pattern.value := by
    rw [cut]
    exact ⟨segment?_getD name, segment?_getD attributeName, segment?_getD value⟩
  have value_eq : (pattern.attributeName.bind fun _ => pattern.value) = pattern.value := by
    cases found : pattern.attributeName with
    | some attributeName => rfl
    | none => exact (not_not.mp fun valued => proper.tied valued found).symm
  rw [ofTerm?_eq]
  dsimp only
  rw [levels.1, levels.2.1, levels.2.2, value_eq, if_neg (not_and_or.mpr proper.given)]

/-- Patterns are read from terms as they are written: nothing is read from a term exactly if its
first two segments are blank; what is read is read again from the term that it is written as; and it
may be any proper pattern and nothing else. -/
theorem patterns_round_trip :
    (∀ term, ofTerm? term = none ↔
      isAllBlank (textAt term 0) = true ∧ isAllBlank (textAt term 1) = true) ∧
      (∀ term pattern, ofTerm? term = some pattern → ofTerm? pattern.render = some pattern) ∧
      ∀ pattern, (∃ term, ofTerm? term = some pattern) ↔ pattern.IsProper := by
  refine ⟨fun term => ofTerm?_eq_none_iff, fun term pattern read => ?_, fun pattern => ?_⟩
  · exact ofTerm?_render (isProper_of_ofTerm? read)
  · constructor
    · rintro ⟨term, read⟩
      exact isProper_of_ofTerm? read
    · intro proper
      exact ⟨pattern.render, ofTerm?_render proper⟩

theorem patterns_round_trip_nameless :
    let pattern : PropertyPattern := ⟨none, some "a b", some "1"⟩
    ofTerm? "\u2003. a b .1. c" = some pattern ∧ pattern.render = ".a b.1" ∧
      ofTerm? ".a b.1" = some pattern ∧ pattern.IsProper ∧ ofTerm? " . \t.1" = none := by
  intro pattern
  obtain ⟨none_iff, again, proper_iff⟩ := patterns_round_trip
  have read : ofTerm? "\u2003. a b .1. c" = some pattern := by decide +kernel
  have written : pattern.render = ".a b.1" := by decide +kernel
  refine ⟨read, written, ?_, (proper_iff pattern).mp ⟨_, read⟩, ?_⟩
  · rw [← written]
    exact again _ pattern read
  · exact (none_iff " . \t.1").mpr (by decide +kernel)

end EntrySearch.PropertyPattern
