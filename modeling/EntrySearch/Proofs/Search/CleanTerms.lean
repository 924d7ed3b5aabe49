import EntrySearch.Proofs.Text.LowerCase
import EntrySearch.Search.Criteria
import Mathlib.Data.List.DropRight

/-!
# Terms are clean

Whatever is cut out of the values of a search is not empty, has no blank character at either end and
is in lower case; what ended it is not part of it.
-/

namespace EntrySearch

namespace Text

/-- A text that is not empty and has no blank character at either end. -/
structure IsTrimmed (cs : List Char) : Prop where
  /-- There is a character. -/
  filled : cs ≠ []
  /-- The first character is not blank. -/
  front : ∀ c ∈ cs.head?, isBlank c = false
  /-- The last character is not blank. -/
  back : ∀ c ∈ cs.getLast?, isBlank c = false

theorem trimEnd_eq_rdropWhile (cs : List Char) : trimEnd cs = cs.rdropWhile isBlank :=
  rfl

theorem mem_of_mem_trim {cs : List Char} {c : Char} (member : c ∈ trim cs) : c ∈ cs := by
  rw [trim, trimEnd_eq_rdropWhile] at member
  exact (List.dropWhile_sublist isBlank).mem ((List.rdropWhile_prefix isBlank _).mem member)

theorem isTrimmed_trim {cs : List Char} (filled : trim cs ≠ []) : IsTrimmed (trim cs) := by
  refine ⟨filled, fun c front => ?_, fun c back => ?_⟩
  · obtain ⟨rest, cut⟩ : trim cs <+: cs.dropWhile isBlank := List.rdropWhile_prefix isBlank _
    have first : (cs.dropWhile isBlank).head? = some c := by
      rw [← cut, List.head?_append_of_ne_nil _ filled]
      exact front
    have stopped := List.head?_dropWhile_not isBlank cs
    rw [first] at stopped
    exact stopped
  · have stopped := List.rdropWhile_last_not isBlank (cs.dropWhile isBlank) filled
    rw [List.getLast?_eq_getLast_of_ne_nil filled, Option.mem_some_iff] at back
    rw [Bool.eq_false_iff, ← back]
    exact stopped

theorem IsTrimmed.trim_eq {cs : List Char} (trimmed : IsTrimmed cs) : trim cs = cs := by
  have front : cs.dropWhile isBlank = cs := by
    refine List.dropWhile_eq_self_iff.mpr fun nonempty => ?_
    rw [trimmed.front cs[0] (List.head?_eq_getElem? ▸ List.getElem?_eq_getElem nonempty)]
    exact Bool.false_ne_true
  have back : cs.rdropWhile isBlank = cs := by
    refine List.rdropWhile_eq_self_iff.mpr fun nonempty => ?_
    rw [trimmed.back _ (List.getLast?_eq_getLast_of_ne_nil nonempty)]
    exact Bool.false_ne_true
  rw [trim, front, trimEnd_eq_rdropWhile, back]

theorem trim_eq_self {cs : List Char} (filled : ∀ c ∈ cs, isBlank c = false) : trim cs = cs := by
  cases cs with
  | nil => rfl
  | cons c rest =>
      have trimmed : IsTrimmed (c :: rest) :=
        ⟨List.cons_ne_nil c rest, fun d front => filled d (List.mem_of_head? front),
          fun d back => filled d (List.mem_of_getLast? back)⟩
      exact trimmed.trim_eq

theorem IsTrimmed.lower {cs : List Char} (trimmed : IsTrimmed cs) : IsTrimmed (lower cs) := by
  have mark {c : Char} (blank : isBlank c = true) : isMark c = true := by simp [isMark, blank]
  refine ⟨fun nothing => trimmed.filled (lowerFrom_eq_nil_iff.mp nothing), fun c front => ?_,
    fun c back => ?_⟩
  · rw [Bool.eq_false_iff]
    intro blank
    have known := trimmed.front c (head?_of_isMark_lowerFrom (mark blank) front)
    exact Bool.false_ne_true (known.symm.trans blank)
  · rw [Bool.eq_false_iff]
    intro blank
    have known := trimmed.back c (getLast?_of_isMark_lowerFrom (mark blank) back)
    exact Bool.false_ne_true (known.symm.trans blank)

/-- A piece is made of characters of the text that separate nothing. -/
theorem of_mem_pieces {ends : Char → Bool} {cs piece : List Char}
    (member : piece ∈ pieces ends cs) : ∀ c ∈ piece, c ∈ cs ∧ ends c = false := by
  induction cs generalizing piece with
  | nil =>
      obtain rfl : piece = [] := by simpa [pieces] using member
      simp
  | cons c rest ih =>
      intro d inside
      by_cases separates : ends c
      · rw [pieces, if_pos separates, List.mem_cons] at member
        rcases member with rfl | later
        · exact absurd inside List.not_mem_nil
        · exact ⟨List.mem_cons_of_mem c (ih later d inside).1, (ih later d inside).2⟩
      · rw [pieces, if_neg separates] at member
        cases cut : pieces ends rest with
        | nil => exact absurd cut (pieces_ne_nil ends rest)
        | cons first others =>
            rw [cut, prependToFirst, List.mem_cons] at member
            rcases member with rfl | later
            · rcases List.mem_cons.mp inside with rfl | further
              · exact ⟨List.mem_cons_self, by simpa using separates⟩
              · have known := ih (cut ▸ List.mem_cons_self) d further
                exact ⟨List.mem_cons_of_mem c known.1, known.2⟩
            · have known := ih (cut ▸ List.mem_cons_of_mem first later) d inside
              exact ⟨List.mem_cons_of_mem c known.1, known.2⟩

end Text

namespace Term

open Text

/-- A text as it is asked for: trimmed, not empty and in lower case. -/
structure IsClean (text : String) : Prop where
  /-- There is a character, and none at an end is blank. -/
  trimmed : IsTrimmed text.toList
  /-- Lower case leaves it as it is. -/
  lower : Text.lower text.toList = text.toList

theorem toList_ofPiece (piece : List Char) : (ofPiece piece).toList = Text.lower (trim piece) :=
  String.toList_ofList

theorem isClean_of_mem_ofPieces {parts : List (List Char)} {term : String}
    (member : term ∈ ofPieces parts) : IsClean term := by
  rw [ofPieces, List.mem_filter, List.mem_map] at member
  obtain ⟨⟨piece, -, rfl⟩, filled⟩ := member
  have kept : trim piece ≠ [] := by
    intro nothing
    simp [ofPiece, nothing] at filled
  constructor
  · rw [toList_ofPiece]
    exact (isTrimmed_trim kept).lower
  · rw [toList_ofPiece]
    exact lowerFrom_eq_self fun c => isLower_of_mem_lowerFrom

theorem of_mark_mem_ofPieces {parts : List (List Char)} {term : String} {c : Char}
    (member : term ∈ ofPieces parts) (inside : c ∈ term.toList) (mark : isMark c = true) :
    ∃ piece ∈ parts, c ∈ piece := by
  rw [ofPieces, List.mem_filter, List.mem_map] at member
  obtain ⟨⟨piece, cut, rfl⟩, -⟩ := member
  rw [toList_ofPiece] at inside
  exact ⟨piece, cut, mem_of_mem_trim (mem_of_isMark_of_mem_lowerFrom mark inside)⟩

/-- What ends a term is not part of it. -/
theorem not_ends_of_mem_ofPieces {ends : Char → Bool} {value : List Char} {term : String}
    (marks : ∀ c, ends c = true → isMark c = true) (member : term ∈ ofPieces (pieces ends value)) :
    ∀ c ∈ term.toList, ends c = false := by
  intro c inside
  by_contra separates
  rw [Bool.not_eq_false] at separates
  obtain ⟨piece, cut, within⟩ := of_mark_mem_ofPieces member inside (marks c separates)
  exact absurd (of_mem_pieces cut c within).2 (by simp [separates])

theorem isMark_of_endsName (c : Char) (separates : endsName c = true) : isMark c = true := by
  simp only [endsName, Bool.or_eq_true, decide_eq_true_iff] at separates
  rcases separates with (rfl | rfl) | rfl <;> decide

theorem isMark_of_endsWord (c : Char) (separates : endsWord c = true) : isMark c = true := by
  rw [endsWord, Bool.or_eq_true] at separates
  rcases separates with named | blank
  · exact isMark_of_endsName c named
  · simp [isMark, blank]

theorem of_mem_words {values : List String} {word : String} (member : word ∈ values.flatMap words) :
    IsClean word ∧ ∀ c ∈ word.toList, endsWord c = false := by
  obtain ⟨value, -, cut⟩ := List.mem_flatMap.mp member
  exact ⟨isClean_of_mem_ofPieces cut, not_ends_of_mem_ofPieces isMark_of_endsWord cut⟩

theorem of_mem_names {values : List String} {name : String} (member : name ∈ values.flatMap names) :
    IsClean name ∧ ∀ c ∈ name.toList, endsName c = false := by
  obtain ⟨value, -, cut⟩ := List.mem_flatMap.mp member
  exact ⟨isClean_of_mem_ofPieces cut, not_ends_of_mem_ofPieces isMark_of_endsName cut⟩

end Term

namespace PropertyPattern

open Text Term

/-- What ends a segment of a pattern. -/
def endsSegment (c : Char) : Bool :=
  endsName c || c = '.'

theorem segment?_eq_some_iff {piece : List Char} {segment : String} :
    segment? piece = some segment ↔ trim piece ≠ [] ∧ String.ofList (trim piece) = segment := by
  simp [segment?]

theorem of_segmentAt {name segment : String} {position : Nat} (clean : IsClean name)
    (apart : ∀ c ∈ name.toList, endsName c = false)
    (found : segmentAt (pieces (· = '.') name.toList) position = some segment) :
    IsClean segment ∧ ∀ c ∈ segment.toList, endsSegment c = false := by
  obtain ⟨piece, at_position, segment_eq⟩ := Option.bind_eq_some_iff.mp found
  obtain ⟨filled, rfl⟩ := segment?_eq_some_iff.mp segment_eq
  have inside : ∀ c ∈ trim piece, c ∈ name.toList ∧ (c = '.') = False := by
    intro c member
    have known := of_mem_pieces (List.mem_of_getElem? at_position) c (mem_of_mem_trim member)
    exact ⟨known.1, by simpa using known.2⟩
  have small : ∀ c ∈ name.toList, IsLower c := by
    intro c member
    rw [← clean.lower] at member
    exact isLower_of_mem_lowerFrom member
  refine ⟨⟨?_, ?_⟩, fun c member => ?_⟩
  · rw [String.toList_ofList]
    exact isTrimmed_trim filled
  · rw [String.toList_ofList]
    exact lowerFrom_eq_self fun c member => small c (inside c member).1
  · rw [String.toList_ofList] at member
    simp [endsSegment, apart c (inside c member).1, (inside c member).2]

/-- The segments of a pattern that are given. -/
def segments (pattern : PropertyPattern) : List String :=
  pattern.name.toList ++ pattern.attributeName.toList ++ pattern.value.toList

theorem ofTerm?_eq (term : String) :
    ofTerm? term =
      let segment := segmentAt (pieces (· = '.') term.toList)
      if segment 0 = none ∧ segment 1 = none then none
      else some ⟨segment 0, segment 1, (segment 1).bind fun _ => segment 2⟩ := by
  simp only [ofTerm?]
  cases segmentAt (pieces (· = '.') term.toList) 0 <;>
    cases segmentAt (pieces (· = '.') term.toList) 1 <;> simp

/-- A pattern has a name or an attribute, and its segments are those of the term. -/
theorem of_ofTerm? {term : String} {pattern : PropertyPattern}
    (read : ofTerm? term = some pattern) :
    (pattern.name ≠ none ∨ pattern.attributeName ≠ none) ∧
      ∀ segment ∈ pattern.segments,
        ∃ position, segmentAt (pieces (· = '.') term.toList) position = some segment := by
  rw [ofTerm?_eq, Option.ite_none_left_eq_some] at read
  obtain ⟨given, read⟩ := read
  obtain rfl := Option.some.inj read
  refine ⟨not_and_or.mp given, fun segment member => ?_⟩
  simp only [segments, List.mem_append, Option.mem_toList, Option.bind_eq_some_iff] at member
  rcases member with (name | attributeName) | ⟨_, _, value⟩
  · exact ⟨0, name⟩
  · exact ⟨1, attributeName⟩
  · exact ⟨2, value⟩

theorem of_mem_filterMap_ofTerm? {values : List String} {pattern : PropertyPattern}
    (member : pattern ∈ (values.flatMap names).filterMap ofTerm?) :
    (pattern.name ≠ none ∨ pattern.attributeName ≠ none) ∧
      ∀ segment ∈ pattern.segments,
        IsClean segment ∧ ∀ c ∈ segment.toList, endsSegment c = false := by
  obtain ⟨name, named, read⟩ := List.mem_filterMap.mp member
  obtain ⟨clean, apart⟩ := of_mem_names named
  obtain ⟨filled, cut⟩ := of_ofTerm? read
  refine ⟨filled, fun segment given => ?_⟩
  obtain ⟨position, found⟩ := cut segment given
  exact of_segmentAt clean apart found

end PropertyPattern

end EntrySearch
