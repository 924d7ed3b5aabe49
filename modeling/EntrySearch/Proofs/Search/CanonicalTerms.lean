import EntrySearch.Proofs.Search.CleanTerms
import EntrySearch.Proofs.Search.JoinedTexts
import EntrySearch.Proofs.Text.WordEnds

/-!
# Terms and their joins

Terms are cut out again of the text that they are joined to, whatever marks stand between them. The
words of a text are those of its names: a name is cut into words at its blank characters, and it
makes no difference whether it is put in lower case before or afterwards.
-/

namespace EntrySearch.Term

open Text

/-- Terms as one text; the mark behind each of them is chosen by its position. -/
def joinedBy (mark : Nat → Char) : List String → String
  | [] => ""
  | first :: rest => joined first (rest.zipIdx.map fun part => (mark part.2, part.1))

/-- The parts of a text between blank characters, as they stand. -/
def blankSeparated (text : String) : List String :=
  ((pieces isBlank text.toList).filter (!·.isEmpty)).map String.ofList

/-! ## Terms that are joined -/

section Joins

variable {ends : Char → Bool}

theorem terms_joinedBy {mark : Nat → Char} (marks : ∀ i, ends (mark i) = true)
    (parts : List String) : terms ends (joinedBy mark parts) = parts.flatMap (terms ends) := by
  cases parts with
  | nil => rfl
  | cons first rest =>
      have marked : ∀ part ∈ rest.zipIdx.map fun part => (mark part.2, part.1),
          ends part.1 = true :=
        List.forall_mem_map.mpr fun part _ => marks part.2
      rw [joinedBy, terms_joined first marked, List.map_map]
      exact congrArg (fun others => (first :: others).flatMap (terms ends))
        (List.zipIdx_map_fst 0 rest)

theorem ofPiece_of_isClean {term : String} (clean : IsClean term) : ofPiece term.toList = term := by
  rw [ofPiece, clean.trimmed.trim_eq, clean.lower, String.ofList_toList]

theorem terms_eq_singleton {term : String} (clean : IsClean term)
    (apart : ∀ c ∈ term.toList, ends c = false) : terms ends term = [term] := by
  have filled : term.isEmpty = false := by
    rw [Bool.eq_false_iff]
    intro empty
    exact clean.trimmed.filled (by rw [String.isEmpty_iff.mp empty]; rfl)
  rw [terms, pieces_eq_singleton apart, ofPieces, List.map_singleton, ofPiece_of_isClean clean,
    List.filter_singleton, filled]
  rfl

theorem terms_joinedBy_terms (separates : ∀ c, ends c = true → isMark c = true)
    {mark : Nat → Char} (marks : ∀ i, ends (mark i) = true) (value : String) :
    terms ends (joinedBy mark (terms ends value)) = terms ends value := by
  have alone : ∀ term ∈ terms ends value, terms ends term = [term] := fun term member =>
    terms_eq_singleton (isClean_of_mem_ofPieces member) (not_ends_of_mem_ofPieces separates member)
  rw [terms_joinedBy marks, List.flatMap_congr alone, List.flatMap_singleton']

end Joins

/-! ## Words of names -/

section Words

theorem ofPieces_nil_cons (parts : List (List Char)) : ofPieces ([] :: parts) = ofPieces parts :=
  rfl

theorem ofPieces_dropWhile (cs : List Char) :
    ofPieces (pieces isBlank (cs.dropWhile isBlank)) = ofPieces (pieces isBlank cs) := by
  induction cs with
  | nil => rfl
  | cons c rest ih =>
      rw [List.dropWhile_cons]
      split
      · rename_i blank
        rw [ih, pieces, if_pos blank, ofPieces_nil_cons]
      · rfl

theorem ofPieces_trimEnd (cs : List Char) :
    ofPieces (pieces isBlank (trimEnd cs)) = ofPieces (pieces isBlank cs) := by
  induction cs using List.reverseRecOn with
  | nil => rfl
  | append_singleton cs c ih =>
      rw [trimEnd_concat]
      split
      · rename_i blank
        rw [ih, pieces_append blank, ofPieces_append]
        exact (List.append_nil _).symm
      · rfl

/-- Blank characters at the ends of a text make no difference to what stands between the others. -/
theorem ofPieces_trim (cs : List Char) :
    ofPieces (pieces isBlank (trim cs)) = ofPieces (pieces isBlank cs) :=
  (ofPieces_trimEnd _).trans (ofPieces_dropWhile cs)

theorem pieces_lower (cs : List Char) :
    pieces isBlank (lower cs) = (pieces isBlank cs).map lower := by
  induction cs using cut_induction isBlank with
  | whole cs filled =>
      have filled_lower : ∀ c ∈ lower cs, isBlank c = false := by
        intro c member
        by_contra blank
        rw [Bool.not_eq_false] at blank
        have before := mem_of_isMark_of_mem_lowerFrom (by simp [isMark, blank]) member
        exact Bool.false_ne_true ((filled c before).symm.trans blank)
      rw [pieces_eq_singleton filled, pieces_eq_singleton filled_lower, List.map_singleton]
  | cut front separator back blank ih_front ih_back =>
      rw [lower_append_of_isBlank blank, pieces_append blank, pieces_append blank, ih_front,
        ih_back, List.map_append]

theorem ofPiece_lower (piece : List Char) : ofPiece (lower piece) = ofPiece piece := by
  rw [ofPiece, ofPiece, ← lower_trim, lower_lower]

theorem ofPieces_lower (cs : List Char) :
    ofPieces (pieces isBlank (lower cs)) = ofPieces (pieces isBlank cs) := by
  rw [pieces_lower, ofPieces, ofPieces, List.map_map]
  exact congrArg (List.filter _) (List.map_congr_left fun piece _ => ofPiece_lower piece)

/-- Where nothing ends a name, words are what stands between blank characters. -/
theorem words_of_uncut {value : String} (uncut : ∀ c ∈ value.toList, endsName c = false) :
    words value = ofPieces (pieces isBlank value.toList) := by
  have blanks : ∀ c ∈ value.toList, endsWord c = isBlank c := by
    intro c member
    rw [endsWord, uncut c member, Bool.false_or]
  rw [words, pieces_congr blanks]

/-- A piece without marks is put in lower case before it is cut into words, to the same effect. -/
theorem words_ofPiece {piece : List Char} (uncut : ∀ c ∈ piece, endsName c = false) :
    words (ofPiece piece) = ofPieces (pieces endsWord piece) := by
  have uncut_term : ∀ c ∈ (ofPiece piece).toList, endsName c = false := by
    intro c member
    by_contra separates
    rw [Bool.not_eq_false] at separates
    rw [toList_ofPiece] at member
    have before := mem_of_mem_trim
      (mem_of_isMark_of_mem_lowerFrom (isMark_of_endsName c separates) member)
    exact Bool.false_ne_true ((uncut c before).symm.trans separates)
  have whole : words (String.ofList piece) = ofPieces (pieces endsWord piece) := by
    rw [words, String.toList_ofList]
  rw [words_of_uncut uncut_term, toList_ofPiece, ofPieces_lower, ofPieces_trim, ← whole,
    words_of_uncut (by rwa [String.toList_ofList]), String.toList_ofList]

theorem flatMap_words_ofPieces (parts : List (List Char)) :
    (ofPieces parts).flatMap words = parts.flatMap fun piece => words (ofPiece piece) := by
  induction parts with
  | nil => rfl
  | cons piece rest ih =>
      rw [List.flatMap_cons, ← ih, ofPieces, List.map_cons, List.filter_cons]
      split
      · rw [List.flatMap_cons]
        rfl
      · rename_i empty
        have empty_eq : ofPiece piece = "" := by simpa using empty
        rw [empty_eq]
        rfl

/-- The words of a text are the words of its names. -/
theorem words_eq_flatMap_names (value : String) : words value = (names value).flatMap words := by
  rw [words, names, flatMap_words_ofPieces]
  induction value.toList using cut_induction endsName with
  | whole cs uncut => rw [pieces_eq_singleton uncut, List.flatMap_singleton, words_ofPiece uncut]
  | cut front separator back separates ih_front ih_back =>
      have separates_words : endsWord separator = true := by rw [endsWord, separates, Bool.true_or]
      rw [pieces_append separates_words, pieces_append separates, ofPieces_append, ih_front,
        ih_back, List.flatMap_append]

theorem words_of_isClean {name : String} (clean : IsClean name)
    (uncut : ∀ c ∈ name.toList, endsName c = false) : words name = blankSeparated name := by
  have small : ∀ c ∈ name.toList, IsLower c := by
    intro c member
    rw [← clean.lower] at member
    exact isLower_of_mem_lowerFrom member
  have kept : ∀ piece ∈ pieces isBlank name.toList, ofPiece piece = String.ofList piece := by
    intro piece cut
    have inside := of_mem_pieces cut
    have lower_eq : lower piece = piece :=
      lowerFrom_eq_self fun c member => small c (inside c member).1
    rw [ofPiece, trim_eq_self fun c member => (inside c member).2, lower_eq]
  rw [words_of_uncut uncut, ofPieces, List.map_congr_left kept, List.filter_map, blankSeparated]
  have empty_iff (piece : List Char) : (String.ofList piece).isEmpty = piece.isEmpty := by
    rw [Bool.eq_iff_iff, String.isEmpty_iff, List.isEmpty_iff, String.ofList_eq_empty_iff]
  exact congrArg (List.map String.ofList) (List.filter_congr fun piece _ =>
    congrArg (!·) (empty_iff piece))

end Words

/-- Terms are canonical. Those of a text are cut out again of their join, whatever marks stand
between them, and its words are the words of its names, which are what stands between blank
characters there. -/
theorem words_and_names_canonical (value : String) :
    (∀ mark : Nat → Char, (∀ i, endsWord (mark i) = true) →
        words (joinedBy mark (words value)) = words value) ∧
      (∀ mark : Nat → Char, (∀ i, endsName (mark i) = true) →
        names (joinedBy mark (names value)) = names value) ∧
      words value = (names value).flatMap words ∧
      words value = (names value).flatMap blankSeparated := by
  have as_they_stand : ∀ name ∈ names value, words name = blankSeparated name := fun name member =>
    words_of_isClean (isClean_of_mem_ofPieces member)
      (not_ends_of_mem_ofPieces isMark_of_endsName member)
  refine ⟨fun mark marks => terms_joinedBy_terms isMark_of_endsWord marks value,
    fun mark marks => terms_joinedBy_terms isMark_of_endsName marks value,
    words_eq_flatMap_names value, ?_⟩
  rw [words_eq_flatMap_names, List.flatMap_congr as_they_stand]

theorem words_and_names_canonical_sigma :
    let mark (i : Nat) : Char := if i % 2 = 0 then ';' else '|'
    let value := "ΟΔΟΣ Σ|,\u2003İX ;"
    (∀ i, endsWord (mark i) = true) ∧ (∀ i, endsName (mark i) = true) ∧
      words value = ["οδος", "σ", "i\u0307x"] ∧ names value = ["οδος σ", "i\u0307x"] ∧
      words (joinedBy mark (words value)) = words value ∧
      names (joinedBy mark (names value)) = names value ∧
      words value = (names value).flatMap words ∧
      words value = (names value).flatMap blankSeparated := by
  intro mark value
  have marks_word : ∀ i, endsWord (mark i) = true := by
    intro i
    dsimp only [mark]
    split <;> decide
  have marks_name : ∀ i, endsName (mark i) = true := by
    intro i
    dsimp only [mark]
    split <;> decide
  obtain ⟨words_joined, names_joined, words_eq, parts_eq⟩ := words_and_names_canonical value
  exact ⟨marks_word, marks_name, by decide +kernel, by decide +kernel, words_joined mark marks_word,
    names_joined mark marks_name, words_eq, parts_eq⟩

end EntrySearch.Term
