import EntrySearch.Proofs.Search.Normalization
import EntrySearch.Proofs.Text.Pieces
import EntrySearch.Proofs.Text.Utf8
import EntrySearch.Search.QueryString

/-!
# Writing query strings

A query string is written with percent signs before the octets of all but a few characters, and is
read as the pairs that it was written for. Reading pairs from a query string and from options loses
none of them: it only brings the values of a key together.
-/

namespace EntrySearch.QueryString

open Text

/-- Letters, digits and four marks, which stand for themselves. -/
def isUnreserved (c : Char) : Bool :=
  c.isAlphanum || c = '_' || c = '.' || c = '-' || c = '~'

/-- A hexadecimal digit, in capital letters. -/
def hexDigit (n : Nat) : Char :=
  Char.ofNat (if n < 10 then '0'.toNat + n else 'A'.toNat + (n - 10))

/-- An octet as two hexadecimal digits after a percent sign. -/
def writtenOctet (octet : Nat) : List Char :=
  ['%', hexDigit (octet / 16), hexDigit (octet % 16)]

/-- A character in a query string. -/
def writtenChar (c : Char) : List Char :=
  if c = ' ' then ['+']
  else if isUnreserved c then [c]
  else (Utf8.encodeChar c).flatMap writtenOctet

/-- A key or a value in a query string. -/
def written (text : String) : List Char :=
  text.toList.flatMap writtenChar

/-- A key and a value with an equals sign between them. -/
def writtenItem (pair : String × String) : List Char :=
  written pair.1 ++ '=' :: written pair.2

/-- The query string for pairs of a key and a value. -/
def write (pairs : List (String × String)) : String :=
  String.ofList (['&'].intercalate (pairs.map writtenItem))

/-- Every key once, in the order in which the keys first appear, with all of its values in order. -/
def grouped (pairs : List (String × String)) : Parameters :=
  (pairs.map Prod.fst).eraseDups.map fun key =>
    (key, (pairs.filter fun pair => pair.1 = key).map Prod.snd)

theorem hexValue?_hexDigit {n : Nat} (small : n < 16) : Json.hexValue? (hexDigit n) = some n := by
  revert n
  decide

theorem isUnreserved_hexDigit {n : Nat} (small : n < 16) : isUnreserved (hexDigit n) = true := by
  revert n
  decide

theorem encodeChar_lt {c : Char} {octet : Nat} (member : octet ∈ Utf8.encodeChar c) :
    octet < 256 := by
  have scalar := Utf8.toNat_lt_or_between c
  unfold Utf8.encodeChar at member
  dsimp only at member
  split at member
  · simp only [List.mem_singleton] at member
    omega
  · split at member
    · simp only [List.mem_cons, List.not_mem_nil, or_false] at member
      omega
    · split at member
      · simp only [List.mem_cons, List.not_mem_nil, or_false] at member
        omega
      · simp only [List.mem_cons, List.not_mem_nil, or_false] at member
        omega

theorem of_mem_writtenChar {c d : Char} (member : d ∈ writtenChar c) :
    isUnreserved d = true ∨ d = '%' ∨ d = '+' := by
  unfold writtenChar at member
  split at member
  · exact .inr (.inr (List.mem_singleton.mp member))
  · split at member
    · rename_i unreserved
      obtain rfl := List.mem_singleton.mp member
      exact .inl unreserved
    · obtain ⟨octet, known, inside⟩ := List.mem_flatMap.mp member
      have small := encodeChar_lt known
      simp only [writtenOctet, List.mem_cons, List.not_mem_nil, or_false] at inside
      rcases inside with rfl | rfl | rfl
      · exact .inr (.inl rfl)
      · exact .inl (isUnreserved_hexDigit (by omega))
      · exact .inl (isUnreserved_hexDigit (by omega))

theorem notMem_written {mark : Char} (text : String) (reserved : isUnreserved mark = false)
    (not_percent : mark ≠ '%') (not_plus : mark ≠ '+') : mark ∉ written text := by
  intro member
  obtain ⟨c, -, inside⟩ := List.mem_flatMap.mp member
  rcases of_mem_writtenChar inside with unreserved | percent | plus
  · exact absurd (reserved.symm.trans unreserved) Bool.false_ne_true
  · exact not_percent percent
  · exact not_plus plus

theorem octets_cons {c : Char} (plain : c ≠ '%') (rest : List Char) :
    octets (c :: rest) = Utf8.encodeChar c ++ octets rest := by
  rw [octets]
  rintro a b others rfl
  exact absurd rfl plain

theorem octets_writtenOctet {octet : Nat} (small : octet < 256) (rest : List Char) :
    octets (writtenOctet octet ++ rest) = octet :: octets rest := by
  have high := hexValue?_hexDigit (show octet / 16 < 16 by omega)
  have low := hexValue?_hexDigit (show octet % 16 < 16 by omega)
  simp only [writtenOctet, List.cons_append, List.nil_append, octets, high, low,
    Nat.div_add_mod octet 16]

theorem octets_flatMap_writtenOctet {values : List Nat} (small : ∀ octet ∈ values, octet < 256)
    (rest : List Char) : octets (values.flatMap writtenOctet ++ rest) = values ++ octets rest := by
  induction values with
  | nil => rfl
  | cons octet others ih =>
      obtain ⟨first, later⟩ := List.forall_mem_cons.mp small
      rw [List.flatMap_cons, List.append_assoc, octets_writtenOctet first, ih later,
        List.cons_append]

theorem map_spaced_flatMap_writtenOctet {values : List Nat}
    (small : ∀ octet ∈ values, octet < 256) :
    (values.flatMap writtenOctet).map spaced = values.flatMap writtenOctet := by
  have untouched : ∀ n < 16, spaced (hexDigit n) = hexDigit n := by decide
  rw [List.map_flatMap]
  refine List.flatMap_congr fun octet member => ?_
  have bound := small octet member
  simp only [writtenOctet, List.map_cons, List.map_nil, untouched (octet / 16) (by omega),
    untouched (octet % 16) (by omega)]
  rfl

theorem octets_writtenChar (c : Char) (rest : List Char) :
    octets ((writtenChar c ++ rest).map spaced) =
      Utf8.encodeChar c ++ octets (rest.map spaced) := by
  rw [List.map_append]
  unfold writtenChar
  split
  · rename_i space
    subst space
    exact octets_cons (by decide) _
  · split
    · rename_i unreserved
      have not_percent : c ≠ '%' := by
        rintro rfl
        exact absurd unreserved (by decide)
      have not_plus : c ≠ '+' := by
        rintro rfl
        exact absurd unreserved (by decide)
      have unspaced : spaced c = c := if_neg not_plus
      rw [List.map_singleton, unspaced]
      exact octets_cons not_percent _
    · have small : ∀ octet ∈ Utf8.encodeChar c, octet < 256 := fun _ member => encodeChar_lt member
      rw [map_spaced_flatMap_writtenOctet small, octets_flatMap_writtenOctet small]

theorem decode_written (text : String) : decode (written text) = text := by
  have octets_eq : ∀ cs : List Char,
      octets ((cs.flatMap writtenChar).map spaced) = Utf8.encode cs := by
    intro cs
    induction cs with
    | nil => rfl
    | cons c rest ih =>
        rw [List.flatMap_cons, octets_writtenChar, ih]
        rfl
  rw [decode, written, octets_eq, Utf8.decode_encode, String.ofList_toList]

theorem item_writtenItem (pair : String × String) : item (writtenItem pair) = pair := by
  have unmarked : '=' ∉ written pair.1 :=
    notMem_written pair.1 (by decide) (by decide) (by decide)
  rw [item, writtenItem, cutAt_append_cons unmarked]
  simp only [Option.getD_some, decode_written]

theorem notMem_writtenItem {mark : Char} (pair : String × String)
    (reserved : isUnreserved mark = false) (not_percent : mark ≠ '%') (not_plus : mark ≠ '+')
    (not_equals : mark ≠ '=') : mark ∉ writtenItem pair := by
  have absent (text : String) : mark ∉ written text :=
    notMem_written text reserved not_percent not_plus
  simp [writtenItem, absent, not_equals]

theorem question_notMem_write (pairs : List (String × String)) :
    '?' ∉ ['&'].intercalate (pairs.map writtenItem) := by
  intro member
  rcases mem_intercalate member with separates | ⟨part, known, inside⟩
  · exact absurd separates (by decide)
  · obtain ⟨pair, -, rfl⟩ := List.mem_map.mp known
    exact notMem_writtenItem pair (by decide) (by decide) (by decide) (by decide) inside

/-- The items of a written query string are the pairs that it was written for. -/
theorem items_write (pairs : List (String × String)) : items (write pairs) = pairs := by
  have unquestioned : (['&'].intercalate (pairs.map writtenItem)).dropWhile (· = '?') =
      ['&'].intercalate (pairs.map writtenItem) := by
    have absent := question_notMem_write pairs
    cases cut : ['&'].intercalate (pairs.map writtenItem) with
    | nil => rfl
    | cons c rest =>
        rw [cut] at absent
        have other : c ≠ '?' := Ne.symm (List.ne_and_not_mem_of_not_mem_cons absent).1
        exact List.dropWhile_cons_of_neg (by simpa using other)
  rw [items, write, String.toList_ofList, unquestioned]
  cases pairs with
  | nil => rfl
  | cons pair rest =>
      have unseparated : ∀ part ∈ (pair :: rest).map writtenItem, ∀ c ∈ part,
          decide (c = '&') = false := by
        intro part member c inside
        obtain ⟨known, -, rfl⟩ := List.mem_map.mp member
        refine decide_eq_false fun same => ?_
        subst same
        exact notMem_writtenItem known (by decide) (by decide) (by decide) (by decide) inside
      have filled : ∀ part ∈ (pair :: rest).map writtenItem, (!part.isEmpty) = true := by
        intro part member
        obtain ⟨known, -, rfl⟩ := List.mem_map.mp member
        simp [writtenItem]
      have cut := pieces_intercalate (decide_eq_true rfl)
        (List.cons_ne_nil (writtenItem pair) (rest.map writtenItem)) unseparated
      rw [List.map_cons] at filled ⊢
      rw [cut, List.filter_eq_self.mpr filled, ← List.map_cons, List.map_map]
      exact List.map_id'' item_writtenItem _

theorem grouped_concat (pairs : List (String × String)) (pair : String × String) :
    grouped (pairs ++ [pair]) = Entries.appendAt pair.1 [pair.2] (grouped pairs) := by
  let values (key : String) := (pairs.filter fun known => known.1 = key).map Prod.snd
  have values_concat : ∀ key,
      ((pairs ++ [pair]).filter fun known => known.1 = key).map Prod.snd =
        if key = pair.1 then values key ++ [pair.2] else values key := by
    intro key
    by_cases same : key = pair.1
    · simp [same, values]
    · simp [same, Ne.symm same, values]
  unfold grouped Entries.appendAt
  rw [List.map_append, List.map_singleton, Parameters.eraseDups_concat]
  simp only [values_concat]
  split
  · rename_i known
    rw [Entries.upsert_map_of_mem pair.1 _ values (Parameters.nodup_eraseDups _)
      (List.mem_eraseDups.mpr known)]
    refine List.map_congr_left fun key _ => ?_
    split <;> rfl
  · rename_i new
    have absent : pair.1 ∉ (pairs.map Prod.fst).eraseDups := by simpa using new
    rw [Entries.upsert_map_of_notMem pair.1 _ values absent, List.map_append]
    congr 1
    · refine List.map_congr_left fun key member => ?_
      have other : key ≠ pair.1 := fun same => absent (same ▸ member)
      rw [if_neg other]
    · have none_before : values pair.1 = [] := by
        simp only [values, List.map_eq_nil_iff, List.filter_eq_nil_iff, decide_eq_true_eq]
        exact fun known member same => new (same ▸ List.mem_map_of_mem member)
      simp [none_before]

/-- Adding items one after another groups them. -/
theorem addItems_eq_grouped (pairs : List (String × String)) :
    addItems [] pairs = grouped pairs := by
  induction pairs using List.reverseRecOn with
  | nil => rfl
  | append_singleton pairs pair ih =>
      rw [grouped_concat, ← ih]
      simp [addItems, List.foldl_append]

theorem ofOption_eq {key : String} (unmarked : '=' ∉ key.toList) (value : String) :
    ofOption (key ++ "=" ++ value) = (key, value) := by
  have split : (key ++ "=" ++ value).toList = key.toList ++ '=' :: value.toList := by
    simp [String.toList_append]
  rw [ofOption, split, cutAt_append_cons unmarked]
  simp [String.ofList_toList]

/-- Pairs survive a query string and options: collecting them groups all of them, those of the query
string first. -/
theorem collect_write (queried optional : List (String × String))
    (unmarked : ∀ pair ∈ optional, '=' ∉ pair.1.toList) :
    collect (optional.map fun pair => pair.1 ++ "=" ++ pair.2) (some (write queried)) =
      grouped (queried ++ optional) := by
  have options_eq : (optional.map fun pair => pair.1 ++ "=" ++ pair.2).map ofOption = optional := by
    rw [List.map_map]
    refine (List.map_congr_left fun pair member => ?_).trans (List.map_id optional)
    exact ofOption_eq (unmarked pair member) pair.2
  calc
    collect (optional.map fun pair => pair.1 ++ "=" ++ pair.2) (some (write queried))
        = addItems (addItems [] queried) optional := by
      rw [collect, options_eq, Option.getD_some, read, items_write]
    _ = addItems [] (queried ++ optional) := by simp [addItems, List.foldl_append]
    _ = grouped (queried ++ optional) := addItems_eq_grouped _

/-- Pairs with every kind of character that has a meaning in a query string. -/
def oddPairs : List (String × String) :=
  [("a=b&c", "?+%41 "), ("", ""), ("tags", "Δέλτα"), ("?", "%"), ("tags", "🚀")]

theorem collect_write_oddPairs :
    let optional := [("tags", "x=y&z"), ("", "?"), ("new", "")]
    (∀ pair ∈ optional, '=' ∉ pair.1.toList) ∧
      collect ["tags=x=y&z", "=?", "new="] (some (write oddPairs)) =
        [("a=b&c", ["?+%41 "]), ("", ["", "?"]), ("tags", ["Δέλτα", "🚀", "x=y&z"]),
          ("?", ["%"]), ("new", [""])] := by
  intro optional
  have unmarked : ∀ pair ∈ optional, '=' ∉ pair.1.toList := by decide
  exact ⟨unmarked, collect_write oddPairs optional unmarked⟩

end EntrySearch.QueryString
