import EntrySearch.Proofs.Json.Numbers
import EntrySearch.Proofs.Json.Texts
import EntrySearch.Proofs.Json.Writable

/-!
# Values are read back

Every value as JSON has it is read back from the line that is written for it: whatever its texts
and numbers are, and to any depth.
-/

namespace EntrySearch

open Outcome

namespace Entries

variable {β : Type}

/-- Pairs with different keys are the entries that they make. -/
theorem ofPairs_of_distinct {pairs : List (Scalar × β)} (distinct : Distinct pairs) :
    ofPairs pairs = pairs := by
  induction pairs using List.reverseRecOn with
  | nil => rfl
  | append_singleton pairs pair ih =>
      obtain ⟨earlier, -, apart⟩ := List.pairwise_append.mp distinct
      rw [ofPairs, List.foldl_append]
      change put pair.1 pair.2 (ofPairs pairs) = _
      rw [ih earlier, put, upsert_of_new fun known member => apart known member pair (by simp)]

end Entries

namespace Json

/-! ## Scalars -/

/-- A value is read back from its line, wherever no character follows that a number could go on
with. -/
def IsReadBack (value : Value) : Prop :=
  ∀ fuel rest, (line value).length < fuel → EndsNumber rest →
    readValue (some Decimal.digitLimit) fuel (line value ++ rest) = .ok (value, rest)

/-- A number is read as one where any value may stand. -/
theorem readValue_eq_readNumber (limit : Option Nat) (fuel : Nat) (negative : Bool) {c : Char}
    (digit : c.isDigit = true) (more : List Char) :
    readValue limit (fuel + 1) (minus negative ++ c :: more) =
      readNumber limit (minus negative ++ c :: more) := by
  have apart (letter : Char) (other : letter.isDigit = false) : c ≠ letter := by
    rintro rfl
    exact Bool.noConfusion (other.symm.trans digit)
  rw [← readScalar_eq_readNumber limit negative digit more]
  cases negative with
  | true => rfl
  | false =>
      change readValue limit (fuel + 1) (c :: more) = readScalar limit (c :: more)
      rw [readValue]
      · exact fun _ same => apart _ rfl (List.cons.inj same).1
      · exact fun _ same => apart _ rfl (List.cons.inj same).1
      · exact fun _ same => apart _ rfl (List.cons.inj same).1

theorem readValue_of_readNumber {limit : Option Nat} {cs : List Char} {read : Value × List Char}
    (taken : readNumber limit cs = .ok read) (fuel : Nat) :
    readValue limit (fuel + 1) cs = .ok read := by
  obtain ⟨negative, c, more, digit, rfl⟩ := exists_digit_of_readNumber taken
  rw [readValue_eq_readNumber limit fuel negative digit more, taken]

theorem readValue_float {rest : List Char} (ends : EndsNumber rest) (limit : Option Nat) (x : Float)
    (fuel : Nat) :
    readValue limit (fuel + 1) (layout.write x ++ rest) = .ok (.float x, rest) := by
  cases parts : Decimal.Binary.ofFloat x with
  | finite negative significand exponent =>
      exact readValue_of_readNumber (readNumber_write ends limit parts) fuel
  | infinite negative =>
      have same : x = if negative then -1.0 / 0.0 else 1.0 / 0.0 := by
        apply Decimal.ofFloat_injective
        rw [parts]
        cases negative <;> decide +kernel
      rw [Decimal.Layout.write, parts]
      subst same
      cases negative <;> rfl
  | undefined =>
      have same : x = 0.0 / 0.0 := by
        apply Decimal.ofFloat_injective
        rw [parts]
        decide +kernel
      rw [Decimal.Layout.write, parts]
      subst same
      rfl

theorem line_text (s : String) :
    line (.text s) = '\"' :: (s.toList.flatMap escapedChar ++ ['\"']) :=
  rfl

theorem isReadBack_scalar {s : Scalar} (known : IsJsonScalar s) : IsReadBack (.scalar s) := by
  intro fuel rest enough ends
  obtain ⟨extra, rfl⟩ := Nat.exists_eq_add_of_lt enough
  cases s with
  | null => rfl
  | bool b => cases b <;> rfl
  | int n => exact readValue_of_readNumber (readNumber_integer ends known) _
  | float x => exact readValue_float ends _ x _
  | text s =>
      rw [line_text, List.cons_append, List.append_assoc, List.singleton_append, readValue,
        readQuoted_flatMap, String.ofList_toList]
      rfl
  | date d => exact known.elim

/-! ## Lists and objects -/

/-- What follows the first part of a list or an object: the other parts, the end and the rest. -/
def behind (closing : Char) (parts : List (List Char)) (rest : List Char) : List Char :=
  parts.flatMap ([',', ' '] ++ ·) ++ closing :: rest

theorem behind_cons (closing : Char) (part : List Char) (parts : List (List Char))
    (rest : List Char) :
    behind closing (part :: parts) rest = ',' :: ' ' :: (part ++ behind closing parts rest) := by
  simp [behind]

theorem joined_cons (part : List Char) (parts : List (List Char)) :
    joined [',', ' '] (part :: parts) = part ++ parts.flatMap ([',', ' '] ++ ·) := by
  induction parts generalizing part with
  | nil => simp [joined]
  | cons next others ih =>
      rw [joined, ih, List.flatMap_cons]
      · simp
      · exact List.cons_ne_nil _ _

theorem endsNumber_cons {c : Char}
    (other : c.isDigit = false ∧ c ≠ '.' ∧ c ≠ 'e' ∧ c ≠ 'E') (more : List Char) :
    EndsNumber (c :: more) := fun _ first => Option.some.inj first ▸ other

theorem endsNumber_behind (closing : Char)
    (other : closing.isDigit = false ∧ closing ≠ '.' ∧ closing ≠ 'e' ∧ closing ≠ 'E')
    (parts : List (List Char)) (rest : List Char) : EndsNumber (behind closing parts rest) := by
  cases parts with
  | nil => exact endsNumber_cons other _
  | cons part parts =>
      rw [behind_cons]
      exact endsNumber_cons (by decide) _

theorem skipSpace_space (cs : List Char) : skipSpace (' ' :: cs) = skipSpace cs := rfl

theorem skipSpace_colon (cs : List Char) : skipSpace (':' :: cs) = ':' :: cs := rfl

theorem skipSpace_comma (cs : List Char) : skipSpace (',' :: cs) = ',' :: cs := rfl

/-- No value starts with space or with the end of a list. -/
theorem start_of_readValue {limit : Option Nat} {fuel : Nat} {cs : List Char}
    {read : Value × List Char} (taken : readValue limit fuel cs = .ok read) :
    skipSpace cs = cs ∧ ∀ more, cs ≠ ']' :: more := by
  cases fuel with
  | zero => contradiction
  | succ fuel =>
      constructor
      · cases cs with
        | nil => rfl
        | cons c more =>
            refine List.dropWhile_cons_of_neg fun space => ?_
            simp only [isSpace, Bool.or_eq_true, decide_eq_true_iff] at space
            rcases space with ((rfl | rfl) | rfl) | rfl <;> contradiction
      · rintro more rfl
        contradiction

theorem length_behind_cons (closing : Char) (part : List Char) (parts : List (List Char)) :
    (behind closing (part :: parts) []).length =
      part.length + (behind closing parts []).length + 2 := by
  simp [behind_cons]

theorem readItems_line {item : Value} (here : IsReadBack item) {fuel : Nat}
    (enough : (line item).length < fuel) {rest : List Char} (ends : EndsNumber rest) :
    readItems (some Decimal.digitLimit) (fuel + 1) (line item ++ rest) =
      match skipSpace rest with
      | ']' :: rest => .ok ([item], rest)
      | ',' :: rest => do
        let (items, rest) ← readItems (some Decimal.digitLimit) fuel (skipSpace rest)
        return (item :: items, rest)
      | rest => complain .comma rest := by
  rw [readItems, here fuel rest enough ends]
  rfl

theorem readItems_behind {item : Value} {others : List Value} (here : IsReadBack item)
    (later : ∀ other ∈ others, IsReadBack other) {fuel : Nat}
    (enough : (line item).length + (behind ']' (lineItems others) []).length < fuel)
    (rest : List Char) :
    readItems (some Decimal.digitLimit) fuel (line item ++ behind ']' (lineItems others) rest) =
      .ok (item :: others, rest) := by
  induction others generalizing item fuel with
  | nil =>
      cases fuel with
      | zero => contradiction
      | succ fuel =>
          have ends := endsNumber_behind ']' (by decide) [] rest
          have : (behind ']' (lineItems []) []).length = 1 := rfl
          rw [lineItems, readItems_line here (by omega) ends]
          rfl
  | cons next others ih =>
      cases fuel with
      | zero => contradiction
      | succ fuel =>
          obtain ⟨next_here, others_later⟩ := List.forall_mem_cons.mp later
          rw [lineItems, length_behind_cons] at enough
          have ends := endsNumber_behind ']' (by decide) (lineItems others) rest
          rw [lineItems, behind_cons,
            readItems_line here (by omega) (endsNumber_cons (by decide) _)]
          obtain ⟨start, -⟩ := start_of_readValue (next_here _ _ (Nat.lt_succ_self _) ends)
          have items_eq := @ih next next_here others_later fuel (by omega)
          simp only [skipSpace_comma, skipSpace_space, start, items_eq, bind, Except.bind]
          rfl

/-- A key with its value. -/
def entryLine (s : String) (value : Value) : List Char :=
  '\"' :: (s.toList.flatMap escapedChar ++ '\"' :: ':' :: ' ' :: line value)

theorem lineEntries_cons (s : String) (value : Value) (others : List (Scalar × Value)) :
    lineEntries ((.text s, value) :: others) = entryLine s value :: lineEntries others := by
  simp [lineEntries, entryLine, quoted, keyChars]

theorem skipSpace_entryLine (s : String) (value : Value) (rest : List Char) :
    skipSpace (entryLine s value ++ rest) = entryLine s value ++ rest := rfl

theorem length_entryLine (s : String) (value : Value) :
    (line value).length + 4 ≤ (entryLine s value).length := by
  simp [entryLine]

theorem readPairs_entryLine {s : String} {value : Value} (here : IsReadBack value) {fuel : Nat}
    (enough : (line value).length < fuel) {rest : List Char} (ends : EndsNumber rest) :
    readPairs (some Decimal.digitLimit) (fuel + 1) (entryLine s value ++ rest) =
      match skipSpace rest with
      | '\x7d' :: rest => .ok ([(.text s, value)], rest)
      | ',' :: rest => do
        let (pairs, rest) ← readPairs (some Decimal.digitLimit) fuel (skipSpace rest)
        return ((.text s, value) :: pairs, rest)
      | rest => complain .comma rest := by
  have value_eq := here fuel rest enough ends
  have key_eq := readQuoted_flatMap s.toList (':' :: ' ' :: (line value ++ rest))
  simp only [entryLine, List.cons_append, List.append_assoc]
  rw [readPairs, key_eq]
  simp only [bind, Except.bind, skipSpace_colon, skipSpace_space,
    (start_of_readValue value_eq).1, value_eq, String.ofList_toList]
  rfl

theorem readPairs_behind {s : String} {value : Value} {others : List (Scalar × Value)}
    (here : IsReadBack value) (keys : ∀ entry ∈ others, ∃ s, entry.1 = .text s)
    (later : ∀ entry ∈ others, IsReadBack entry.2) {fuel : Nat}
    (enough : (entryLine s value).length + (behind '\x7d' (lineEntries others) []).length < fuel)
    (rest : List Char) :
    readPairs (some Decimal.digitLimit) fuel
        (entryLine s value ++ behind '\x7d' (lineEntries others) rest) =
      .ok ((.text s, value) :: others, rest) := by
  have shorter := length_entryLine s value
  induction others generalizing s value fuel with
  | nil =>
      cases fuel with
      | zero => contradiction
      | succ fuel =>
          have ends := endsNumber_behind '\x7d' (by decide) [] rest
          rw [lineEntries, readPairs_entryLine here (by omega) ends]
          rfl
  | cons next others ih =>
      cases fuel with
      | zero => contradiction
      | succ fuel =>
          obtain ⟨⟨t, key_eq⟩, other_keys⟩ := List.forall_mem_cons.mp keys
          obtain ⟨next_here, others_later⟩ := List.forall_mem_cons.mp later
          obtain ⟨key, next_value⟩ := next
          obtain rfl : key = .text t := key_eq
          change IsReadBack next_value at next_here
          rw [lineEntries_cons, length_behind_cons] at enough
          rw [lineEntries_cons, behind_cons,
            readPairs_entryLine here (by omega) (endsNumber_cons (by decide) _)]
          have pairs_eq := @ih t next_value next_here other_keys others_later fuel (by omega)
            (length_entryLine t next_value)
          simp only [skipSpace_comma, skipSpace_space, skipSpace_entryLine, pairs_eq, bind,
            Except.bind]
          rfl

theorem isReadBack_list {items : List Value} (read_back : ∀ item ∈ items, IsReadBack item) :
    IsReadBack (.list items) := by
  intro fuel rest enough ends
  cases fuel with
  | zero => contradiction
  | succ fuel =>
      cases items with
      | nil => rfl
      | cons item others =>
          obtain ⟨here, later⟩ := List.forall_mem_cons.mp read_back
          have text_eq (rest : List Char) : line (.list (item :: others)) ++ rest =
              '[' :: (line item ++ behind ']' (lineItems others) rest) := by
            simp [line, lineItems, joined_cons, behind]
          have length_eq := congrArg List.length (text_eq [])
          simp only [List.append_nil, List.length_cons, List.length_append] at length_eq
          have ends := endsNumber_behind ']' (by decide) (lineItems others) rest
          obtain ⟨start, open_list⟩ :=
            start_of_readValue (here _ _ (Nat.lt_succ_self _) ends)
          rw [text_eq, readValue, start]
          split
          · exact absurd ‹_› (open_list _)
          · rw [readItems_behind here later (by omega)]
            rfl

theorem isReadBack_object {entries : List (Scalar × Value)} (distinct : Entries.Distinct entries)
    (keys : ∀ entry ∈ entries, ∃ s, entry.1 = .text s)
    (read_back : ∀ entry ∈ entries, IsReadBack entry.2) : IsReadBack (.object entries) := by
  intro fuel rest enough ends
  cases fuel with
  | zero => contradiction
  | succ fuel =>
      cases entries with
      | nil => rfl
      | cons entry others =>
          obtain ⟨⟨s, key_eq⟩, other_keys⟩ := List.forall_mem_cons.mp keys
          obtain ⟨here, later⟩ := List.forall_mem_cons.mp read_back
          obtain ⟨key, value⟩ := entry
          obtain rfl : key = .text s := key_eq
          change IsReadBack value at here
          have text_eq (rest : List Char) : line (.object ((.text s, value) :: others)) ++ rest =
              '\x7b' :: (entryLine s value ++ behind '\x7d' (lineEntries others) rest) := by
            simp [line, lineEntries_cons, joined_cons, behind]
          have length_eq := congrArg List.length (text_eq [])
          simp only [List.append_nil, List.length_cons, List.length_append] at length_eq
          rw [text_eq]
          have pairs_eq := @readPairs_behind s value others here other_keys later fuel (by omega)
            rest
          rw [readValue, skipSpace_entryLine]
          split
          · rename_i ended
            simp [entryLine] at ended
          · rw [pairs_eq]
            change Except.ok (Value.object (Entries.ofPairs _), rest) = _
            rw [Entries.ofPairs_of_distinct distinct]

/-- Every value that JSON has is read back from its line. -/
theorem IsJson.isReadBack {value : Value} (known : IsJson value) : IsReadBack value := by
  induction known with
  | scalar known => exact isReadBack_scalar known
  | list _ ih => exact isReadBack_list ih
  | object distinct keys _ ih => exact isReadBack_object distinct keys ih

end Json

/-- What is written as JSON on one line is read back. -/
theorem Json.read_json {value : Value} (known : IsJson value) : read value.json = .ok value := by
  have none_left : EndsNumber [] := fun _ => nofun
  have read_back := known.isReadBack (2 * (line value).length + 2) [] (by omega) none_left
  rw [List.append_nil] at read_back
  rw [read, Value.json, String.toList_ofList, readChars, readUpTo, (start_of_readValue read_back).1,
    read_back]
  rfl

end EntrySearch
