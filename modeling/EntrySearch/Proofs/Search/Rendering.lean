import EntrySearch.Proofs.Value.Sameness
import EntrySearch.Search.Request

/-!
# Renderings tell queries apart

Each part of a query stands at a place of its own in the value that the query is rendered as: the
kind of query is the outer key, the field is the key inside, and the rest follows under fixed keys.
So nothing of a query is lost, and of a request nothing that its body is made of.
-/

namespace EntrySearch

open Value

namespace Query

/-- A condition on a field is told apart by kind, field and condition. -/
theorem same_leaf_iff {kind other field unlike : String}
    {condition changed : List (String × Value)} :
    (leaf kind field condition).same (leaf other unlike changed) = true ↔
      kind = other ∧ field = unlike ∧ (record condition).same (record changed) = true := by
  rw [leaf, leaf, same_single_iff, same_single_iff]

theorem same_bounds_iff {least greatest low high : Int} :
    (record [("gte", .int least), ("lte", .int greatest)]).same
        (record [("gte", .int low), ("lte", .int high)]) = true ↔
      least = low ∧ greatest = high := by
  refine Iff.trans (same_record_iff rfl (by simp)) ?_
  simp [sameItems]

theorem same_scope_iff {path place scoring score : String} {inner within : Value} :
    (record [("path", .text path), ("query", inner), ("score_mode", .text scoring)]).same
        (record [("path", .text place), ("query", within), ("score_mode", .text score)]) = true ↔
      path = place ∧ inner.same within = true ∧ scoring = score := by
  refine Iff.trans (same_record_iff rfl (by simp)) ?_
  simp [sameItems]

mutual

/-- Two queries whose renderings say the same are the same query. -/
theorem same_toValue_iff : ∀ first second : Query,
    first.toValue.same second.toValue = true ↔ first = second
  | .all clauses, second => by
      cases second with
      | all others =>
          rw [toValue, toValue, same_single_iff, same_single_iff, same, same_toValues_iff]
          simp
      | _ => simp [toValue, leaf, same_single_iff]
  | .any queries, second => by
      cases second with
      | any others =>
          rw [toValue, toValue, same_single_iff, same_single_iff, same, same_toValues_iff]
          simp
      | _ => simp [toValue, leaf, same_single_iff]
  | .wildcard field pattern, second => by
      cases second with
      | wildcard other unlike =>
          rw [toValue, toValue, same_leaf_iff, same_single_iff]
          simp
      | _ => simp [toValue, leaf, same_single_iff]
  | .fuzzy field term, second => by
      cases second with
      | fuzzy other unlike =>
          rw [toValue, toValue, same_leaf_iff, same_single_iff]
          simp
      | _ => simp [toValue, leaf, same_single_iff]
  | .phrase field words, second => by
      cases second with
      | phrase other unlike =>
          rw [toValue, toValue, same_leaf_iff, same_single_iff]
          simp
      | _ => simp [toValue, leaf, same_single_iff]
  | .range field least greatest, second => by
      cases second with
      | range other low high =>
          rw [toValue, toValue, same_leaf_iff, same_bounds_iff]
          simp
      | _ => simp [toValue, leaf, same_single_iff]
  | .nested path inner scoring, second => by
      cases second with
      | nested place within score =>
          rw [toValue, toValue, same_single_iff, same_scope_iff, same_toValue_iff inner within]
          simp
      | _ => simp [toValue, leaf, same_single_iff]

theorem same_toValues_iff : ∀ queries others : List Query,
    sameItems (toValues queries) (toValues others) = true ↔ queries = others
  | [], others => by cases others <;> simp [toValues, sameItems]
  | query :: rest, others => by
      cases others with
      | nil => simp [toValues, sameItems]
      | cons other others =>
          rw [toValues, toValues, sameItems, Bool.and_eq_true, same_toValue_iff query other,
            same_toValues_iff rest others, List.cons.injEq]

end

end Query

theorem Ordered.same_toValue_iff (first second : Ordered) :
    first.toValue.same second.toValue = true ↔ first = second := by
  obtain ⟨field, ⟨word⟩⟩ := first
  obtain ⟨other, ⟨unlike⟩⟩ := second
  rw [toValue, toValue, same_single_iff, same_single_iff]
  simp

theorem Request.eq_of_toDigits_eq {m n : Nat} (same : Nat.toDigits 10 m = Nat.toDigits 10 n) :
    m = n :=
  calc
    m = Nat.ofDigitChars 10 (Nat.toDigits 10 m) 0 := Nat.ofDigitChars_ten_toDigits.symm
    _ = Nat.ofDigitChars 10 (Nat.toDigits 10 n) 0 := by rw [same]
    _ = n := Nat.ofDigitChars_ten_toDigits

theorem Request.minus_notMem_toDigits (m : Nat) : '-' ∉ Nat.toDigits 10 m := fun minus =>
  absurd (Nat.isDigit_of_mem_toDigits (by decide) (by decide) minus) (by decide)

/-- Different numbers of seconds are written differently. -/
theorem Request.same_seconds_iff {m n : Int} :
    (text s!"{m}s").same (text s!"{n}s") = true ↔ m = n := by
  have repr_iff : m.repr = n.repr ↔ m = n := by
    refine ⟨fun same => ?_, congrArg Int.repr⟩
    replace same := congrArg String.toList same
    cases m with
    | ofNat m =>
        cases n with
        | ofNat n =>
            rw [Int.repr, Int.repr, Nat.toList_repr, Nat.toList_repr] at same
            exact congrArg Int.ofNat (eq_of_toDigits_eq same)
        | negSucc n =>
            rw [Int.repr, Int.repr, Nat.toList_repr, String.toList_append] at same
            exact absurd (same ▸ List.mem_cons_self) (minus_notMem_toDigits m)
    | negSucc m =>
        cases n with
        | ofNat n =>
            rw [Int.repr, Int.repr, Nat.toList_repr, String.toList_append] at same
            exact absurd (same ▸ List.mem_cons_self) (minus_notMem_toDigits n)
        | negSucc n =>
            rw [Int.repr, Int.repr, String.toList_append, String.toList_append,
              List.append_cancel_left_eq, Nat.toList_repr, Nat.toList_repr] at same
            rw [Nat.succ.inj (eq_of_toDigits_eq same)]
  rw [same_text_iff]
  simp [repr_iff]

theorem Request.same_body_iff (first second : Request) :
    first.body.same second.body = true ↔
      first.query = second.query ∧ first.sort = second.sort ∧ first.offset = second.offset ∧
        first.size = second.size ∧ first.seconds = second.seconds := by
  refine Iff.trans (same_record_iff rfl (by simp)) ?_
  simp only [List.map_cons, List.map_nil, sameItems, Bool.and_eq_true, Query.same_toValue_iff,
    same_int_iff, same_seconds_iff, and_true]
  rw [same, sameItems_map_iff Ordered.same_toValue_iff]

/-- Nothing is lost in rendering: queries are told apart by their values, whatever the order of the
entries in them, and so are requests by their bodies but for the indices that are searched. -/
theorem renderings_tell_apart :
    (∀ first second : Query, first.toValue.same second.toValue = true ↔ first = second) ∧
      ∀ first second : Request, first.body.same second.body = true ↔
        first.query = second.query ∧ first.sort = second.sort ∧ first.offset = second.offset ∧
          first.size = second.size ∧ first.seconds = second.seconds :=
  ⟨Query.same_toValue_iff, Request.same_body_iff⟩

end EntrySearch
