import EntrySearch.Yaml.Document
import Mathlib.Data.Finset.Card
import Mathlib.Data.Finset.Prod
import Mathlib.Logic.Relation

/-!
# Documents that nest without end

Laying a document over another comes to no end just if two objects that meet on the way meet again
inside of themselves. A document laid over itself meets itself everywhere, so this comes to no end
just if an object that is inside of objects only is inside of itself.
-/

namespace EntrySearch

open Relation

namespace Entries

theorem get?_of_mem {β : Type} {entries : List (Scalar × β)} (distinct : Distinct entries)
    {entry : Scalar × β} (member : entry ∈ entries) : get? entry.1 entries = some entry.2 := by
  induction entries with
  | nil => exact nomatch member
  | cons first rest ih =>
      obtain ⟨apart, later⟩ := List.pairwise_cons.mp distinct
      rcases List.mem_cons.mp member with rfl | inside
      · rw [get?, if_pos entry.1.beq_self]
      · rw [get?, if_neg (by simp [apart entry inside]), ih later inside]

theorem mem_fst_of_get? {κ β : Type} [BEq κ] [LawfulBEq κ] {key : κ} {value : β}
    {entries : List (κ × β)} (found : get? key entries = some value) :
    key ∈ entries.map Prod.fst := by
  induction entries with
  | nil => exact nomatch found
  | cons first rest ih =>
      rw [get?] at found
      split at found
      · rename_i same
        exact eq_of_beq same ▸ List.mem_cons_self
      · exact List.mem_cons_of_mem _ (ih found)

end Entries

namespace Yaml.Document

section

variable (base upper : Document)

/-- Two objects meet inside of two others: they are there under the same key. -/
def Meets (pair inner : Nat × Nat) : Prop :=
  inner ∈ meetings base upper pair

variable {base upper} {pair inner : Nat × Nat}

theorem meets_iff :
    base.Meets upper pair inner ↔
      ∃ lower entries, base.part pair.1 = .object lower ∧ upper.part pair.2 = .object entries ∧
        ∃ entry ∈ entries, entry.2 = inner.2 ∧ Entries.get? entry.1 lower = some inner.1 ∧
          (base.part inner.1).isObject = true ∧ (upper.part inner.2).isObject = true := by
  unfold Meets meetings
  split
  · rename_i lower entries below above
    simp only [below, above, Part.object.injEq, exists_and_left, exists_eq_left',
      List.mem_filterMap]
    refine exists_congr fun entry => and_congr_right fun _ => ?_
    obtain ⟨first, second⟩ := inner
    cases found : Entries.get? entry.1 lower with
    | none => simp
    | some number =>
        simp only [Bool.and_eq_true, Option.ite_none_right_eq_some, Option.some.injEq,
          Prod.mk.injEq]
        grind
  · rename_i apart
    refine iff_of_false List.not_mem_nil ?_
    rintro ⟨lower, entries, below, above, -⟩
    exact apart lower entries below above

theorem meetFor_of_invariant (kept : Nat × Nat → Prop)
    (step : ∀ pair, kept pair → ∃ inner, kept inner ∧ base.Meets upper pair inner) (count : Nat)
    (here : kept pair) : meetFor base upper count pair = true := by
  induction count generalizing pair with
  | zero => rfl
  | succ count ih =>
      obtain ⟨inner, later, meets⟩ := step pair here
      exact List.any_eq_true.mpr ⟨inner, meets, ih later⟩

/-- Objects that never meet again inside of themselves meet no more often than there are pairs that
meet inside of them. -/
theorem le_card_of_meetFor {pairs : Finset (Nat × Nat)}
    (bounded : ∀ inner, TransGen (base.Meets upper) pair inner → inner ∈ pairs)
    (acyclic : ∀ inner, ReflTransGen (base.Meets upper) pair inner →
      ¬TransGen (base.Meets upper) inner inner)
    {count : Nat} (lasts : meetFor base upper count pair = true) : count ≤ pairs.card := by
  induction count generalizing pair pairs with
  | zero => exact Nat.zero_le _
  | succ count ih =>
      obtain ⟨inner, meets, later⟩ := List.any_eq_true.mp lasts
      have bounded_later : ∀ other, TransGen (base.Meets upper) inner other →
          other ∈ pairs.erase inner := by
        intro other below
        refine Finset.mem_erase.mpr ⟨?_, bounded other (.head meets below)⟩
        rintro rfl
        exact acyclic other (.single meets) below
      have fewer := ih bounded_later (fun other below => acyclic other (.head meets below)) later
      rw [← Finset.card_erase_add_one (bounded inner (.single meets))]
      exact Nat.succ_le_succ fewer

theorem mem_numbers_of_isObject {document : Document} {number : Nat}
    (object : (document.part number).isObject = true) :
    number ∈ (document.parts.map Prod.fst).toFinset := by
  unfold part at object
  cases found : Entries.get? number document.parts with
  | none =>
      rw [found] at object
      exact nomatch object
  | some _ => exact List.mem_toFinset.mpr (Entries.mem_fst_of_get? found)

/-- Laying a document over another comes to no end just if, from the outermost objects on, there are
two that meet again inside of themselves. -/
theorem overlaysEndlessly_iff :
    base.overlaysEndlessly upper = true ↔
      ∃ pair, ReflTransGen (base.Meets upper) (base.root, upper.root) pair ∧
        TransGen (base.Meets upper) pair pair := by
  constructor
  · intro endless
    by_contra acyclic
    let pairs := (base.parts.map Prod.fst).toFinset ×ˢ (upper.parts.map Prod.fst).toFinset
    have bounded (inner : Nat × Nat)
        (reached : TransGen (base.Meets upper) (base.root, upper.root) inner) : inner ∈ pairs := by
      obtain ⟨_, -, meets⟩ := TransGen.tail'_iff.mp reached
      obtain ⟨_, _, -, -, _, -, -, -, below, above⟩ := meets_iff.mp meets
      exact Finset.mem_product.mpr ⟨mem_numbers_of_isObject below, mem_numbers_of_isObject above⟩
    have few : pairs.card ≤ base.parts.length * upper.parts.length := by
      rw [Finset.card_product]
      exact Nat.mul_le_mul ((List.toFinset_card_le _).trans_eq (List.length_map _))
        ((List.toFinset_card_le _).trans_eq (List.length_map _))
    have many := le_card_of_meetFor bounded
      (fun inner reached again => acyclic ⟨inner, reached, again⟩) endless
    exact absurd (many.trans few) (Nat.not_succ_le_self _)
  · rintro ⟨pair, reached, again⟩
    refine meetFor_of_invariant (fun earlier => ReflTransGen (base.Meets upper) earlier pair)
      (fun earlier before => ?_) _ reached
    obtain ⟨inner, meets, after⟩ : ∃ inner, base.Meets upper earlier inner ∧
        ReflTransGen (base.Meets upper) inner pair := by
      rcases before.cases_head with rfl | later
      · exact TransGen.head'_iff.mp again
      · exact later
    exact ⟨inner, after, meets⟩

/-- Over an object without entries everything comes to an end. -/
theorem not_overlaysEndlessly_nothing (upper : Document) :
    (ofPart (.object [])).overlaysEndlessly upper = false := by
  have first : meetings (ofPart (.object [])) upper (0, upper.root) = [] := by
    unfold meetings
    split
    · rename_i lower entries below above
      obtain rfl : [] = lower := Part.object.inj below
      simp [Entries.get?]
    · rfl
  rw [overlaysEndlessly, meetFor]
  exact List.any_eq_false.mpr fun inner meets => absurd (first ▸ meets) List.not_mem_nil

end

/-! ## A document over itself -/

/-- An object stands in another one. -/
def Holds (document : Document) (outer inner : Nat) : Prop :=
  ∃ entries, document.part outer = .object entries ∧ inner ∈ entries.map Prod.snd ∧
    (document.part inner).isObject = true

/-- There is an object, inside of objects only, that is inside of itself by way of objects. -/
def NestsEndlessly (document : Document) : Prop :=
  ∃ number, ReflTransGen document.Holds document.root number ∧
    TransGen document.Holds number number

variable {document : Document}

/-- Objects that meet themselves meet nothing but themselves. -/
theorem meets_self_iff (keyed : document.IsKeyed) {number : Nat} {inner : Nat × Nat} :
    document.Meets document (number, number) inner ↔
      ∃ within, inner = (within, within) ∧ document.Holds number within := by
  rw [meets_iff]
  constructor
  · rintro ⟨lower, entries, below, above, entry, member, held, found, object, -⟩
    obtain rfl := Part.object.inj (below.symm.trans above)
    have same : entry.2 = inner.1 := Option.some.inj
      ((Entries.get?_of_mem (keyed number lower below) member).symm.trans found)
    refine ⟨inner.1, Prod.ext rfl (held.symm.trans same), lower, below, ?_, object⟩
    exact List.mem_map.mpr ⟨entry, member, same⟩
  · rintro ⟨within, rfl, entries, here, member, object⟩
    obtain ⟨entry, inside, rfl⟩ := List.mem_map.mp member
    exact ⟨entries, entries, here, here, entry, inside, rfl,
      Entries.get?_of_mem (keyed number entries here) inside, object, object⟩

theorem reaches_self_iff (keyed : document.IsKeyed) {number : Nat} {inner : Nat × Nat} :
    ReflTransGen (document.Meets document) (number, number) inner ↔
      ∃ within, inner = (within, within) ∧ ReflTransGen document.Holds number within := by
  constructor
  · intro reached
    induction reached with
    | refl => exact ⟨number, rfl, .refl⟩
    | tail _ meets ih =>
        obtain ⟨within, rfl, before⟩ := ih
        obtain ⟨last, rfl, holds⟩ := (meets_self_iff keyed).mp meets
        exact ⟨last, rfl, before.tail holds⟩
  · rintro ⟨within, rfl, reached⟩
    exact reached.lift (fun number => (number, number)) fun _ last holds =>
      (meets_self_iff keyed).mpr ⟨last, rfl, holds⟩

theorem overlaysEndlessly_self_iff (keyed : document.IsKeyed) :
    document.overlaysEndlessly document = true ↔ document.NestsEndlessly := by
  have again_iff (number : Nat) :
      TransGen (document.Meets document) (number, number) (number, number) ↔
        TransGen document.Holds number number := by
    rw [TransGen.tail'_iff, TransGen.tail'_iff]
    constructor
    · rintro ⟨last, reached, meets⟩
      obtain ⟨within, rfl, before⟩ := (reaches_self_iff keyed).mp reached
      obtain ⟨_, same, holds⟩ := (meets_self_iff keyed).mp meets
      obtain ⟨rfl, -⟩ := Prod.mk.inj same
      exact ⟨within, before, holds⟩
    · rintro ⟨within, before, holds⟩
      exact ⟨(within, within), (reaches_self_iff keyed).mpr ⟨within, rfl, before⟩,
        (meets_self_iff keyed).mpr ⟨number, rfl, holds⟩⟩
  rw [overlaysEndlessly_iff]
  constructor
  · rintro ⟨pair, reached, again⟩
    obtain ⟨number, rfl, before⟩ := (reaches_self_iff keyed).mp reached
    exact ⟨number, before, (again_iff number).mp again⟩
  · rintro ⟨number, reached, again⟩
    exact ⟨(number, number), (reaches_self_iff keyed).mpr ⟨number, rfl, reached⟩,
      (again_iff number).mpr again⟩

end Yaml.Document

end EntrySearch
