import EntrySearch.Json.Writer
import EntrySearch.Proofs.Decimal.Padding

/-!
# Values on one line

A value written on one line is printable ASCII, whatever texts and numbers are inside it. In
particular there is no line break in it.
-/

namespace EntrySearch

/-- A character of printable ASCII. -/
def IsInk (c : Char) : Prop :=
  32 ≤ c.toNat ∧ c.toNat < 127

instance : DecidablePred IsInk := fun c =>
  inferInstanceAs (Decidable (32 ≤ c.toNat ∧ c.toNat < 127))

theorem forall_isInk {cs : List Char} (written : cs.all (fun c => decide (IsInk c)) = true) :
    ∀ c ∈ cs, IsInk c := fun c member =>
  of_decide_eq_true (List.all_eq_true.mp written c member)

theorem isInk_of_isDigit {c : Char} (digit : c.isDigit = true) : IsInk c := by
  obtain ⟨least, most⟩ := Decimal.isDigit_iff_toNat.mp digit
  exact ⟨by omega, by omega⟩

theorem isInk_hexDigits (width n : Nat) : ∀ c ∈ Text.hexDigits width n, IsInk c := by
  have one : ∀ d < 16, IsInk (Nat.digitChar d) := by decide
  induction width generalizing n with
  | zero => exact List.forall_mem_nil _
  | succ width ih =>
      refine List.forall_mem_append.mpr ⟨ih (n / 16), List.forall_mem_singleton.mpr ?_⟩
      exact one (n % 16) (Nat.mod_lt n (by decide))

namespace Decimal

theorem isDigit_of_mem_digits {n : Nat} : ∀ c ∈ digits n, c.isDigit = true :=
  fun _ member => Nat.isDigit_of_mem_toDigits (by decide) (by decide) member

theorem isInk_integer (n : Int) : ∀ c ∈ integer n, IsInk c := by
  have written : ∀ c ∈ digits n.natAbs, IsInk c := fun c member =>
    isInk_of_isDigit (isDigit_of_mem_digits c member)
  unfold integer
  split
  · exact List.forall_mem_cons.mpr ⟨by decide, written⟩
  · exact written

theorem isInk_place {layout : Layout} (suffix : ∀ c ∈ layout.wholeSuffix.toList, IsInk c)
    {ds : List Char} (written : ∀ c ∈ ds, c.isDigit = true) (point : Int) :
    ∀ c ∈ layout.place ds point, IsInk c := by
  have ink : ∀ c ∈ ds, IsInk c := fun c member => isInk_of_isDigit (written c member)
  have zeros (count : Nat) : ∀ c ∈ List.replicate count '0', IsInk c := fun c member =>
    List.eq_of_mem_replicate member ▸ by decide
  have front (count : Nat) : ∀ c ∈ ds.take count, IsInk c := fun c member =>
    ink c (List.mem_of_mem_take member)
  have back (count : Nat) : ∀ c ∈ ds.drop count, IsInk c := fun c member =>
    ink c (List.mem_of_mem_drop member)
  unfold Layout.place
  split
  · split
    · simp only [List.forall_mem_append]
      exact ⟨⟨forall_isInk rfl, zeros _⟩, ink⟩
    · split
      · simp only [List.forall_mem_append]
        exact ⟨⟨ink, zeros _⟩, suffix⟩
      · simp only [List.forall_mem_append]
        exact ⟨⟨front _, forall_isInk rfl⟩, back _⟩
  · simp only [List.forall_mem_append]
    refine ⟨⟨⟨front 1, ?_⟩, ?_⟩, fun c member =>
      isInk_of_isDigit (isDigit_of_mem_paddedDigits c member)⟩
    · split
      · exact List.forall_mem_nil _
      · exact List.forall_mem_cons.mpr ⟨by decide, back 1⟩
    · split
      · exact forall_isInk rfl
      · exact forall_isInk rfl

theorem isDigit_of_mem_significant {fraction : Fraction} :
    ∀ c ∈ fraction.significant.1, c.isDigit = true := fun c member =>
  isDigit_of_mem_digits c <| List.mem_reverse.mp <|
    (List.dropWhile_sublist _).mem (List.mem_reverse.mp member)

end Decimal

namespace Json

theorem isInk_float (x : Float) : ∀ c ∈ layout.write x, IsInk c := by
  have sign (negative : Bool) : ∀ c ∈ (if negative then ['-'] else [] : List Char), IsInk c := by
    cases negative <;> exact forall_isInk rfl
  unfold Decimal.Layout.write
  cases Decimal.Binary.ofFloat x with
  | undefined => exact forall_isInk rfl
  | infinite negative => exact List.forall_mem_append.mpr ⟨sign negative, forall_isInk rfl⟩
  | finite negative significand exponent =>
      refine List.forall_mem_append.mpr ⟨sign negative, ?_⟩
      split
      · exact forall_isInk rfl
      · exact Decimal.isInk_place (forall_isInk rfl) Decimal.isDigit_of_mem_significant _

theorem isInk_unitEscape (n : Nat) : ∀ c ∈ unitEscape n, IsInk c :=
  List.forall_mem_append.mpr ⟨forall_isInk rfl, isInk_hexDigits 4 n⟩

theorem isInk_escapedChar (plain : Char) : ∀ c ∈ escapedChar plain, IsInk c := by
  unfold escapedChar
  split
  iterate 7 exact forall_isInk rfl
  dsimp only
  split
  · exact List.forall_mem_singleton.mpr ‹_›
  · split
    · exact isInk_unitEscape _
    · exact List.forall_mem_append.mpr ⟨isInk_unitEscape _, isInk_unitEscape _⟩

theorem isInk_quoted (cs : List Char) : ∀ c ∈ quoted cs, IsInk c := by
  have inside : ∀ c ∈ cs.flatMap escapedChar, IsInk c := by
    intro c member
    obtain ⟨plain, _, written⟩ := List.mem_flatMap.mp member
    exact isInk_escapedChar plain c written
  exact List.forall_mem_append.mpr ⟨List.forall_mem_cons.mpr ⟨by decide, inside⟩, forall_isInk rfl⟩

theorem isInk_scalar (s : Scalar) : ∀ c ∈ scalar s, IsInk c := by
  cases s with
  | null => exact forall_isInk rfl
  | bool b => cases b <;> exact forall_isInk rfl
  | int n => exact Decimal.isInk_integer n
  | float x => exact isInk_float x
  | text s => exact isInk_quoted s.toList
  | date d => exact isInk_quoted d.chars

theorem isInk_joined {parts : List (List Char)} (written : ∀ part ∈ parts, ∀ c ∈ part, IsInk c) :
    ∀ c ∈ joined [',', ' '] parts, IsInk c := by
  induction parts with
  | nil => exact List.forall_mem_nil _
  | cons part rest ih =>
      obtain ⟨here, later⟩ := List.forall_mem_cons.mp written
      cases rest with
      | nil => exact here
      | cons next others =>
          simp only [joined, List.forall_mem_append]
          exact ⟨⟨here, forall_isInk rfl⟩, ih later⟩

mutual

/-- A value on one line is printable ASCII. -/
theorem isInk_line : ∀ value : Value, ∀ c ∈ line value, IsInk c
  | .scalar s => isInk_scalar s
  | .list items =>
      List.forall_mem_append.mpr
        ⟨List.forall_mem_cons.mpr ⟨by decide, isInk_joined (isInk_lineItems items)⟩,
          forall_isInk rfl⟩
  | .object entries =>
      List.forall_mem_append.mpr
        ⟨List.forall_mem_cons.mpr ⟨by decide, isInk_joined (isInk_lineEntries entries)⟩,
          forall_isInk rfl⟩

theorem isInk_lineItems : ∀ items : List Value, ∀ part ∈ lineItems items, ∀ c ∈ part, IsInk c
  | [] => List.forall_mem_nil _
  | item :: rest => List.forall_mem_cons.mpr ⟨isInk_line item, isInk_lineItems rest⟩

theorem isInk_lineEntries :
    ∀ entries : List (Scalar × Value), ∀ part ∈ lineEntries entries, ∀ c ∈ part, IsInk c
  | [] => List.forall_mem_nil _
  | (key, value) :: rest => by
      refine List.forall_mem_cons.mpr ⟨?_, isInk_lineEntries rest⟩
      simp only [List.forall_mem_append]
      exact ⟨⟨isInk_quoted (keyChars key), forall_isInk rfl⟩, isInk_line value⟩

end

end Json

/-- There is no line break in a value that is written on one line. -/
theorem Value.not_mem_json (value : Value) : '\n' ∉ value.json.toList := by
  intro member
  rw [json, String.toList_ofList] at member
  exact absurd (Json.isInk_line value '\n' member) (by decide)

end EntrySearch
