import EntrySearch.Proofs.Json.RoundTrip

/-!
# Whole numbers of any length

A reader that takes whole numbers of any length tells what a text stands for. The reader with a
limit reads the same, unless it meets a number that is too long before anything else is wrong.
-/

namespace EntrySearch.Json

open Decimal Outcome

/-- What a text stands for, with whole numbers of any length. -/
def readAny (cs : List Char) : Except Fault Value :=
  readUpTo none cs

variable {α β : Type}

/-- What is read under a limit is what is read without one, or else the limit is met. Without a
limit no number is too long. -/
structure Agrees (limited free : Except Fault α) : Prop where
  free_ne : ∀ fault, free ≠ .error (.digits fault)
  limited_eq : (∃ fault, limited = .error (.digits fault)) ∨ limited = free

theorem agrees_ok (result : α) : Agrees (.ok result) (.ok result) :=
  ⟨nofun, .inr rfl⟩

theorem agrees_complain (complaint : Complaint) (rest : List Char) :
    Agrees (complain complaint rest : Except Fault α) (complain complaint rest) :=
  ⟨nofun, .inr rfl⟩

theorem Agrees.bind {limited free : Except Fault α} {next other : α → Except Fault β}
    (here : Agrees limited free) (later : ∀ result, Agrees (next result) (other result)) :
    Agrees (limited >>= next) (free >>= other) := by
  obtain ⟨free_ne, limited_eq⟩ := here
  cases free with
  | error fault =>
      refine ⟨fun number met => free_ne number (congrArg _ (Except.error.inj met)), ?_⟩
      rcases limited_eq with ⟨number, rfl⟩ | rfl
      · exact .inl ⟨number, rfl⟩
      · exact .inr rfl
  | ok result =>
      refine ⟨(later result).free_ne, ?_⟩
      rcases limited_eq with ⟨number, rfl⟩ | rfl
      · exact .inl ⟨number, rfl⟩
      · exact (later result).limited_eq

theorem agrees_readText (opening : List Char) (fuel : Nat) (cs : List Char) :
    Agrees (readText opening fuel cs) (readText opening fuel cs) := by
  fun_induction readText opening fuel cs
  all_goals first
    | exact agrees_complain _ _
    | exact agrees_ok _
    | exact Agrees.bind ‹_› fun _ => agrees_ok _

theorem agrees_readQuoted (rest : List Char) : Agrees (readQuoted rest) (readQuoted rest) :=
  (agrees_readText _ _ _).bind fun _ => agrees_ok _

variable (limit : Option Nat)

theorem exceeds_none (count : Nat) : exceeds none count = false :=
  rfl

theorem agrees_readNumber (cs : List Char) : Agrees (readNumber limit cs) (readNumber none cs) := by
  unfold readNumber
  dsimp only
  generalize (if cs.head? = some '-' then cs.drop 1 else cs) = unsigned
  split
  · exact agrees_complain _ _
  · split
    · simp only [exceeds_none, Bool.false_eq_true, if_false]
      split
      · exact ⟨nofun, .inl ⟨_, rfl⟩⟩
      · exact agrees_ok _
    · exact agrees_ok _

theorem agrees_readScalar (cs : List Char) : Agrees (readScalar limit cs) (readScalar none cs) := by
  unfold readScalar
  split
  · exact agrees_ok _
  · exact agrees_readNumber limit cs

theorem agrees_read (fuel : Nat) :
    (∀ cs, Agrees (readValue limit fuel cs) (readValue none fuel cs)) ∧
      (∀ cs, Agrees (readItems limit fuel cs) (readItems none fuel cs)) ∧
      ∀ cs, Agrees (readPairs limit fuel cs) (readPairs none fuel cs) := by
  induction fuel with
  | zero =>
      exact ⟨fun _ => agrees_complain _ _, fun _ => agrees_complain _ _,
        fun _ => agrees_complain _ _⟩
  | succ fuel ih =>
      obtain ⟨value, items, pairs⟩ := ih
      refine ⟨fun cs => ?_, fun cs => ?_, fun cs => ?_⟩
      · unfold readValue
        split
        · exact (agrees_readQuoted _).bind fun _ => agrees_ok _
        · split
          · exact agrees_ok _
          · exact (items _).bind fun _ => agrees_ok _
        · split
          · exact agrees_ok _
          · exact (pairs _).bind fun _ => agrees_ok _
        · exact agrees_readScalar limit _
      · unfold readItems
        refine (value cs).bind fun read => ?_
        obtain ⟨item, rest⟩ := read
        dsimp only
        split
        · exact agrees_ok _
        · exact (items _).bind fun _ => agrees_ok _
        · exact agrees_complain _ _
      · unfold readPairs
        split
        · refine (agrees_readQuoted _).bind fun read => ?_
          obtain ⟨key, rest⟩ := read
          dsimp only
          split
          · refine (value _).bind fun read => ?_
            obtain ⟨inner, rest⟩ := read
            dsimp only
            split
            · exact agrees_ok _
            · exact (pairs _).bind fun _ => agrees_ok _
            · exact agrees_complain _ _
          · exact agrees_complain _ _
        · exact agrees_complain _ _

/-- A text is read under a limit as it is without one, unless the limit is met. -/
theorem agrees_readUpTo (cs : List Char) : Agrees (readUpTo limit cs) (readAny cs) := by
  refine ((agrees_read limit _).1 _).bind fun read => ?_
  obtain ⟨value, rest⟩ := read
  dsimp only
  split
  · exact agrees_ok _
  · exact agrees_complain _ _

theorem readAny_ne_digits (cs : List Char) (fault : TooManyDigits) :
    readAny cs ≠ .error (.digits fault) :=
  (agrees_readUpTo none cs).free_ne fault

/-- What is read without meeting the limit is what the text stands for. -/
theorem readAny_eq {cs : List Char} {outcome : Except Fault Value} (read : readChars cs = outcome)
    (short : ∀ fault, outcome ≠ .error (.digits fault)) : readAny cs = outcome := by
  rcases (agrees_readUpTo (some digitLimit) cs).limited_eq with ⟨fault, met⟩ | same
  · exact absurd (read.symm.trans met) (short fault)
  · exact same.symm.trans read

/-! ## Objects with a number that is too long -/

theorem readValue_whole (limit : Option Nat) (fuel : Nat) {ds rest : List Char}
    (significant : IsSignificant ds) (ends : EndsNumber rest) :
    readValue limit (fuel + 1) (ds ++ rest) =
      if exceeds limit ds.length then .error (.digits ⟨ds.length⟩)
      else .ok (.int (ofDigits ds), rest) := by
  have number := readNumber_whole limit false (isCutInto_whole significant ends)
  cases ds with
  | nil => exact absurd rfl significant.filled
  | cons c others =>
      have digit := (List.forall_mem_cons.mp significant.isDigit).1
      exact (readValue_eq_readNumber limit fuel false digit (others ++ rest)).trans number

/-- What starts with a brace is an object, if it is anything. -/
theorem readUpTo_brace (rest : List Char) :
    Yields (fun value => value.entries? ≠ none) (readUpTo limit ('\x7b' :: rest)) := by
  have brace (fuel : Nat) : Yields (fun read : Value × List Char => read.1.entries? ≠ none)
      (readValue limit (fuel + 1) ('\x7b' :: rest)) := by
    rw [readValue]
    split
    · exact yields_ok (Option.some_ne_none _)
    · exact Yields.bind (fun _ _ => trivial) fun _ _ => yields_ok (Option.some_ne_none _)
  refine (brace (2 * ('\x7b' :: rest).length + 1)).bind fun read object => ?_
  obtain ⟨value, rest⟩ := read
  dsimp only
  split
  · exact yields_ok object
  · exact yields_error _

/-- The first value of an object meets the limit if it is a whole number that is too long. -/
theorem readChars_of_long {ds rest : List Char} (significant : IsSignificant ds)
    (long : digitLimit < ds.length) (ends : EndsNumber rest) (key : List Char) :
    readChars ('\x7b' :: '\"' :: (key.flatMap escapedChar ++ '\"' :: ':' :: (ds ++ rest))) =
      .error (.digits ⟨ds.length⟩) := by
  have number (fuel : Nat) :
      readValue (some digitLimit) (fuel + 1) (ds ++ rest) = .error (.digits ⟨ds.length⟩) := by
    rw [readValue_whole _ _ significant ends, if_pos (exceeds_some_iff.mpr long)]
  have start : skipSpace (ds ++ rest) = ds ++ rest :=
    (start_of_readValue ((readValue_whole none 0 significant ends).trans (if_neg nofun))).1
  have pairs (fuel : Nat) : readPairs (some digitLimit) (fuel + 2)
      ('\"' :: (key.flatMap escapedChar ++ '\"' :: ':' :: (ds ++ rest))) =
        .error (.digits ⟨ds.length⟩) := by
    rw [readPairs, readQuoted_flatMap]
    simp only [bind, Except.bind, skipSpace_colon, start, number]
  have object (fuel : Nat) : readValue (some digitLimit) (fuel + 3)
      ('\x7b' :: '\"' :: (key.flatMap escapedChar ++ '\"' :: ':' :: (ds ++ rest))) =
        .error (.digits ⟨ds.length⟩) := by
    rw [readValue]
    exact congrArg (· >>= _) (pairs fuel)
  exact congrArg (· >>= _) (object _)

end EntrySearch.Json
