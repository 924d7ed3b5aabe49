import EntrySearch.Search.Request

/-!
# What a compilation is given

Search parameters arrive as texts and lists of texts, and the present as a moment or as what a local
clock shows. Compiling such parameters is compiling the lists of their texts.
-/

namespace EntrySearch

/-- The value of a search parameter as it arrives. -/
inductive Given where
  /-- One text. -/
  | text (s : String)
  /-- A list of texts, which may be empty. -/
  | list (items : List String)
  deriving DecidableEq, Repr

namespace Given

/-- The value itself. -/
def toValue : Given → Value
  | .text s => .text s
  | .list items => .list (items.map .text)

/-- Its texts, in order. -/
def texts : Given → List String
  | .text s => [s]
  | .list items => items

theorem textsOf_toValue (given : Given) : Parameters.textsOf given.toValue = .ok given.texts := by
  cases given with
  | text s => rfl
  | list items => simp [toValue, Given.texts, Parameters.textsOf, Value.plain, Function.comp_def]

end Given

/-- Search parameters as they arrive, in order. -/
abbrev GivenParameters :=
  List (String × Given)

namespace GivenParameters

/-- The parameters with their values. -/
def toRaw (given : GivenParameters) : RawParameters :=
  given.map fun entry => (entry.1, entry.2.toValue)

/-- The parameters with the texts of their values. -/
def texts (given : GivenParameters) : Parameters :=
  given.map fun entry => (entry.1, entry.2.texts)

theorem ofRaw_toRaw (given : GivenParameters) :
    Parameters.ofRaw given.toRaw = .ok given.texts := by
  induction given with
  | nil => rfl
  | cons entry rest ih =>
      simp only [Parameters.ofRaw, toRaw, List.map_cons, List.mapM_cons] at ih ⊢
      rw [Given.textsOf_toValue]
      simp only [bind, Except.bind, pure, Except.pure] at ih ⊢
      rw [ih]
      rfl

/-- Compiling parameters is compiling their texts. -/
theorem compileRaw_toRaw (policy : Policy) (zone : Time.Zone) (now : Time.Moment)
    (given : GivenParameters) :
    policy.compileRaw zone now given.toRaw = policy.compile zone now given.texts := by
  rw [Policy.compileRaw, ofRaw_toRaw]
  rfl

end GivenParameters

/-- The present as it is given. -/
inductive Present where
  /-- A moment. -/
  | moment (m : Time.Moment)
  /-- What a clock of the local zone shows. -/
  | clock (wall : Time.WallTime)
  deriving DecidableEq, Repr

/-- The present moment. -/
def Present.resolve (zone : Time.Zone) : Present → Time.Moment
  | .moment m => m
  | .clock wall => zone.moment wall

end EntrySearch
