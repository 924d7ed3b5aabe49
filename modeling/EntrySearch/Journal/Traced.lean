import EntrySearch.Journal.Record

/-!
# Traced computations

A computation with the trace of what it did, which is kept whether it ends well or fails. What is
done after a step is traced behind what the step did.
-/

namespace EntrySearch

/-- A computation that did things one after another and then ended. -/
structure Traced (τ ε α : Type) where
  /-- What was done, in order. -/
  trace : List τ
  /-- The result, or why there is none. -/
  outcome : Except ε α

/-- A computation that does nothing but write to the journal. -/
abbrev Recorded :=
  Traced Record

namespace Traced

variable {τ ε α β : Type}

/-- Go on with the result of a computation that ended well. -/
def andThen (first : Traced τ ε α) (next : α → Traced τ ε β) : Traced τ ε β :=
  match first.outcome with
  | .error fault => ⟨first.trace, .error fault⟩
  | .ok a => ⟨first.trace ++ (next a).trace, (next a).outcome⟩

instance : Monad (Traced τ ε) where
  pure a := ⟨[], .ok a⟩
  bind := andThen

/-- Do nothing and end as given. -/
def ofExcept (outcome : Except ε α) : Traced τ ε α :=
  ⟨[], outcome⟩

/-- Do nothing and fail. -/
def fail (fault : ε) : Traced τ ε α :=
  ⟨[], .error fault⟩

/-- Do one thing. -/
def emit (event : τ) : Traced τ ε Unit :=
  ⟨[event], .ok ()⟩

/-- See what was done and the fault as parts of something wider. -/
def widen {σ δ : Type} (event : τ → σ) (fault : ε → δ) (inner : Traced τ ε α) : Traced σ δ α :=
  ⟨inner.trace.map event, inner.outcome.mapError fault⟩

@[simp]
theorem pure_def (a : α) : (pure a : Traced τ ε α) = ⟨[], .ok a⟩ :=
  rfl

@[simp]
theorem ok_bind (trace : List τ) (a : α) (next : α → Traced τ ε β) :
    (⟨trace, .ok a⟩ : Traced τ ε α) >>= next = ⟨trace ++ (next a).trace, (next a).outcome⟩ :=
  rfl

@[simp]
theorem error_bind (trace : List τ) (fault : ε) (next : α → Traced τ ε β) :
    (⟨trace, .error fault⟩ : Traced τ ε α) >>= next = ⟨trace, .error fault⟩ :=
  rfl

end Traced

/-- Write a record. -/
def Traced.note {ε : Type} (level : Level) (message : String) : Recorded ε Unit :=
  .emit ⟨level, message⟩

end EntrySearch
