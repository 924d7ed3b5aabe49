import EntrySearch.Journal.Traced

/-!
# Faults and results apart

An outcome is a fault or a result. The outcome of many steps is written here as the first fault
among them and the result that they have barring that fault, so that faults and results can be
described one without the other.
-/

namespace EntrySearch

namespace Outcome

variable {ε δ α β : Type}

/-- The result, barring a fault. -/
def barring (fault : Option ε) (result : α) : Except ε α :=
  match fault with
  | none => .ok result
  | some fault => .error fault

/-- The fault of an outcome, if it has one. -/
def fault? : Except ε α → Option ε
  | .ok _ => none
  | .error fault => some fault

@[simp]
theorem barring_none (result : α) : barring (none : Option ε) result = .ok result :=
  rfl

@[simp]
theorem barring_some (fault : ε) (result : α) : barring (some fault) result = .error fault :=
  rfl

@[simp]
theorem fault?_ok (result : α) : fault? (.ok result : Except ε α) = none :=
  rfl

@[simp]
theorem fault?_error (fault : ε) : fault? (.error fault : Except ε α) = some fault :=
  rfl

@[simp]
theorem toOption_ok (result : α) : (.ok result : Except ε α).toOption = some result :=
  rfl

@[simp]
theorem barring_eq_ok_iff {fault : Option ε} {result other : α} :
    barring fault result = .ok other ↔ fault = none ∧ result = other := by
  cases fault <;> simp

@[simp]
theorem barring_eq_error_iff {fault : Option ε} {result : α} {other : ε} :
    barring fault result = .error other ↔ fault = some other := by
  cases fault <;> simp

theorem mapError_ok (wrap : ε → δ) (result : α) :
    (.ok result : Except ε α).mapError wrap = .ok result :=
  rfl

theorem mapError_error (wrap : ε → δ) (fault : ε) :
    (.error fault : Except ε α).mapError wrap = .error (wrap fault) :=
  rfl

theorem mapError_barring (wrap : ε → δ) (fault : Option ε) (result : α) :
    (barring fault result).mapError wrap = barring (fault.map wrap) result := by
  cases fault <;> rfl

theorem bind_eq_ok_iff {first : Except ε α} {next : α → Except ε β} {result : β} :
    first >>= next = .ok result ↔ ∃ between, first = .ok between ∧ next between = .ok result := by
  cases first <;> simp [bind, Except.bind]

theorem bind_eq_error_iff {first : Except ε α} {next : α → Except ε β} {fault : ε} :
    first >>= next = .error fault ↔
      first = .error fault ∨ ∃ between, first = .ok between ∧ next between = .error fault := by
  cases first <;> simp [bind, Except.bind]

theorem map_eq_ok_iff {change : α → β} {outcome : Except ε α} {result : β} :
    outcome.map change = .ok result ↔ ∃ before, outcome = .ok before ∧ change before = result := by
  cases outcome <;> simp [Except.map]

theorem mapError_eq_ok_iff {wrap : ε → δ} {outcome : Except ε α} {result : α} :
    outcome.mapError wrap = .ok result ↔ outcome = .ok result := by
  cases outcome with
  | ok other =>
      constructor <;> exact fun same => congrArg Except.ok (Except.ok.inj same)
  | error fault =>
      constructor <;> exact fun impossible => nomatch impossible

/-- Whatever the result is, if there is one, it satisfies a condition. -/
def Yields (fine : α → Prop) (outcome : Except ε α) : Prop :=
  ∀ result, outcome = .ok result → fine result

theorem yields_ok {fine : α → Prop} {result : α} (known : fine result) :
    Yields fine (.ok result : Except ε α) := by
  rintro _ ⟨⟩
  exact known

theorem yields_error {fine : α → Prop} (fault : ε) : Yields fine (.error fault : Except ε α) :=
  nofun

theorem Yields.bind {fine : α → Prop} {finer : β → Prop} {first : Except ε α}
    {next : α → Except ε β} (here : Yields fine first)
    (later : ∀ result, fine result → Yields finer (next result)) :
    Yields finer (first >>= next) := by
  intro result ended
  obtain ⟨between, reached, ended⟩ := bind_eq_ok_iff.mp ended
  exact later between (here between reached) result ended

theorem yields_mapM {fine : β → Prop} {step : α → Except ε β} {items : List α}
    (each : ∀ item ∈ items, Yields fine (step item)) :
    Yields (fun results => ∀ result ∈ results, fine result) (items.mapM step) := by
  induction items with
  | nil => exact yields_ok (List.forall_mem_nil _)
  | cons item rest ih =>
      obtain ⟨here, later⟩ := List.forall_mem_cons.mp each
      rw [List.mapM_cons]
      refine here.bind fun result known => (ih later).bind fun results others => ?_
      exact yields_ok (List.forall_mem_cons.mpr ⟨known, others⟩)

/-- What is known of the result shows that there is one. -/
theorem exists_ok_of_map_toOption (look : α → β) {outcome : Except ε α} {seen : β}
    (known : outcome.toOption.map look = some seen) :
    ∃ result, outcome = .ok result ∧ look result = seen := by
  cases outcome with
  | error fault => exact nomatch known
  | ok result => exact ⟨result, rfl, Option.some.inj known⟩

theorem ok_ne_error {result : α} {fault : ε} : (.ok result : Except ε α) ≠ .error fault :=
  nofun

theorem fault?_eq_some_iff {outcome : Except ε α} {fault : ε} :
    fault? outcome = some fault ↔ outcome = .error fault := by
  cases outcome <;> simp

/-- After a first step without fault the second one counts. -/
theorem barring_bind_barring (fault : Option ε) (result : α) (next : α → Option ε)
    (final : α → β) :
    (barring fault result >>= fun result => barring (next result) (final result)) =
      barring (fault.or (next result)) (final result) := by
  cases fault <;> rfl

/-- Taking a step for each item fails with the first fault of an item. -/
theorem mapM_eq_barring (step : α → Except ε β) (items : List α) :
    items.mapM step =
      barring (items.findSome? fun item => fault? (step item))
        (items.filterMap fun item => (step item).toOption) := by
  induction items with
  | nil => rfl
  | cons item rest ih =>
      rw [List.mapM_cons, ih]
      cases taken : step item with
      | error fault =>
          rw [List.findSome?_cons, taken]
          rfl
      | ok result =>
          simp only [List.findSome?_cons, List.filterMap_cons, taken, fault?_ok, toOption_ok]
          cases rest.findSome? fun item => fault? (step item) with
          | none => rfl
          | some fault => rfl

/-- Without faults there is one result for each item. -/
theorem length_filterMap_of_no_fault (step : α → Except ε β) (items : List α)
    (faultless : (items.findSome? fun item => fault? (step item)) = none) :
    (items.filterMap fun item => (step item).toOption).length = items.length := by
  induction items with
  | nil => rfl
  | cons item rest ih =>
      rw [List.findSome?_cons] at faultless
      cases taken : step item with
      | error fault => simp [taken] at faultless
      | ok result =>
          rw [taken, fault?_ok] at faultless
          simp only [List.filterMap_cons, taken, toOption_ok, List.length_cons, ih faultless]

end Outcome

namespace Traced

variable {τ ε α β : Type}

theorem outcome_bind (first : Traced τ ε α) (next : α → Traced τ ε β) :
    (first >>= next).outcome = first.outcome >>= fun result => (next result).outcome := by
  obtain ⟨trace, _ | result⟩ := first
  · rfl
  · rfl

/-- What follows a step that ended well is traced behind it. -/
theorem trace_bind_of_ok {first : Traced τ ε α} {next : α → Traced τ ε β} {result : α}
    (ended : first.outcome = .ok result) :
    (first >>= next).trace = first.trace ++ (next result).trace := by
  obtain ⟨trace, outcome⟩ := first
  obtain rfl : outcome = .ok result := ended
  rfl

/-- Nothing follows a step that failed. -/
theorem trace_bind_of_error {first : Traced τ ε α} {next : α → Traced τ ε β} {fault : ε}
    (failed : first.outcome = .error fault) : (first >>= next).trace = first.trace := by
  obtain ⟨trace, outcome⟩ := first
  obtain rfl : outcome = .error fault := failed
  rfl

/-- What follows a step counts only as far as its result goes. -/
theorem bind_eq_of_outcome {first : Traced τ ε α} {next other : α → Traced τ ε β}
    (same : ∀ result, first.outcome = .ok result → next result = other result) :
    first >>= next = first >>= other := by
  obtain ⟨trace, _ | result⟩ := first
  · rfl
  · exact congrArg (fun final => Traced.mk (trace ++ final.trace) final.outcome) (same result rfl)

@[simp]
theorem ofExcept_ok_bind (result : α) (next : α → Traced τ ε β) :
    ofExcept (.ok result) >>= next = next result :=
  rfl

@[simp]
theorem ofExcept_error_bind (fault : ε) (next : α → Traced τ ε β) :
    ofExcept (.error fault) >>= next = fail fault :=
  rfl

/-- A step without a trace leaves none if none of what may follow does. -/
theorem trace_ofExcept_bind (outcome : Except ε α) {next : α → Traced τ ε β}
    (untraced : ∀ result, (next result).trace = []) : (ofExcept outcome >>= next).trace = [] := by
  cases outcome with
  | error fault => rfl
  | ok result => exact untraced result

@[simp]
theorem outcome_fail (fault : ε) : (fail fault : Traced τ ε α).outcome = .error fault :=
  rfl

/-- Writing a record changes nothing about what follows. -/
theorem outcome_note_bind (level : Level) (message : String) (next : Unit → Recorded ε β) :
    (note level message >>= next).outcome = (next ()).outcome :=
  rfl

end Traced

end EntrySearch
