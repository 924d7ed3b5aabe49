import EntrySearch.Proofs.Value.Overlay

/-!
# Overlays path by path

What stands at the end of a path in an object laid over another: what the upper object has there,
and what the lower one has there where the upper one leaves room for it. The keys of a level that
both objects have are those of the lower one, then the new ones of the upper one.
-/

namespace EntrySearch

namespace Entries

variable {β : Type}

/-- The keys of entries, in order. -/
abbrev keys (entries : List (Scalar × β)) : List Scalar :=
  entries.map Prod.fst

/-- The keys that are not the same as a known one, in order. -/
def newKeys (known keys : List Scalar) : List Scalar :=
  keys.filter fun key => !known.any (· == key)

/-- A known key that differs from another one says nothing about it. -/
theorem newKeys_cons_of_ne {known key : Scalar} (differs : ¬(known == key) = true)
    (others : List Scalar) : newKeys (known :: others) [key] = newKeys others [key] := by
  refine List.filter_congr fun other member => ?_
  obtain rfl := List.mem_singleton.mp member
  rw [List.any_cons, Bool.eq_false_iff.mpr differs, Bool.false_or]

/-- A known key stays at its place, a new one comes last. -/
theorem keys_upsert (key : Scalar) (change : Option β → β) (entries : List (Scalar × β)) :
    keys (upsert key change entries) = keys entries ++ newKeys (keys entries) [key] := by
  induction entries with
  | nil => rfl
  | cons entry rest ih =>
      rw [upsert]
      by_cases same : (entry.1 == key) = true
      · simp [same, newKeys]
      · rw [if_neg same]
        change entry.1 :: keys (upsert key change rest) =
          entry.1 :: (keys rest ++ newKeys (entry.1 :: keys rest) [key])
        rw [newKeys_cons_of_ne same, ih]

/-- A key that is added to the known ones makes no difference for keys that differ from it. -/
theorem newKeys_append_newKeys {key : Scalar} {others : List Scalar}
    (differs : ∀ other ∈ others, (key == other) = false) (known : List Scalar) :
    newKeys (known ++ newKeys known [key]) others = newKeys known others := by
  refine List.filter_congr fun other member => ?_
  have unseen : (newKeys known [key]).any (· == other) = false := by
    refine List.any_eq_false.mpr fun added among => ?_
    obtain rfl := List.mem_singleton.mp (List.mem_filter.mp among).1
    simp [differs other member]
  rw [List.any_append, unseen, Bool.or_false]

end Entries

namespace Value

open Entries

variable {base upper : List (Scalar × Value)}

theorem keys_overlayEntries (base : List (Scalar × Value)) (distinct : Distinct upper) :
    keys (overlayEntries base upper) = keys base ++ newKeys (keys base) (keys upper) := by
  induction upper generalizing base with
  | nil => simp [overlayEntries, newKeys]
  | cons entry rest ih =>
      obtain ⟨key, value⟩ := entry
      obtain ⟨apart, later⟩ := List.pairwise_cons.mp distinct
      have differs : ∀ other ∈ keys rest, (key == other) = false := by
        intro other member
        obtain ⟨entry, inside, rfl⟩ := List.mem_map.mp member
        exact apart entry inside
      have split : newKeys (keys base) (keys ((key, value) :: rest)) =
          newKeys (keys base) [key] ++ newKeys (keys base) (keys rest) :=
        List.filter_append [key] _
      rw [overlayEntries, ih _ later, keys_upsert, newKeys_append_newKeys differs, split,
        List.append_assoc]

/-- The value at the end of a path of keys, from object to object. -/
def at? : List String → Value → Option Value
  | [], value => some value
  | key :: rest, value => (value.field? key).bind (at? rest)

/-- Whether a value is an object. -/
def IsObject (value : Value) : Prop :=
  ∃ entries, value = .object entries

/-- On the way to the end of a path, the end excluded, there is nothing but objects. -/
def IsOpen (value : Value) (path : List String) : Prop :=
  ∀ front key rest, path = front ++ key :: rest → ∀ inner, value.at? front = some inner →
    inner.IsObject

theorem IsKeyed.of_at? {value inner : Value} {path : List String} (keyed : value.IsKeyed)
    (found : value.at? path = some inner) : inner.IsKeyed := by
  induction path generalizing value with
  | nil => exact Option.some.inj found ▸ keyed
  | cons key path ih =>
      obtain ⟨below, at_key, at_end⟩ := Option.bind_eq_some_iff.mp found
      cases value with
      | object entries => exact ih (keyed.of_mem (mem_snd_of_get? at_key)) at_end
      | scalar s => cases at_key
      | list items => cases at_key

theorem isObject_of_field? {value inner : Value} {key : String}
    (found : value.field? key = some inner) : value.IsObject := by
  cases value with
  | object entries => exact ⟨entries, rfl⟩
  | scalar s => cases found
  | list items => cases found

theorem isOpen_nil (value : Value) : value.IsOpen [] := by
  intro front key rest impossible
  simp at impossible

theorem isOpen_cons {value : Value} {key : String} {path : List String} :
    value.IsOpen (key :: path) ↔
      value.IsObject ∧ ∀ inner, value.field? key = some inner → inner.IsOpen path := by
  constructor
  · intro free
    refine ⟨free [] key path rfl value rfl,
      fun inner found front other rest path_eq last at_end => ?_⟩
    refine free (key :: front) other rest (congrArg (key :: ·) path_eq) last ?_
    rw [at?, found, Option.bind_some, at_end]
  · rintro ⟨outer, later⟩ front other rest path_eq inner at_end
    cases front with
    | nil =>
        obtain rfl := Option.some.inj at_end
        exact outer
    | cons first front =>
        obtain ⟨rfl, later_eq⟩ := List.cons.inj path_eq
        obtain ⟨below, found, at_end⟩ := Option.bind_eq_some_iff.mp at_end
        exact later below found front other rest later_eq inner at_end

theorem isOpen_of_at? {value inner : Value} {path : List String}
    (found : value.at? path = some inner) : value.IsOpen path := by
  induction path generalizing value with
  | nil => exact isOpen_nil value
  | cons key path ih =>
      obtain ⟨below, at_key, found⟩ := Option.bind_eq_some_iff.mp found
      refine isOpen_cons.mpr ⟨isObject_of_field? at_key, fun other same => ?_⟩
      obtain rfl := Option.some.inj (at_key.symm.trans same)
      exact ih found

theorem bind_at?_cons {value : Option Value} (bare : value.bind entries? = none) (key : String)
    (path : List String) : value.bind (at? (key :: path)) = none := by
  cases value with
  | none => rfl
  | some value =>
      cases value with
      | object entries => cases bare
      | scalar s => rfl
      | list items => rfl

/-- At the end of an open path the values of the two objects there are laid over each other. -/
theorem at?_overlay_of_isOpen (keyed : (Value.object upper).IsKeyed) {path : List String}
    (free : (Value.object upper).IsOpen path) :
    ((Value.object base).overlay (.object upper)).at? path =
      overlay? ((Value.object base).at? path) ((Value.object upper).at? path) := by
  induction path generalizing base upper with
  | nil => rfl
  | cons key path ih =>
      obtain ⟨-, later⟩ := isOpen_cons.mp free
      rw [at?, at?, at?, field?_overlay keyed.distinct]
      cases at_key : (Value.object upper).field? key with
      | none => rfl
      | some inner =>
          have inner_free := later inner at_key
          rcases overlay?_cases ((Value.object base).field? key) inner with
            ⟨hidden, bare⟩ | ⟨below, above, at_base, rfl, laid⟩
          · rw [hidden, Option.bind_some]
            cases path with
            | nil => simpa [at?] using hidden.symm
            | cons next path =>
                obtain ⟨entries, rfl⟩ := (isOpen_cons.mp inner_free).1
                rw [bind_at?_cons (bare.resolve_left (Option.some_ne_none entries))]
                cases at? (next :: path) (.object entries) <;> rfl
          · rw [laid, at_base]
            exact ih (keyed.of_mem (mem_snd_of_get? at_key)) inner_free

/-- A path that is not open leads nowhere. -/
theorem at?_overlay_of_not_isOpen (keyed : (Value.object upper).IsKeyed) {path : List String}
    (blocked : ¬(Value.object upper).IsOpen path) :
    ((Value.object base).overlay (.object upper)).at? path = none := by
  induction path generalizing base upper with
  | nil => exact absurd (isOpen_nil _) blocked
  | cons key path ih =>
      rw [isOpen_cons, not_and] at blocked
      obtain ⟨inner, blocked⟩ := Classical.not_forall.mp (blocked ⟨upper, rfl⟩)
      obtain ⟨at_key, blocked⟩ := Classical.not_imp.mp blocked
      rw [at?, field?_overlay keyed.distinct, at_key]
      rcases overlay?_cases ((Value.object base).field? key) inner with
        ⟨hidden, bare⟩ | ⟨below, above, -, rfl, laid⟩
      · rw [hidden, Option.bind_some]
        exact Option.eq_none_iff_forall_ne_some.mpr fun end_value found =>
          blocked (isOpen_of_at? found)
      · rw [laid]
        exact ih (keyed.of_mem (mem_snd_of_get? at_key)) blocked

/-- What one object laid over another is, leaf by leaf and level by level. -/
structure IsMergeOf (merged base upper : Value) : Prop where
  /-- A value that is no object stands at the end of a path if the upper object has it there, or if
  the lower one has it there, the upper one has nothing there and nothing but objects on the way. -/
  leaf_iff (path : List String) (leaf : Value) : leaf.entries? = none →
    (merged.at? path = some leaf ↔ upper.at? path = some leaf ∨
      base.at? path = some leaf ∧ upper.at? path = none ∧ upper.IsOpen path)
  /-- A level of both objects has the keys of the lower one, then the new keys of the upper one. -/
  of_both (path : List String) (below above : List (Scalar × Value)) :
    base.at? path = some (.object below) → upper.at? path = some (.object above) →
      ∃ entries, merged.at? path = some (.object entries) ∧
        keys entries = keys below ++ newKeys (keys below) (keys above)
  /-- A level of the upper object alone is unchanged. -/
  of_upper (path : List String) (above : List (Scalar × Value)) :
    upper.at? path = some (.object above) → (∀ below, base.at? path ≠ some (.object below)) →
      merged.at? path = some (.object above)
  /-- A level of the lower object alone is unchanged where the upper one leaves room for it. -/
  of_lower (path : List String) (below : List (Scalar × Value)) :
    base.at? path = some (.object below) → upper.at? path = none → upper.IsOpen path →
      merged.at? path = some (.object below)
  /-- There are no other levels. -/
  of_level (path : List String) (entries : List (Scalar × Value)) :
    merged.at? path = some (.object entries) → (∃ above, upper.at? path = some (.object above)) ∨
      (∃ below, base.at? path = some (.object below)) ∧ upper.at? path = none ∧ upper.IsOpen path

section Levels

variable (keyed : (Value.object upper).IsKeyed) {path : List String}

include keyed

/-- The upper object decides what it has a value for. -/
theorem at?_overlay_of_some {inner : Value} (found : (Value.object upper).at? path = some inner) :
    ((Value.object base).overlay (.object upper)).at? path =
      overlay? ((Value.object base).at? path) (some inner) := by
  rw [at?_overlay_of_isOpen keyed (isOpen_of_at? found), found]

/-- What the upper object has no value for is as in the lower one, if the path is open. -/
theorem at?_overlay_eq_some_of_none {inner : Value}
    (missing : (Value.object upper).at? path = none) :
    ((Value.object base).overlay (.object upper)).at? path = some inner ↔
      (Value.object base).at? path = some inner ∧ (Value.object upper).IsOpen path := by
  by_cases free : (Value.object upper).IsOpen path
  · rw [at?_overlay_of_isOpen keyed free, missing, overlay?, and_iff_left free]
  · rw [at?_overlay_of_not_isOpen keyed free]
    exact iff_of_false (Option.some_ne_none _).symm fun found => free found.2

end Levels

/-- One object laid over another is their merge, at every path and to any depth. -/
theorem isMergeOf_overlay (base upper : List (Scalar × Value))
    (keyed : (Value.object upper).IsKeyed) :
    ((Value.object base).overlay (.object upper)).IsMergeOf (.object base) (.object upper) where
  leaf_iff path leaf bare := by
    cases found : (Value.object upper).at? path with
    | none => simp [at?_overlay_eq_some_of_none keyed found]
    | some inner =>
        rw [at?_overlay_of_some keyed found]
        rcases overlay?_cases ((Value.object base).at? path) inner with
          ⟨hidden, -⟩ | ⟨below, above, -, rfl, laid⟩
        · simp [hidden]
        · rw [laid]
          constructor
          · rintro ⟨⟩
            cases bare
          · rintro (⟨⟨⟩⟩ | ⟨-, impossible, -⟩)
            · cases bare
            · cases impossible
  of_both path below above at_base at_upper := by
    refine ⟨overlayEntries below above, ?_,
      keys_overlayEntries below (keyed.of_at? at_upper).distinct⟩
    rw [at?_overlay_of_some keyed at_upper, at_base]
    rfl
  of_upper path above at_upper alone := by
    rw [at?_overlay_of_some keyed at_upper]
    rcases overlay?_cases ((Value.object base).at? path) (.object above) with
      ⟨hidden, -⟩ | ⟨below, -, at_base, -, -⟩
    · exact hidden
    · exact absurd at_base (alone below)
  of_lower path below at_base missing free :=
    (at?_overlay_eq_some_of_none keyed missing).mpr ⟨at_base, free⟩
  of_level path entries level := by
    cases found : (Value.object upper).at? path with
    | none =>
        obtain ⟨at_base, free⟩ := (at?_overlay_eq_some_of_none keyed found).mp level
        exact .inr ⟨⟨entries, at_base⟩, rfl, free⟩
    | some inner =>
        rw [at?_overlay_of_some keyed found] at level
        rcases overlay?_cases ((Value.object base).at? path) inner with
          ⟨hidden, -⟩ | ⟨below, above, -, rfl, -⟩
        · rw [hidden] at level
          exact .inl ⟨entries, level⟩
        · exact .inl ⟨above, rfl⟩

/-- Options of which a group lies below another value. -/
def lowerLayer : List (Scalar × Value) := [
  (.text "log", record [("level", text "INFO"), ("dir", text "log")]),
  (.text "search", record [("index", text "entries")])]

/-- Options that complete one group, hide another and add a third. -/
def upperLayer : List (Scalar × Value) := [
  (.text "search", null),
  (.text "log", record [("to_file", bool true), ("level", text "DEBUG")]),
  (.text "engine", record [("timeout", int 5)])]

theorem isMergeOf_overlay_layers :
    (Value.object upperLayer).IsKeyed ∧
      ((Value.object lowerLayer).overlay (.object upperLayer)).IsMergeOf (.object lowerLayer)
        (.object upperLayer) ∧
      ((Value.object lowerLayer).overlay (.object upperLayer)).at? ["log", "dir"] =
        some (text "log") ∧
      ((Value.object lowerLayer).overlay (.object upperLayer)).at? ["search", "index"] = none := by
  have group (fields : List (String × Value)) (distinct : Distinct
      (fields.map fun field => (Scalar.text field.1, field.2)))
      (bare : ∀ field ∈ fields, ∃ s, field.2 = .scalar s) : (record fields).IsKeyed := by
    refine .object distinct fun entry member => ?_
    obtain ⟨field, known, rfl⟩ := List.mem_map.mp member
    obtain ⟨s, plain⟩ := bare field known
    exact plain ▸ .scalar s
  have keyed : (Value.object upperLayer).IsKeyed := by
    refine .object (by unfold Distinct; decide) ?_
    simp only [upperLayer, List.forall_mem_cons]
    exact ⟨.scalar _, group _ (by unfold Distinct; decide) (by simp),
      group _ (by unfold Distinct; decide) (by simp), List.forall_mem_nil _⟩
  exact ⟨keyed, isMergeOf_overlay lowerLayer upperLayer keyed, rfl, rfl⟩

end Value

end EntrySearch
