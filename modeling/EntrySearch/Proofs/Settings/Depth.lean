import EntrySearch.Proofs.Settings.Layering

/-!
# How deep settings are looked into

Settings are read from objects in an object. What lies deeper does not count, and neither does the
number of levels at which the parts of a document are looked at, unless it is less than two.
-/

namespace EntrySearch

open Outcome

namespace Value

/-- A value without what lies below so many levels of it. -/
def cut : Nat → Value → Value
  | _, .scalar s => .scalar s
  | 0, .list _ => .list []
  | 0, .object _ => .object []
  | depth + 1, .list items => .list (items.map (cut depth))
  | depth + 1, .object entries =>
    .object (entries.map fun entry => (entry.1, cut depth entry.2))

@[simp]
theorem cut_scalar (depth : Nat) (s : Scalar) : cut depth (.scalar s) = .scalar s := by
  cases depth <;> rfl

end Value

namespace Entries

variable {κ β γ : Type} [BEq κ]

theorem get?_map (change : β → γ) (key : κ) (entries : List (κ × β)) :
    get? key (entries.map fun entry => (entry.1, change entry.2)) =
      (get? key entries).map change := by
  induction entries with
  | nil => rfl
  | cons entry rest ih =>
      rw [List.map_cons, get?, get?, ih]
      split <;> rfl

theorem map_upsert (change : β → γ) (key : κ) {before : Option β → β} {after : Option γ → γ}
    (same : ∀ old, change (before old) = after (old.map change)) (entries : List (κ × β)) :
    (upsert key before entries).map (fun entry => (entry.1, change entry.2)) =
      upsert key after (entries.map fun entry => (entry.1, change entry.2)) := by
  induction entries with
  | nil => exact congrArg (fun value => [(key, value)]) (same none)
  | cons entry rest ih =>
      rw [upsert, List.map_cons, upsert]
      split
      · rw [List.map_cons, same (some entry.2), Option.map_some]
      · rw [List.map_cons, ih]

end Entries

namespace Value

/-- Values without what lies deep in them are laid over each other as the whole values are. -/
theorem cut_overlay (depth : Nat) (base upper : Value) :
    (base.overlay upper).cut depth = (base.cut depth).overlay (upper.cut depth) := by
  induction depth generalizing base upper with
  | zero =>
      cases upper with
      | scalar s => rfl
      | list items => rfl
      | object above => cases base <;> rfl
  | succ depth ih =>
      cases upper with
      | scalar s => rfl
      | list items => rfl
      | object above =>
          have entries_eq (below : List (Scalar × Value)) :
              (overlayEntries below above).map (fun entry => (entry.1, entry.2.cut depth)) =
                overlayEntries (below.map fun entry => (entry.1, entry.2.cut depth))
                  (above.map fun entry => (entry.1, entry.2.cut depth)) := by
            induction above generalizing below with
            | nil => rfl
            | cons entry rest later =>
                rw [overlayEntries, List.map_cons, overlayEntries, later, Entries.map_upsert]
                intro old
                cases old with
                | none => rfl
                | some lower => exact ih lower entry.2
          cases base with
          | object below => exact congrArg Value.object (entries_eq below)
          | scalar s => rfl
          | list items => rfl

end Value

namespace Yaml.Document

theorem cut_valueTo (document : Document) (depth more number : Nat) :
    (document.valueTo (depth + more) number).cut depth = document.valueTo depth number := by
  induction depth generalizing number with
  | zero =>
      rw [Nat.zero_add]
      cases more with
      | zero =>
          rw [valueTo]
          cases document.part number <;> rfl
      | succ more =>
          rw [valueTo, valueTo]
          cases document.part number <;> rfl
  | succ depth ih =>
      rw [Nat.succ_add, valueTo, valueTo]
      cases document.part number with
      | scalar s => rfl
      | list items =>
          simp only [Part.fill, Value.cut, List.map_map, Function.comp_def, ih]
      | object entries =>
          simp only [Part.fill, Value.cut, List.map_map, Function.comp_def, ih]

end Yaml.Document

namespace OptionGroup

/-- A group without what lies in its options. -/
def shallow (group : OptionGroup) : OptionGroup :=
  ⟨group.name, group.options.map fun entry => (entry.1, entry.2.cut 0)⟩

theorem ofSettings_cut (name : String) (settings : Value) :
    ofSettings name (settings.cut 2) = (ofSettings name settings).map shallow := by
  cases settings with
  | scalar s => rfl
  | list items => rfl
  | object entries =>
      simp only [Value.cut, ofSettings, Entries.get?_map]
      cases Entries.get? (.text name) entries with
      | none => rfl
      | some given =>
          cases given with
          | scalar s => cases s <;> rfl
          | list items => rfl
          | object options => rfl

theorem take_cut (kind : OptionKind) (value : Value) :
    kind.take (value.cut 0) = kind.take value := by
  cases value with
  | scalar s => rw [Value.cut_scalar]
  | list items => cases kind <;> rfl
  | object entries => cases kind <;> rfl

theorem read_shallow (group : OptionGroup) (kind : OptionKind) (key : String)
    (otherwise : kind.Held) :
    group.shallow.read kind key otherwise = group.read kind key otherwise := by
  have take_eq : kind.take ((group.shallow.get? key).getD (kind.value otherwise)) =
      kind.take ((group.get? key).getD (kind.value otherwise)) := by
    rw [shallow, OptionGroup.get?, Entries.get?_map, OptionGroup.get?]
    cases Entries.get? (.text key) group.options with
    | none => rfl
    | some given => exact take_cut kind given
  rw [OptionGroup.read, OptionGroup.read, take_eq]
  rfl

end OptionGroup

namespace Settings

/-- Whatever options of a group are read, nothing below them counts. -/
theorem bind_ofSettings_cut {α : Type} {next : OptionGroup → Except SettingsFault α} (name : String)
    (settings : Value) (reads : ∀ group, next group.shallow = next group) :
    OptionGroup.ofSettings name (settings.cut 2) >>= next =
      OptionGroup.ofSettings name settings >>= next := by
  rw [OptionGroup.ofSettings_cut]
  cases OptionGroup.ofSettings name settings with
  | error fault => rfl
  | ok group => exact reads group

theorem ofValue_cut (environment : Environment) (settings : Value) :
    ofValue environment (settings.cut 2) = ofValue environment settings := by
  have journal_eq : journalOptions (settings.cut 2) = journalOptions settings :=
    bind_ofSettings_cut "log" settings fun group => by simp only [OptionGroup.read_shallow]
  have search_eq : searchOptions (settings.cut 2) = searchOptions settings :=
    bind_ofSettings_cut "search" settings fun group => by simp only [OptionGroup.read_shallow]
  have engine_eq : engineOptions environment (settings.cut 2) =
      engineOptions environment settings :=
    bind_ofSettings_cut "elasticsearch" settings fun group => by
      simp only [OptionGroup.read_shallow]
  rw [ofValue, ofValue, journal_eq, search_eq, engine_eq]

theorem ofValue_valueTo (environment : Environment) (document : Yaml.Document) (depth : Nat) :
    ofValue environment (document.valueTo (2 + depth) document.root) =
      ofValue environment (document.valueTo 2 document.root) := by
  rw [← ofValue_cut, Yaml.Document.cut_valueTo]

/-- Settings do not depend on how deep documents are looked into before they are laid over each
other, if it is by two levels. -/
theorem ofValue_overlay_valueTo (environment : Environment) (base upper : Yaml.Document)
    (depth other : Nat) :
    ofValue environment ((base.valueTo (2 + depth) base.root).overlay
        (upper.valueTo (2 + other) upper.root)) =
      ofValue environment ((base.valueTo 2 base.root).overlay (upper.valueTo 2 upper.root)) := by
  rw [← ofValue_cut, Value.cut_overlay, Yaml.Document.cut_valueTo, Yaml.Document.cut_valueTo]

end Settings

end EntrySearch
