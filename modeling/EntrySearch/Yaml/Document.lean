import EntrySearch.Proofs.Value.Overlay
import EntrySearch.Yaml.Fault

/-!
# Documents

What a YAML text stands for. A part of a document may stand at several places, even inside of
itself, so parts are kept by number.
-/

namespace EntrySearch.Yaml

/-- A part of a document. The parts inside of it are given by their numbers. -/
inductive Part where
  /-- A scalar. -/
  | scalar (s : Scalar)
  /-- A list. -/
  | list (items : List Nat)
  /-- An object. -/
  | object (entries : List (Scalar × Nat))

/-- Whether a part is an object. -/
def Part.isObject : Part → Bool
  | .object _ => true
  | _ => false

/-- A part without what is inside of it. -/
def Part.husk : Part → Value
  | .scalar s => .scalar s
  | .list _ => .list []
  | .object _ => .object []

/-- A part with values inside of it. -/
def Part.fill (inner : Nat → Value) : Part → Value
  | .scalar s => .scalar s
  | .list items => .list (items.map inner)
  | .object entries => .object (entries.map fun entry => (entry.1, inner entry.2))

/-- The parts of a text and the number of the one that all others are in. -/
structure Document where
  /-- Parts by number. -/
  parts : List (Nat × Part)
  /-- Number of the outermost part. -/
  root : Nat

namespace Document

/-- A document without parts inside. -/
def ofPart (part : Part) : Document :=
  ⟨[(0, part)], 0⟩

/-- The part with a number; there is one for each number that occurs. -/
def part (document : Document) (number : Nat) : Part :=
  (Entries.get? number document.parts).getD (.scalar .null)

/-- No key stands twice in an object. -/
def IsKeyed (document : Document) : Prop :=
  ∀ number entries, document.part number = .object entries → Entries.Distinct entries

theorem isKeyed_of_forall {document : Document}
    (known : ∀ part ∈ document.parts.map Prod.snd, ∀ entries, part = .object entries →
      Entries.Distinct entries) : document.IsKeyed := by
  intro number entries here
  unfold part at here
  cases found : Entries.get? number document.parts with
  | none =>
      rw [found] at here
      exact nomatch here
  | some part =>
      rw [found] at here
      exact known part (Entries.mem_snd_of_get? found) entries here

theorem isKeyed_ofPart {part : Part}
    (known : ∀ entries, part = .object entries → Entries.Distinct entries) :
    (ofPart part).IsKeyed :=
  isKeyed_of_forall fun _ member => List.mem_singleton.mp member ▸ known

/-- What the part with a number stands for. So many levels inside of it are looked at, and what lies
below them is left out. -/
def valueTo (document : Document) : Nat → Nat → Value
  | 0, number => (document.part number).husk
  | depth + 1, number => (document.part number).fill (document.valueTo depth)

/-- What a document stands for. Nothing is left out unless a part stands inside of itself; then two
levels are looked at in any case. -/
def value (document : Document) : Value :=
  document.valueTo (document.parts.length + 2) document.root

/-- The objects under the same keys of two objects. -/
def meetings (base upper : Document) (pair : Nat × Nat) : List (Nat × Nat) :=
  match base.part pair.1, upper.part pair.2 with
  | .object lower, .object entries =>
    entries.filterMap fun entry =>
      match Entries.get? entry.1 lower with
      | some below =>
        if (base.part below).isObject && (upper.part entry.2).isObject then some (below, entry.2)
        else none
      | none => none
  | _, _ => []

/-- From two objects on, objects under the same keys meet as many times as told. -/
def meetFor (base upper : Document) : Nat → Nat × Nat → Bool
  | 0, _ => true
  | count + 1, pair => (meetings base upper pair).any (meetFor base upper count)

/-- Laying a document over another comes to no end: objects under the same keys meet more often than
there are pairs of them. -/
def overlaysEndlessly (base upper : Document) : Bool :=
  meetFor base upper (base.parts.length * upper.parts.length + 1) (base.root, upper.root)

end Document

/-- A reader of YAML texts. It keeps one entry for each key of an object, as every reader of objects
does that are looked up by their keys. -/
structure Reader where
  /-- Read a text. -/
  read : String → Except Fault Document
  /-- No key stands twice in an object. -/
  isKeyed : ∀ {text document}, read text = .ok document → document.IsKeyed

end EntrySearch.Yaml
