import EntrySearch.Proofs.Outcome
import EntrySearch.Yaml.Document
import EntrySearch.Yaml.Node
import EntrySearch.Yaml.PlainScalar

/-!
# Reading documents

A reader of YAML without tags, texts in blocks, and the keys that stand for the entries of another
mapping: it takes no text that has a tag or a block, and takes such keys, a lone equals sign and
times of day for texts. Of several faults among the scalars and keys of a text the one that is
nearest to the root counts, and of those at the same depth the first.
-/

namespace EntrySearch.Yaml

open Outcome

namespace Node

/-- The scalar that a node stands for, if it is one. -/
def scalar? : Node → Option (Except Fault Scalar)
  | .scalar false text => some (.ok (.text (String.ofList text)))
  | .scalar true text => some (PlainScalar.read text)
  | _ => none

/-- Numbers of the nodes inside of a node, keys left out. -/
def children : Node → List Nat
  | .scalar _ _ => []
  | .list items => items
  | .mapping pairs => pairs.map Prod.snd

end Node

/-- The node with a number. -/
def nodeAt (nodes : List Node) (number : Nat) : Node :=
  nodes.getD number .missing

/-- The scalar of a node that is a key. -/
def keyAt (nodes : List Node) (number : Nat) : Except Fault Scalar :=
  ((nodeAt nodes number).scalar?).getD (.error .badKey)

/-- A node that is a scalar has to be one that can be read. -/
def checkScalar (nodes : List Node) (number : Nat) : Except Fault Unit :=
  match (nodeAt nodes number).scalar? with
  | some outcome => outcome.map fun _ => ()
  | none => .ok ()

/-- The part that a node stands for. Keys and values that are scalars are looked at here, and the
collections inside of it later. -/
def partAt (nodes : List Node) (number : Nat) : Except Fault Part :=
  match nodeAt nodes number with
  | .scalar false text => .ok (.scalar (.text (String.ofList text)))
  | .scalar true text => (PlainScalar.read text).map .scalar
  | .list items => do
    items.forM (checkScalar nodes)
    return .list items
  | .mapping pairs => do
    let entries ← pairs.mapM fun pair => do
      let key ← keyAt nodes pair.1
      checkScalar nodes pair.2
      return (key, pair.2)
    return .object (Entries.ofPairs entries)

/-- Numbers of the nodes inside of some, those nearer to them first, each of them once. -/
def inside (nodes : List Node) : Nat → List Nat → List Nat → List Nat
  | 0, _, seen => seen
  | _, [], seen => seen
  | fuel + 1, number :: rest, seen =>
    if seen.contains number then inside nodes fuel rest seen
    else inside nodes fuel (rest ++ (nodeAt nodes number).children) (seen ++ [number])

/-- The document of some nodes with its outermost part. -/
def ofNodes (nodes : List Node) (root : Nat) : Except Fault Document := do
  let fuel := (nodes.flatMap Node.children).length + 1
  let parts ← (inside nodes fuel [root] []).mapM fun number =>
    return (number, ← partAt nodes number)
  return ⟨parts, root⟩

/-- A character that may stand in a text. -/
def isAllowed (c : Char) : Bool :=
  let n := c.toNat
  n = 9 || n = 10 || n = 13 || (0x20 ≤ n && n ≤ 0x7E) || n = 0x85 || (0xA0 ≤ n && n ≤ 0xFFFD) ||
    0x10000 ≤ n

/-- Read a YAML text; one without a document is null. -/
def read (text : String) : Except Fault Document := do
  let cs := text.toList
  if !cs.all isAllowed then throw .unprintable
  match ← Node.ofChars? cs with
  | none => return .ofPart (.scalar .null)
  | some (root, nodes) => ofNodes nodes root

theorem distinct_of_partAt {nodes : List Node} {number : Nat} {entries : List (Scalar × Nat)}
    (reads : partAt nodes number = .ok (.object entries)) : Entries.Distinct entries := by
  unfold partAt at reads
  split at reads
  · exact nomatch reads
  · obtain ⟨_, _, impossible⟩ := map_eq_ok_iff.mp reads
    exact nomatch impossible
  · obtain ⟨_, _, impossible⟩ := bind_eq_ok_iff.mp reads
    exact nomatch impossible
  · obtain ⟨pairs, _, made⟩ := bind_eq_ok_iff.mp reads
    obtain rfl := Part.object.inj (Except.ok.inj made)
    exact Entries.distinct_ofPairs pairs

theorem isKeyed_ofNodes {nodes : List Node} {root : Nat} {document : Document}
    (reads : ofNodes nodes root = .ok document) : document.IsKeyed := by
  obtain ⟨parts, each, made⟩ := bind_eq_ok_iff.mp reads
  obtain rfl := Except.ok.inj made
  have known : ∀ part ∈ parts, ∀ entries, part.2 = .object entries →
      Entries.Distinct entries := by
    refine yields_mapM (fun number _ => ?_) parts each
    refine Yields.bind (fun _ here => here) fun part here => yields_ok fun entries object => ?_
    exact distinct_of_partAt (here.trans (congrArg _ object))
  exact Document.isKeyed_of_forall (List.forall_mem_map.mpr known)

theorem isKeyed_of_read {text : String} {document : Document} (reads : read text = .ok document) :
    document.IsKeyed := by
  unfold read at reads
  dsimp only at reads
  split at reads
  · exact nomatch reads
  · obtain ⟨found, -, valued⟩ := bind_eq_ok_iff.mp reads
    cases found with
    | none =>
        obtain rfl := Except.ok.inj valued
        exact Document.isKeyed_ofPart nofun
    | some found => exact isKeyed_ofNodes valued

/-- The reader of such texts. -/
def reader : Reader :=
  ⟨read, isKeyed_of_read⟩

end EntrySearch.Yaml
