import EntrySearch.Proofs.Search.Arguments
import EntrySearch.Proofs.Search.Normalization
import EntrySearch.Proofs.Text.Pieces

/-!
# Texts joined into one

Where the texts of a parameter are cut into terms, a list of texts can be given as one text: with a
character that ends a term between any two neighbours it asks for the same, and is refused for the
same.
-/

namespace EntrySearch

namespace Term

open Text

/-- A text and those behind it as one text, each with the character that stands in front of it. -/
def joined (first : String) (rest : List (Char × String)) : String :=
  String.ofList (first.toList ++ rest.flatMap fun part => part.1 :: part.2.toList)

/-- The terms of a text that is cut at some characters. -/
def terms (ends : Char → Bool) (value : String) : List String :=
  ofPieces (pieces ends value.toList)

@[simp]
theorem joined_nil (first : String) : joined first [] = first := by
  simp [joined]

theorem toList_joined_cons (first : String) (part : Char × String) (rest : List (Char × String)) :
    (joined first (part :: rest)).toList = first.toList ++ part.1 :: (joined part.2 rest).toList := by
  simp [joined]

theorem ofPieces_append (left right : List (List Char)) :
    ofPieces (left ++ right) = ofPieces left ++ ofPieces right := by
  simp [ofPieces]

/-- Each text is cut on its own, whatever stands at its ends. -/
theorem terms_joined {ends : Char → Bool} (first : String) {rest : List (Char × String)}
    (marks : ∀ part ∈ rest, ends part.1 = true) :
    terms ends (joined first rest) = (first :: rest.map Prod.snd).flatMap (terms ends) := by
  induction rest generalizing first with
  | nil => simp
  | cons part rest ih =>
      obtain ⟨mark, later⟩ := List.forall_mem_cons.mp marks
      calc
        terms ends (joined first (part :: rest)) =
            terms ends first ++ terms ends (joined part.2 rest) := by
          rw [terms, toList_joined_cons, pieces_append mark, ofPieces_append]
          rfl
        _ = (first :: (part :: rest).map Prod.snd).flatMap (terms ends) := by
          rw [ih part.2 later]
          rfl

end Term

/-- The characters that end a term in the texts of a parameter; texts of other parameters are not
cut. -/
def Parameter.endsTerm : Parameter → Char → Bool
  | .description | .title | .level | .owner => Term.endsWord
  | .tags | .logbooks | .properties => Term.endsName
  | _ => fun _ => false

namespace Criteria

open Term

theorem absorb_eq_of_terms_eq (zone : Time.Zone) (criteria : Criteria) {parameter : Parameter}
    {mark : Char} (cut : parameter.endsTerm mark = true) {texts other : List String}
    (same : texts.flatMap (terms parameter.endsTerm) = other.flatMap (terms parameter.endsTerm)) :
    criteria.absorb zone parameter texts = criteria.absorb zone parameter other := by
  cases parameter with
  | description | title | level | owner =>
      have words_eq : texts.flatMap words = other.flatMap words := same
      simp only [absorb, words_eq]
  | tags | logbooks | properties =>
      have names_eq : texts.flatMap names = other.flatMap names := same
      simp only [absorb, patternsOf, names_eq]
  | _ => exact absurd cut Bool.false_ne_true

/-- A parameter takes up joined texts like the texts themselves, whatever comes before and after. -/
theorem absorb_joined (zone : Time.Zone) (criteria : Criteria) {parameter : Parameter}
    (first : String) {rest : List (Char × String)}
    (marks : ∀ part ∈ rest, parameter.endsTerm part.1 = true) (before after : List String) :
    criteria.absorb zone parameter (before ++ joined first rest :: after) =
      criteria.absorb zone parameter (before ++ (first :: rest.map Prod.snd ++ after)) := by
  cases rest with
  | nil => simp
  | cons part others =>
      apply absorb_eq_of_terms_eq zone criteria (marks part List.mem_cons_self)
      rw [List.flatMap_append, List.flatMap_cons, terms_joined first marks, List.flatMap_append,
        List.flatMap_append]

theorem absorbAll_congr (zone : Time.Zone) (criteria : Criteria) {keys : List String}
    {texts other : String → List String}
    (each : ∀ key ∈ keys, ∀ criteria : Criteria,
      criteria.absorbKey zone key (texts key) = criteria.absorbKey zone key (other key)) :
    criteria.absorbAll zone (keys.map fun key => (key, texts key)) =
      criteria.absorbAll zone (keys.map fun key => (key, other key)) := by
  induction keys generalizing criteria with
  | nil => rfl
  | cons key rest ih =>
      obtain ⟨here, later⟩ := List.forall_mem_cons.mp each
      rw [List.map_cons, List.map_cons, absorbAll, absorbAll, here criteria]
      congr 1
      funext gathered
      exact ih gathered later

end Criteria

namespace Parameters

variable (before after : Parameters) (key : String)

theorem firstKeys_replace {texts other : List String} (filled : texts ≠ []) (filled' : other ≠ []) :
    firstKeys (before ++ (key, texts) :: after) = firstKeys (before ++ (key, other) :: after) := by
  simp [firstKeys, givenKeys, filled, filled']

theorem valuesOf_middle (texts : List String) (asked : String) :
    valuesOf asked (before ++ (key, texts) :: after) =
      before.valuesOf asked ++ ((if normalKey key = asked then texts else []) ++
        after.valuesOf asked) := by
  simp [valuesOf]

theorem ofRaw_middle (before after : RawParameters) {value : Value} {texts : List String}
    (read : textsOf value = .ok texts) :
    ofRaw (before ++ (key, value) :: after) = do
      let front ← ofRaw before
      let back ← ofRaw after
      return front ++ (key, texts) :: back := by
  rw [ofRaw, List.mapM_append, List.mapM_cons, read]
  show _ = ofRaw before >>= fun front => ofRaw after >>= _
  rw [ofRaw, ofRaw]
  cases before.mapM fun pair : String × Value => return (pair.1, ← textsOf pair.2) with
  | error fault => rfl
  | ok front =>
      cases after.mapM fun pair : String × Value => return (pair.1, ← textsOf pair.2) with
      | error fault => rfl
      | ok back => rfl

end Parameters

/-- Parameters in which texts are joined are gathered like those with the texts themselves. -/
theorem Criteria.gather_joined (zone : Time.Zone) (before after : Parameters) {key : String}
    {parameter : Parameter} (known : Parameter.ofKey? (Parameters.normalKey key) = some parameter)
    (first : String) {rest : List (Char × String)}
    (marks : ∀ part ∈ rest, parameter.endsTerm part.1 = true) :
    gather zone (before ++ (key, [Term.joined first rest]) :: after) =
      gather zone (before ++ (key, first :: rest.map Prod.snd) :: after) := by
  rw [gather, gather, Parameters.normalize_eq, Parameters.normalize_eq,
    Parameters.firstKeys_replace before after key (List.cons_ne_nil _ _)
      (List.cons_ne_nil first (rest.map Prod.snd))]
  apply absorbAll_congr
  intro asked _ criteria
  rw [Parameters.valuesOf_middle, Parameters.valuesOf_middle]
  by_cases same : Parameters.normalKey key = asked
  · subst same
    rw [if_pos rfl, if_pos rfl, absorbKey, absorbKey, known]
    exact criteria.absorb_joined zone first marks _ _
  · rw [if_neg same, if_neg same]

/-- A list of texts and the one text that has them with marks between them are compiled to the same
request, or refused for the same fault, and leave the same records. -/
theorem Policy.compileRaw_joined (policy : Policy) (zone : Time.Zone) (now : Present)
    (before after : RawParameters) {key : String} {parameter : Parameter}
    (known : Parameter.ofKey? (Parameters.normalKey key) = some parameter)
    (first : String) {rest : List (Char × String)}
    (marks : ∀ part ∈ rest, parameter.endsTerm part.1 = true) :
    policy.compileRaw zone (now.resolve zone)
        (before ++ (key, .text (Term.joined first rest)) :: after) =
      policy.compileRaw zone (now.resolve zone)
        (before ++ (key, .list ((first :: rest.map Prod.snd).map .text)) :: after) := by
  have one : Parameters.textsOf (.text (Term.joined first rest)) = .ok [Term.joined first rest] :=
    Given.textsOf_toValue (.text _)
  have many : Parameters.textsOf (.list ((first :: rest.map Prod.snd).map .text)) =
      .ok (first :: rest.map Prod.snd) :=
    Given.textsOf_toValue (.list _)
  rw [compileRaw, compileRaw, Parameters.ofRaw_middle key before after one,
    Parameters.ofRaw_middle key before after many]
  cases Parameters.ofRaw before with
  | error fault => rfl
  | ok front =>
      cases Parameters.ofRaw after with
      | error fault => rfl
      | ok back =>
          show policy.compile zone _ (front ++ (key, [Term.joined first rest]) :: back) =
            policy.compile zone _ (front ++ (key, first :: rest.map Prod.snd) :: back)
          rw [compile, compile, Criteria.gather_joined zone front back known first marks]

theorem Policy.compileRaw_joined_owners :
    let before : RawParameters := [("owner", .text "C")]
    let after : RawParameters := [("limit", .text "all")]
    let rest := [(' ', ",B|"), ('\u2003', "")]
    let one := before ++ (" OWNER\t", .text "ΟΔΟΣ ,B|\u2003") :: after
    let many := before ++ (" OWNER\t", .list [.text "ΟΔΟΣ", .text ",B|", .text ""]) :: after
    Parameter.ofKey? (Parameters.normalKey " OWNER\t") = some .owner ∧
      (∀ part ∈ rest, Parameter.endsTerm .owner part.1 = true) ∧
      Term.words "ΟΔΟΣ ,B|\u2003" = ["οδος", "b"] ∧
      ({} : Policy).compileRaw .utc .epoch one = ({} : Policy).compileRaw .utc .epoch many := by
  intro before after rest one many
  have known : Parameter.ofKey? (Parameters.normalKey " OWNER\t") = some .owner := by decide
  have marks : ∀ part ∈ rest, Parameter.endsTerm .owner part.1 = true := by decide
  refine ⟨known, marks, by decide +kernel, ?_⟩
  have joined_eq : Term.joined "ΟΔΟΣ" rest = "ΟΔΟΣ ,B|\u2003" := by decide +kernel
  have same := Policy.compileRaw_joined {} .utc (.moment .epoch) before after known "ΟΔΟΣ" marks
  rw [joined_eq] at same
  exact same

end EntrySearch
