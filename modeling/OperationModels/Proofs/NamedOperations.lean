-- Operations that are asked for by name. The first operation of a name is taken
-- as if it stood alone: the operations of other names, those without a name and
-- the fragments of its document add nothing to it, and of them only the
-- fragments are told of.
import Mathlib.Logic.Relation
import OperationModels.Proofs.WrittenFields

namespace OperationModels

open Graphql

/-! ## Changes beside the operations of a name -/

namespace Graphql

/-- An item is an operation of the name. -/
def QueryItem.IsNamed (name : String) : QueryItem → Prop
  | .operation definition => definition.name = some name
  | .fragment _ => False

instance (name : String) : (item : QueryItem) → Decidable (item.IsNamed name)
  | .operation definition => inferInstanceAs (Decidable (definition.name = some name))
  | .fragment _ => inferInstanceAs (Decidable False)

namespace QueryDocument

/-- One more item that is no operation of the name stands somewhere in a document. -/
inductive Grows (name : String) : QueryDocument → QueryDocument → Prop
  | put (before after : QueryDocument) {item : QueryItem} :
    ¬ item.IsNamed name → Grows name (before ++ after) (before ++ item :: after)

/-- Documents with the same operations of a name: all other items may be put in,
taken out or, by both, moved. -/
def SameNamed (name : String) : QueryDocument → QueryDocument → Prop :=
  Relation.EqvGen (Grows name)

/-- The items that are operations of a name. -/
def named (document : QueryDocument) (name : String) : QueryDocument :=
  document.filter (fun item => item.IsNamed name)

variable {document other : QueryDocument} {name : String}

theorem Grows.cons (h : document.Grows name other) (item : QueryItem) :
    Grows name (item :: document) (item :: other) := by
  obtain ⟨before, after, hitem⟩ := h
  exact .put (item :: before) after hitem

theorem SameNamed.cons (h : document.SameNamed name other) (item : QueryItem) :
    SameNamed name (item :: document) (item :: other) := by
  induction h with
  | rel _ _ hgrows => exact .rel _ _ (hgrows.cons item)
  | refl _ => exact .refl _
  | symm _ _ _ ih => exact .symm _ _ ih
  | trans _ _ _ _ _ ih ih' => exact .trans _ _ _ ih ih'

/-- A document is its operations of the name, with other items put in. -/
theorem sameNamed_named (document : QueryDocument) (name : String) :
    SameNamed name (document.named name) document := by
  unfold named
  induction document with
  | nil => exact .refl _
  | cons item rest ih =>
    by_cases hitem : item.IsNamed name
    · rw [List.filter_cons_of_pos (by simpa using hitem)]
      exact ih.cons item
    · rw [List.filter_cons_of_neg (by simpa using hitem)]
      exact .trans _ _ _ ih (.rel _ _ (.put [] rest hitem))

theorem named_eq_of_grows (h : document.Grows name other) :
    document.named name = other.named name := by
  obtain ⟨before, after, hitem⟩ := h
  unfold named
  rw [List.filter_append, List.filter_append, List.filter_cons_of_neg (by simpa using hitem)]

/-- Changes lead from one document to another just if both have the same
operations of the name in the same order. -/
theorem sameNamed_iff : document.SameNamed name other ↔ document.named name = other.named name := by
  constructor
  · intro h
    induction h with
    | rel _ _ hgrows => exact named_eq_of_grows hgrows
    | refl _ => rfl
    | symm _ _ _ ih => exact ih.symm
    | trans _ _ _ _ _ ih ih' => exact ih.trans ih'
  · intro h
    have hother := sameNamed_named other name
    rw [← h] at hother
    exact .trans _ _ _ (.symm _ _ (sameNamed_named document name)) hother

theorem operations_named (document : QueryDocument) (name : String) :
    (document.named name).operations =
      document.operations.filter (fun definition => definition.Answers (some name)) := by
  unfold named operations
  rw [List.filter_filterMap, List.filterMap_filter]
  refine List.filterMap_congr fun item _ => ?_
  cases item with
  | operation definition =>
    by_cases hname : definition.name = some name <;>
      simp [QueryItem.IsNamed, OperationDefinition.Answers, Option.filter_some, hname]
  | fragment definition => simp [QueryItem.IsNamed]

/-- A document offers what the first of its operations of the name is. -/
theorem SameNamed.offers_iff (h : document.SameNamed name other)
    {definition : OperationDefinition} :
    document.Offers (some name) definition ↔ other.Offers (some name) definition := by
  rw [QueryDocument.offers_iff, QueryDocument.offers_iff, ← List.head?_filter,
    ← List.head?_filter, ← operations_named, ← operations_named, sameNamed_iff.1 h]

theorem exists_offers_iff :
    (∃ definition, document.Offers (some name) definition) ↔
      ∃ definition ∈ document.operations, definition.name = some name := by
  simp only [QueryDocument.offers_iff, ← Option.isSome_iff_exists, List.find?_isSome]
  simp [OperationDefinition.Answers]

end QueryDocument

end Graphql

/-! ## What is taken and told -/

namespace Operation

/-- Operations that differ in nothing but the text of their document. -/
structure Alike (operation other : Operation) : Prop where
  kind : operation.kind = other.kind
  name : operation.name = other.name
  declarations : operation.declarations = other.declarations
  selection : operation.selection = other.selection

theorem alike_ofDefinition (definition : OperationDefinition) (source other : String) :
    (ofDefinition definition source).Alike (ofDefinition definition other) :=
  ⟨rfl, rfl, rfl, rfl⟩

/-- What is told of the fields of an operation as it is written. -/
def fieldWarnings (definition : OperationDefinition) : List Warning :=
  (Selection.fieldsOf definition.selections).flatMap WrittenField.warnings

theorem fragmentIgnored_not_mem_fieldWarnings (definition : OperationDefinition)
    (fragment : String) : .fragmentIgnored fragment ∉ fieldWarnings definition := by
  simp [fieldWarnings, WrittenField.warnings]

/-- Of an operation that is all of its document only its fields are told of. -/
theorem ofDocument_alone {definition : OperationDefinition} {wanted : Option String}
    (h : definition.Answers wanted) (source : String) :
    ofDocument [.operation definition] wanted source =
      .ok (ofDefinition definition source, fieldWarnings definition) := by
  have hoffers : QueryDocument.Offers [.operation definition] wanted definition :=
    ⟨[], [], rfl, h, List.forall_mem_nil _⟩
  have hchoice : choiceWarnings (QueryDocument.operations [.operation definition]) wanted = [] := by
    cases wanted <;> rfl
  rw [ofDocument_eq_ok_iff]
  refine ⟨definition, hoffers, rfl, ?_⟩
  rw [hchoice]
  rfl

/-- Of a document that offers the operation only its fragments are told of besides. -/
theorem ofDocument_of_offers {document : QueryDocument} {name : String}
    {definition : OperationDefinition} (h : document.Offers (some name) definition)
    (source : String) :
    ofDocument document (some name) source =
      .ok (ofDefinition definition source,
        document.fragmentsTold ++ fieldWarnings definition) := by
  rw [ofDocument_eq_ok_iff]
  refine ⟨definition, h, rfl, ?_⟩
  have hchoice : choiceWarnings document.operations (some name) = [] := rfl
  rw [hchoice, List.append_nil]
  rfl

theorem ofDocument_of_none {document : QueryDocument} {name : String}
    (h : ∀ definition ∈ document.operations, definition.name ≠ some name) (source : String) :
    ofDocument document (some name) source = .error (.noOperationNamed name) := by
  have hfind : document.operations.find? (fun definition => definition.name = some name) =
      none := by
    rw [List.find?_eq_none]
    simpa using h
  have hchoose : chooseOperation document.operations (some name) =
      .error (.noOperationNamed name) := by
    unfold chooseOperation
    simp only [hfind]
  unfold ofDocument
  rw [hchoose]
  rfl

/-! ## The law -/

/-- An operation that is asked for by name is the first of its name, and it is
taken and told of as if it stood alone, asked for or not. The only difference is
that the fragments of the document are told of before. No other item that is put
in, taken out or moved makes another. If no operation has the name, whatever else
the document has, it fails for want of it. -/
theorem operations_of_a_document_do_not_influence_each_other (document : QueryDocument)
    (name source : String) :
    ((∃ carrier ∈ document.operations, carrier.name = some name) →
      ∃ definition operation told, document.Offers (some name) definition ∧
        ofDocument document (some name) source = .ok (operation, document.fragmentsTold ++ told) ∧
        (∀ fragment, .fragmentIgnored fragment ∉ told) ∧
        (∀ text wanted, wanted = some name ∨ wanted = none →
          ∃ alone, ofDocument [.operation definition] wanted text = .ok (alone, told) ∧
            operation.Alike alone) ∧
        ∀ (other : QueryDocument) text, document.SameNamed name other →
          ∃ same, ofDocument other (some name) text = .ok (same, other.fragmentsTold ++ told) ∧
            operation.Alike same) ∧
    ((∀ definition ∈ document.operations, definition.name ≠ some name) →
      ofDocument document (some name) source = .error (.noOperationNamed name) ∧
        (Failure.noOperationNamed name).message =
          Sentence.queryParse s!"document contains no operation named '{name}'") := by
  refine ⟨fun hcarrier => ?_, fun hnone => ⟨ofDocument_of_none hnone source, rfl⟩⟩
  obtain ⟨definition, hoffers⟩ := QueryDocument.exists_offers_iff.2 hcarrier
  refine ⟨definition, ofDefinition definition source, fieldWarnings definition, hoffers,
    ofDocument_of_offers hoffers source, fragmentIgnored_not_mem_fieldWarnings definition, ?_, ?_⟩
  · intro text wanted hwanted
    obtain ⟨-, -, -, hnamed, -⟩ := hoffers
    have hanswers : definition.Answers wanted := by
      rcases hwanted with rfl | rfl
      · exact hnamed
      · exact .inl rfl
    exact ⟨ofDefinition definition text, ofDocument_alone hanswers text,
      alike_ofDefinition definition source text⟩
  · intro other text hsame
    exact ⟨ofDefinition definition text, ofDocument_of_offers (hsame.offers_iff.1 hoffers) text,
      alike_ofDefinition definition source text⟩

/-- A document with a second operation of a name, behind one without a name. -/
def secondSearchDocument : QueryDocument :=
  searchDocument ++
    [.operation ⟨.subscription, some "Search", [], [], [.field none "late" [] [] []]⟩]

theorem two_searches_do_not_influence_each_other :
    (∃ definition operation told, secondSearchDocument.Offers (some "Search") definition ∧
      ofDocument secondSearchDocument (some "Search") "both" =
        .ok (operation, [.fragmentIgnored "Hit", .fragmentIgnored "Rest"] ++ told) ∧
      (∃ alone, ofDocument [.operation definition] none "one" = .ok (alone, told) ∧
        operation.Alike alone) ∧
      ∃ same, ofDocument (secondSearchDocument.named "Search") (some "Search") "named" =
          .ok (same, told) ∧ operation.Alike same) ∧
    ofDocument secondSearchDocument (some "Late") "both" = .error (.noOperationNamed "Late") := by
  have hcarrier : ∃ carrier ∈ secondSearchDocument.operations, carrier.name = some "Search" :=
    ⟨_, .head _, rfl⟩
  have hnone : ∀ definition ∈ secondSearchDocument.operations, definition.name ≠ some "Late" := by
    simp [secondSearchDocument, searchDocument, QueryDocument.operations]
  obtain ⟨htaken, -⟩ :=
    operations_of_a_document_do_not_influence_each_other secondSearchDocument "Search" "both"
  obtain ⟨-, hfails⟩ :=
    operations_of_a_document_do_not_influence_each_other secondSearchDocument "Late" "both"
  obtain ⟨definition, operation, told, hoffers, hmade, -, halone, hsame⟩ := htaken hcarrier
  have hnamed := QueryDocument.sameNamed_named secondSearchDocument "Search"
  exact ⟨⟨definition, operation, told, hoffers, hmade, halone "one" none (.inr rfl),
    hsame _ "named" (.symm _ _ hnamed)⟩, (hfails hnone).1⟩

end Operation

end OperationModels
