-- Two ways to type a variable: by the type that it is declared with, and by the
-- type of the argument that it is given to. Read from one type reference the two
-- differ in lists only, which may be absent as arguments and never as declared
-- variables.
import OperationModels.Proofs.FieldsOfKinds
import OperationModels.Proofs.FirstBindings
import OperationModels.Proofs.TypeTexts

namespace OperationModels

open Graphql Model

/-! ## Marks around lists -/

/-- Does a non-null mark stand right around every list? -/
def Graphql.TypeRef.marksLists : TypeRef → Bool
  | .named _ => true
  | .list _ => false
  | .nonNull (.list item) => item.marksLists
  | .nonNull inner => inner.marksLists

namespace Model.FieldType

/-- The type with all types inside it, outermost first. -/
def parts : FieldType → List FieldType
  | .named name => [.named name]
  | .list item => .list item :: item.parts
  | .optional inner => .optional inner :: inner.parts

/-- The type without the optional marks that stand right around a list. -/
def requireLists : FieldType → FieldType
  | .named name => .named name
  | .list item => .list item.requireLists
  | .optional (.list item) => .list item.requireLists
  | .optional inner => .optional inner.requireLists

/-- Optional marks of a type stand around names only: none stands right around a
list, and none right around another. -/
structure MarksNames (type : FieldType) : Prop where
  noList : ∀ item, .optional (.list item) ∉ type.parts
  once : ∀ inner, .optional (.optional inner) ∉ type.parts

variable {type item : FieldType}

theorem MarksNames.list (h : item.MarksNames) : (list item).MarksNames where
  noList := by simp [parts, h.noList]
  once := by simp [parts, h.once]

theorem MarksNames.required (h : type.MarksNames) : type.required.MarksNames := by
  cases type with
  | optional inner =>
    have hinner : ∀ part, part ∈ inner.parts → part ∈ (optional inner).parts :=
      fun part => List.mem_cons_of_mem _
    exact ⟨fun item hmem => h.noList item (hinner _ hmem),
      fun deeper hmem => h.once deeper (hinner _ hmem)⟩
  | _ => exact h

/-- To strip the outermost mark before those around lists is to strip it after. -/
theorem requireLists_required (type : FieldType) :
    type.required.requireLists = type.requireLists.required := by
  cases type with
  | named name => rfl
  | list item => rfl
  | optional inner => cases inner <;> rfl

end Model.FieldType

/-! ## The two types of a reference -/

namespace Model

/-- What a variable is declared as and what it is bound as, for one reference.
Without the optional marks right around lists the two are the same; with them
they are just if each list of the reference is marked; and the declared type has
no such mark, nor two marks in one place. -/
structure AgreeUpToLists (reference : TypeRef) (declared bound : FieldType) : Prop where
  stripped : declared = bound.requireLists
  same : declared = bound ↔ reference.marksLists = true
  marked : declared.MarksNames

namespace Naming

variable (naming : Naming)

theorem refType_list (item : TypeRef) :
    naming.refType (.list item) = .optional (.list (naming.refType item)) := rfl

theorem refType_nonNull (inner : TypeRef) :
    naming.refType (.nonNull inner) = (naming.refType inner).required :=
  (naming.required_refType inner).symm

theorem declaredType_eq (reference : TypeRef) :
    naming.declaredType reference = (naming.refType reference).requireLists := by
  induction reference with
  | named name => rfl
  | list item ih => rw [declaredType, refType_list, FieldType.requireLists, ih]
  | nonNull inner ih =>
    rw [declaredType, refType_nonNull, FieldType.requireLists_required, ih]

/-- Nothing is stripped just if each list of the reference is marked. -/
theorem requireLists_refType_iff (reference : TypeRef) :
    (naming.refType reference).requireLists = naming.refType reference ↔
      reference.marksLists = true := by
  fun_induction TypeRef.marksLists reference with
  | case1 name => simp [refType, coreType, TypeRef.isNonNull, FieldType.requireLists]
  | case2 item => simp [refType_list, FieldType.requireLists]
  | case3 item ih =>
    rw [refType_nonNull, refType_list, FieldType.required, FieldType.requireLists,
      FieldType.list.injEq, ih]
  | case4 inner hlist ih =>
    cases inner with
    | named name =>
      simp [refType, coreType, TypeRef.isNonNull, FieldType.requireLists, TypeRef.marksLists]
    | list item => exact absurd rfl (hlist item)
    | nonNull deeper => exact ih

theorem marksNames_declaredType (reference : TypeRef) :
    (naming.declaredType reference).MarksNames := by
  induction reference with
  | named name =>
    exact ⟨by simp [declaredType, FieldType.parts], by simp [declaredType, FieldType.parts]⟩
  | list item ih => exact ih.list
  | nonNull inner ih => exact ih.required

theorem agreeUpToLists (reference : TypeRef) :
    AgreeUpToLists reference (naming.declaredType reference) (naming.refType reference) where
  stripped := naming.declaredType_eq reference
  same := by rw [naming.declaredType_eq, naming.requireLists_refType_iff]
  marked := naming.marksNames_declaredType reference

end Naming

end Model

/-! ## The type that a document gives an argument -/

/-- The type of an argument of a field: the last declaration of the field that
counts says it, and there the last of the name. -/
def Graphql.SchemaDocument.argumentType? (document : SchemaDocument)
    (type field argument : String) : Option TypeRef :=
  (document.effective.lastField? type field).bind (fun declared =>
    (declared.arguments.filter (fun written => written.1 = argument)).getLast?.map Prod.snd)

/-- The first argument that a variable is given to, where a walk comes to it, has
the type from the document. -/
def Graphql.SchemaDocument.TypesFirst (document : SchemaDocument) (root : String)
    (tree : SelectionTree) (name : String) (reference : TypeRef) : Prop :=
  ∃ given parent,
    ((tree.givenArguments []).filter ((Schema.ofDocument document).1.reaches root)).find?
        (fun argument => argument.binding.name = name) = some given ∧
      (Schema.ofDocument document).1.entered? root given.inside = some parent ∧
      document.argumentType? parent given.field given.binding.argument = some reference

/-- An argument that the schema of a document knows has a type from the document. -/
theorem Schema.exists_argumentType? {document : SchemaDocument} {type field argument : String}
    {definition : FieldDefinition} {declared : SchemaType}
    (hfield : (ofDocument document).1.field? type field = some definition)
    (hargument : definition.arguments.get? argument = some declared) :
    ∃ reference, document.argumentType? type field argument = some reference ∧
      declared = .ofRef reference := by
  obtain ⟨known, hknown, hfound⟩ := Option.bind_eq_some_iff.1 hfield
  rw [get?_ofDocument_effective] at hknown
  split at hfound
  · -- the field that every composite type has takes no arguments
    cases hfound
    cases hargument
  · rw [SchemaDocument.get?_fields_of_typeOf? hknown] at hfound
    obtain ⟨last, hlast, rfl⟩ := Option.map_eq_some_iff.1 hfound
    have htakes := (signs_ofDeclaration last).arguments.last argument
    rw [hargument, List.filter_map, List.getLast?_map, Option.map_map] at htakes
    obtain ⟨written, hwritten, hmade⟩ := Option.map_eq_some_iff.1 htakes.symm
    refine ⟨written.2, ?_, hmade.symm⟩
    unfold SchemaDocument.argumentType?
    rw [hlast, Option.bind_some]
    exact Option.map_eq_some_iff.2 ⟨written, hwritten, rfl⟩

namespace Model

/-- A bound variable has the type that the document gives its first argument. -/
theorem Naming.exists_typesFirst {document : SchemaDocument} {mapping : NameMapping}
    {tree : SelectionTree} {root : SchemaType} {result : Bound}
    (h : (Naming.ofDocument document mapping).boundVariables tree root = .ok result) :
    ∃ start, (Naming.ofDocument document mapping).rootType root = .ok start ∧
      ∀ kept ∈ result.fields, ∃ reference, document.TypesFirst start tree kept.name reference ∧
        kept.type = (Naming.ofDocument document mapping).refType reference := by
  obtain ⟨start, hroot, hcollect⟩ := Naming.boundVariables_eq_ok.1 h
  have hstart : (Naming.ofDocument document mapping).schema.entered? start [] = some start := rfl
  obtain ⟨occurrences, hbinds, hkeeps⟩ := Naming.keeps_of_collect hstart tree hcollect
  refine ⟨start, hroot, fun kept hkept => ?_⟩
  obtain ⟨given, declared, hgiven, hat, htype⟩ := hkeeps.exists_given hbinds hkept
  obtain ⟨parent, hparent, hdefined⟩ := Option.bind_eq_some_iff.1 hat
  obtain ⟨definition, hfield, hargument⟩ := Option.bind_eq_some_iff.1 hdefined
  obtain ⟨reference, hreference, rfl⟩ := Schema.exists_argumentType? hfield hargument
  rw [Naming.typeOf?_ofRef, Option.some.injEq] at htype
  exact ⟨reference, ⟨given, parent, hgiven, hparent, hreference⟩, htype.symm⟩

/-! ## The law -/

/-- A variable that is declared with the type of the argument that it is given to
is typed alike both ways, up to the optional marks right around lists. Whatever
type the argument is declared with, it is bound with one that agrees so. And
whatever is bound in a tree has a type from the document, and each variable that
is declared with this type agrees so. -/
theorem declared_and_bound_types_agree_up_to_lists (document : SchemaDocument)
    (mapping : NameMapping) :
    (∀ reference parent field (signature : OrderedMap String SchemaType) (binding : Binding),
      signature.get? binding.argument = some (.ofRef reference) →
        ∃ type, (Naming.ofDocument document mapping).bind parent field signature binding =
            .ok ⟨binding.name, type⟩ ∧
          AgreeUpToLists reference
            ((Naming.ofDocument document mapping).declaredType reference) type) ∧
    ∀ declarations tree root result,
      (Naming.ofDocument document mapping).boundVariables tree root = .ok result →
        ∃ start, (Naming.ofDocument document mapping).rootType root = .ok start ∧
          ∀ kept ∈ result.fields, ∃ reference,
            document.TypesFirst start tree kept.name reference ∧
              List.Forall₂ (fun (declaration : VariableDeclaration) (declared : Field) =>
                  declared.name = declaration.name ∧
                    (declaration.type = reference →
                      AgreeUpToLists reference declared.type kept.type))
                declarations
                ((Naming.ofDocument document mapping).declaredVariables declarations) := by
  refine ⟨?_, ?_⟩
  · intro reference parent field signature binding hargument
    refine ⟨(Naming.ofDocument document mapping).refType reference, ?_,
      Naming.agreeUpToLists _ reference⟩
    rw [Naming.bind_eq_ok_iff]
    exact ⟨rfl, .ofRef reference, hargument, Naming.typeOf?_ofRef _ reference⟩
  · intro declarations tree root result h
    obtain ⟨start, hroot, hall⟩ := Naming.exists_typesFirst h
    refine ⟨start, hroot, fun kept hkept => ?_⟩
    obtain ⟨reference, hfirst, htype⟩ := hall kept hkept
    refine ⟨reference, hfirst, ?_⟩
    unfold Naming.declaredVariables
    rw [List.forall₂_map_right_iff, List.forall₂_same]
    rintro declaration -
    refine ⟨rfl, ?_⟩
    rintro rfl
    rw [htype]
    exact Naming.agreeUpToLists _ declaration.type

/-- A sum over rows of cells, which may all be absent, and over cells near them,
none of whose lists may be. -/
def sumDocument : SchemaDocument :=
  [.type ⟨"Query", .object,
    [⟨"sum", [("rows", .list (.list (.nonNull (.named "Int")))),
      ("near", .nonNull (.list (.nonNull (.list (.named "Int")))))], .named "Int"⟩]⟩]

def sumTree : SelectionTree := .select "sum" [⟨"rows", "all"⟩, ⟨"near", "some"⟩] .nothing

/-- The variables of the sum, declared as the arguments are. -/
def sumDeclarations : List VariableDeclaration :=
  [⟨"all", .list (.list (.nonNull (.named "Int")))⟩,
    ⟨"some", .nonNull (.list (.nonNull (.list (.named "Int"))))⟩]

/-- The variables of the sum as they are bound. -/
def sumBound : Bound :=
  ⟨[⟨"all", .optional (.list (.optional (.list (.named "i32"))))⟩,
    ⟨"some", .list (.list (.optional (.named "i32")))⟩], []⟩

theorem declared_and_bound_types_of_the_sum_agree_up_to_lists :
    (Naming.ofDocument sumDocument .standard).boundVariables sumTree (.named "Query") =
        .ok sumBound ∧
      (Naming.ofDocument sumDocument .standard).declaredVariables sumDeclarations =
        [⟨"all", .list (.list (.named "i32"))⟩,
          ⟨"some", .list (.list (.optional (.named "i32")))⟩] ∧
      (∃ type, (Naming.ofDocument sumDocument .standard).bind "Query" "sum"
            (.ofList [("rows", .ofRef (.list (.named "Int")))]) ⟨"rows", "all"⟩ =
          .ok ⟨"all", type⟩ ∧
        AgreeUpToLists (.list (.named "Int"))
          ((Naming.ofDocument sumDocument .standard).declaredType (.list (.named "Int"))) type) ∧
      ∃ start, (Naming.ofDocument sumDocument .standard).rootType (.named "Query") = .ok start ∧
        ∀ kept ∈ sumBound.fields, ∃ reference,
          sumDocument.TypesFirst start sumTree kept.name reference ∧
            List.Forall₂ (fun (declaration : VariableDeclaration) (declared : Field) =>
                declared.name = declaration.name ∧
                  (declaration.type = reference →
                    AgreeUpToLists reference declared.type kept.type))
              sumDeclarations
              ((Naming.ofDocument sumDocument .standard).declaredVariables sumDeclarations) := by
  have h : (Naming.ofDocument sumDocument .standard).boundVariables sumTree (.named "Query") =
      .ok sumBound := rfl
  obtain ⟨hargument, hrun⟩ := declared_and_bound_types_agree_up_to_lists sumDocument .standard
  exact ⟨h, rfl, hargument _ "Query" "sum" _ _ rfl, hrun _ _ _ _ h⟩

end Model

end OperationModels
