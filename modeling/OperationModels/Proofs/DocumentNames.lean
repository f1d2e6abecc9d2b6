-- The names in a document. Every name among the tokens of a text is a GraphQL
-- name, a reader only takes tokens away, and so the types that a document
-- defines or extends have such names, and only fields that suit their kinds.
import OperationModels.Proofs.DefinedTypes

namespace OperationModels.Graphql

/-! ## Names among tokens -/

/-- A GraphQL name: a letter or an underscore, and then letters, digits and
underscores. -/
def isName (text : String) : Bool :=
  match text.toList with
  | [] => false
  | first :: rest => isNameStart first && rest.all isNameChar

theorem isName_iff {text : String} :
    isName text = true ↔ ∃ first rest, text = String.ofList (first :: rest) ∧
      isNameStart first = true ∧ rest.all isNameChar = true := by
  unfold isName
  constructor
  · intro h
    split at h
    · cases h
    · rename_i first rest hlist
      rw [Bool.and_eq_true] at h
      exact ⟨first, rest, by rw [← hlist, String.ofList_toList], h.1, h.2⟩
  · rintro ⟨first, rest, rfl, hstart, hrest⟩
    simp only [String.toList_ofList, hstart, hrest, Bool.and_self]

/-- A token that is a name is a GraphQL name. -/
def Token.IsNamed (token : Token) : Prop := ∀ text, token = .name text → isName text = true

def Tokens.AreNamed (tokens : Tokens) : Prop := ∀ entry ∈ tokens.rest, entry.2.IsNamed

theorem isNamed_of_numberToken {text : List Char} {token : Token}
    (h : numberToken text = some token) : token.IsNamed := by
  unfold numberToken at h
  rintro name rfl
  repeat' split at h
  all_goals cases h

/-- Of the tokens only one that starts as a name is a name, and it takes what
may stand in one. -/
theorem isNamed_of_scanToken {opened : Nat} {text : List Char} {scanned : Scanned}
    (h : scanToken opened text = some scanned) : scanned.token.IsNamed := by
  intro name hname
  cases text with
  | nil => cases h
  | cons c rest =>
    unfold scanToken at h
    dsimp only at h
    -- brackets, the other punctuators, and the spread
    split at h
    · split at h <;> cases h
      cases hname
    split at h
    · cases h
      cases hname
    split at h
    · cases h
      cases hname
    split at h
    · split at h <;> cases h
      cases hname
    -- a name
    split at h
    · rename_i hstart
      cases h
      cases hname
      exact isName_iff.2 ⟨c, _, rfl, hstart, List.all_takeWhile⟩
    -- a number, and the two kinds of strings
    split at h
    · obtain ⟨token, hnumber, rfl⟩ := Option.map_eq_some_iff.1 h
      exact isNamed_of_numberToken hnumber name hname
    split at h
    · split at h
      all_goals
        obtain ⟨inside, -, rfl⟩ := Option.map_eq_some_iff.1 h
        cases hname
    · cases h

theorem areNamed_tokensFrom (bound : Nat) (place : Position) (opened : Nat) (text : List Char) :
    (tokensFrom bound place opened text).AreNamed := by
  fun_induction tokensFrom bound place opened text
  case case4 here bound front _ scanned hscan later _ ih =>
    intro entry hentry
    rcases List.mem_cons.1 hentry with rfl | hlater
    · exact isNamed_of_scanToken hscan
    · exact ih entry hlater
  all_goals exact List.forall_mem_nil _

/-- Every name among the tokens of a text is a GraphQL name. -/
theorem areNamed_tokensOf (text : String) : (tokensOf text).AreNamed :=
  areNamed_tokensFrom _ _ _ _

/-! ## What readers give -/

namespace Reader

variable {α β : Type} {good : α → Prop} {fine : β → Prop}

/-- What a reader gives is good as long as the names among the tokens are
GraphQL names, and they still are behind it. -/
def Gives (reader : Reader α) (good : α → Prop) : Prop :=
  ∀ tokens a rest, tokens.AreNamed → reader tokens = .ok (a, rest) → good a ∧ rest.AreNamed

theorem Gives.bind {reader : Reader α} {next : α → Reader β} (h : reader.Gives good)
    (hnext : ∀ a, good a → (next a).Gives fine) : Gives (reader >>= next) fine := by
  intro tokens b rest hnamed hrun
  obtain ⟨⟨a, middle⟩, hfirst, hsecond⟩ := bind_eq_ok.1 hrun
  obtain ⟨hgood, hmiddle⟩ := h tokens a middle hnamed hfirst
  exact hnext a hgood middle b rest hmiddle hsecond

theorem Gives.imp {reader : Reader α} {weaker : α → Prop} (h : reader.Gives good)
    (hweaker : ∀ a, good a → weaker a) : reader.Gives weaker := by
  intro tokens a rest hnamed hrun
  exact (h tokens a rest hnamed hrun).imp_left (hweaker a)

/-- A reader keeps the names among the tokens, whatever it gives. -/
abbrev Keeps (reader : Reader α) : Prop := reader.Gives (fun _ => True)

theorem Gives.keeps {reader : Reader α} (h : reader.Gives good) : reader.Keeps :=
  h.imp (fun _ _ => trivial)

theorem gives_pure {a : α} (h : good a) : Gives (pure a) good := by
  intro tokens a rest hnamed hrun
  cases hrun
  exact ⟨h, hnamed⟩

theorem gives_fail : Gives (fail : Reader α) good := by
  intro tokens a rest _ hrun
  cases hrun

theorem gives_failAt (start : Position) : Gives (failAt start : Reader α) good := by
  intro tokens a rest _ hrun
  cases hrun

theorem keeps_place : place.Keeps := by
  intro tokens a rest hnamed hrun
  cases hrun
  exact ⟨trivial, hnamed⟩

theorem gives_peek : peek.Gives (fun next => ∀ token ∈ next, token.IsNamed) := by
  intro tokens next rest hnamed hrun
  cases hrun
  refine ⟨?_, hnamed⟩
  intro token htoken
  obtain ⟨entry, hentry, rfl⟩ := Option.map_eq_some_iff.1 htoken
  exact hnamed entry (List.mem_of_head? hentry)

theorem keeps_atEnd : atEnd.Keeps := by
  intro tokens a rest hnamed hrun
  unfold atEnd at hrun
  split at hrun <;> cases hrun <;> exact ⟨trivial, hnamed⟩

theorem keeps_drop :
    Keeps (modify fun tokens : Tokens => { tokens with rest := tokens.rest.tail }) := by
  intro tokens a rest hnamed hrun
  cases hrun
  exact ⟨trivial, fun entry hentry => hnamed entry (List.mem_of_mem_tail hentry)⟩

theorem gives_take? {choose : Token → Option α}
    (h : ∀ token, token.IsNamed → ∀ a, choose token = some a → good a) :
    (take? choose).Gives (fun found => ∀ a ∈ found, good a) := by
  refine gives_peek.bind ?_
  intro next hnext
  split
  · exact gives_pure (fun a ha => by cases ha)
  · rename_i value hvalue
    obtain ⟨token, htoken, hchosen⟩ := Option.bind_eq_some_iff.1 hvalue
    refine keeps_drop.bind fun _ _ => gives_pure ?_
    intro a ha
    cases ha
    exact h token (hnext token htoken) value hchosen

theorem gives_take {choose : Token → Option α}
    (h : ∀ token, token.IsNamed → ∀ a, choose token = some a → good a) :
    (take choose).Gives good := by
  refine (gives_take? h).bind ?_
  intro found hfound
  split
  · exact gives_pure (hfound _ rfl)
  · exact gives_fail

theorem keeps_take? (choose : Token → Option α) : (take? choose).Keeps := by
  have hany : ∀ token : Token, token.IsNamed → ∀ a, choose token = some a → True :=
    fun _ _ _ _ => trivial
  exact (gives_take? hany).keeps

theorem keeps_take (choose : Token → Option α) : (take choose).Keeps :=
  gives_take (fun _ _ _ _ => trivial)

theorem gives_name : name.Gives (fun text => isName text = true) := by
  refine gives_take ?_
  intro token hnamed text htext
  split at htext
  · cases htext
    exact hnamed _ rfl
  · cases htext

theorem keeps_expect (wanted : Token) : (expect wanted).Keeps :=
  keeps_take _

theorem keeps_accept (wanted : Token) : (accept wanted).Keeps :=
  (keeps_take? _).bind (fun _ _ => gives_pure trivial)

theorem keeps_nextIs (wanted : Token) : (nextIs wanted).Keeps :=
  gives_peek.bind (fun _ _ => gives_pure trivial)

/-! ## Readers of several items -/

theorem gives_untilDone {done : Reader Bool} {item : Reader α}
    (hdone : done.Keeps) (hitem : item.Gives good) (bound : Nat) :
    (untilDone done item bound).Gives (fun items => ∀ a ∈ items, good a) := by
  induction bound with
  | zero => exact gives_fail
  | succ bound ih =>
    refine hdone.bind ?_
    intro found _
    split
    · exact gives_pure (List.forall_mem_nil _)
    · refine hitem.bind fun first hfirst => ih.bind fun others hothers => gives_pure ?_
      exact List.forall_mem_cons.2 ⟨hfirst, hothers⟩

theorem gives_many {done : Reader Bool} {item : Reader α}
    (hdone : done.Keeps) (hitem : item.Gives good) :
    (many done item).Gives (fun items => ∀ a ∈ items, good a) := by
  intro tokens items rest hnamed hrun
  exact gives_untilDone hdone hitem _ tokens items rest hnamed hrun

theorem gives_manyClosedBy (close : Char) {item : Reader α} (hitem : item.Gives good) :
    (manyClosedBy close item).Gives (fun items => ∀ a ∈ items, good a) :=
  gives_many (keeps_accept _) hitem

theorem gives_someClosedBy (close : Char) {item : Reader α} (hitem : item.Gives good) :
    (someClosedBy close item).Gives (fun items => ∀ a ∈ items, good a) :=
  hitem.bind fun _ hfirst => (gives_manyClosedBy close hitem).bind fun _ hothers =>
    gives_pure (List.forall_mem_cons.2 ⟨hfirst, hothers⟩)

theorem gives_bracketed (opening close : Char) {item : Reader α} (hitem : item.Gives good) :
    (bracketed opening close item).Gives (fun items => ∀ a ∈ items, good a) := by
  refine (keeps_accept _).bind ?_
  intro opens _
  split
  · exact gives_someClosedBy close hitem
  · exact gives_pure (List.forall_mem_nil _)

theorem gives_separatedBy (separator : Char) {item : Reader α} (hitem : item.Gives good) :
    (separatedBy separator item).Gives (fun items => ∀ a ∈ items, good a) := by
  have hends : Keeps (do pure !(← nextIs (.punctuator separator))) :=
    (keeps_nextIs _).bind (fun _ _ => gives_pure trivial)
  have hnext : Gives (do punctuator separator; item) good :=
    (keeps_expect _).bind (fun _ _ => hitem)
  exact hitem.bind fun _ hfirst => (gives_many hends hnext).bind fun _ hothers =>
    gives_pure (List.forall_mem_cons.2 ⟨hfirst, hothers⟩)

end Reader

/-! ## Terms -/

open Reader

theorem keeps_readTypeRef (depth : Nat) : (readTypeRef depth).Keeps := by
  induction depth with
  | zero => exact gives_fail
  | succ depth ih =>
    have hmark : ∀ inner : TypeRef, Keeps (do
        if ← accept (.punctuator '!') then pure inner.nonNull else pure inner) := by
      intro inner
      refine (keeps_accept _).bind ?_
      intro found _
      split <;> exact gives_pure trivial
    rw [readTypeRef]
    refine (keeps_accept _).bind ?_
    intro opens _
    dsimp only
    split
    · exact ih.bind fun _ _ => (keeps_expect _).bind fun _ _ => hmark _
    · exact gives_name.bind fun _ _ => hmark _

theorem keeps_readValue (allowed : Bool) (depth : Nat) : (readValue allowed depth).Keeps := by
  induction depth with
  | zero => exact gives_fail
  | succ depth ih =>
    rw [readValue]
    refine (keeps_take? _).bind ?_
    intro literal _
    split
    · exact gives_pure trivial
    refine (keeps_accept _).bind ?_
    intro list _
    split
    · exact (gives_manyClosedBy _ ih).bind fun _ _ => gives_pure trivial
    refine (keeps_accept _).bind ?_
    intro object _
    split
    · have hentry : Keeps (do
          let key ← name
          punctuator ':'
          let value ← readValue allowed depth
          pure (key, value)) :=
        gives_name.bind fun _ _ => (keeps_expect _).bind fun _ _ => ih.bind fun _ _ =>
          gives_pure trivial
      exact (gives_manyClosedBy _ hentry).bind fun _ _ => gives_pure trivial
    split
    · exact (keeps_expect _).bind fun _ _ => gives_name.bind fun _ _ => gives_pure trivial
    · exact gives_fail

theorem keeps_typeRef : typeRef.Keeps := keeps_readTypeRef maxDepth

theorem keeps_arguments : arguments.Keeps := by
  have hargument : Keeps (do
      let key ← name
      punctuator ':'
      let argument ← value
      pure (key, argument)) :=
    gives_name.bind fun _ _ => (keeps_expect _).bind fun _ _ =>
      (keeps_readValue true maxDepth).bind fun _ _ => gives_pure trivial
  exact (gives_bracketed _ _ hargument).keeps

theorem keeps_directives : directives.Keeps := by
  have hends : Keeps (do pure !(← nextIs (.punctuator '@'))) :=
    (keeps_nextIs _).bind (fun _ _ => gives_pure trivial)
  have hdirective : Keeps (do
      punctuator '@'
      let directive ← name
      pure (⟨directive, ← arguments⟩ : Directive)) :=
    (keeps_expect _).bind fun _ _ => gives_name.bind fun _ _ => keeps_arguments.bind fun _ _ =>
      gives_pure trivial
  exact (gives_many hends hdirective).keeps

/-! ## What can be written -/

/-- May a type of the kind have the field? -/
def FieldDeclaration.suits (field : FieldDeclaration) : TypeKind → Bool
  | .object | .interface => true
  | .inputObject => field.arguments.isEmpty
  | .scalar | .enum | .union => false

/-- A type as it can be written: with a GraphQL name, and with fields that a
type of its kind may have. -/
structure TypeDeclaration.Written (declaration : TypeDeclaration) : Prop where
  named : isName declaration.name = true
  suited : ∀ field ∈ declaration.fields, field.suits declaration.kind = true

/-- The type that an item defines or extends, if any, is one that can be written. -/
def SchemaItem.Written : SchemaItem → Prop
  | .type declaration => declaration.Written
  | .extension declaration => declaration.Written
  | _ => True

namespace SchemaDocument

/-! ## Parts of definitions -/

theorem keeps_description : description.Keeps := by
  unfold description
  exact (keeps_take? _).bind fun _ _ => gives_pure trivial

theorem keeps_inputValue : inputValue.Keeps := by
  unfold inputValue
  refine keeps_description.bind fun _ _ => gives_name.bind fun key _ =>
    (keeps_expect _).bind fun _ _ => keeps_typeRef.bind fun type _ =>
      (keeps_accept _).bind fun preset _ => ?_
  have hrest : Keeps (do
      let _ ← directives
      pure (key, type)) :=
    keeps_directives.bind fun _ _ => gives_pure trivial
  dsimp only
  split
  · exact (keeps_readValue false maxDepth).bind fun _ _ => hrest
  · exact hrest

theorem keeps_argumentTypes : argumentTypes.Keeps :=
  (gives_bracketed _ _ keeps_inputValue).keeps

theorem keeps_field : field.Keeps := by
  unfold field
  exact keeps_description.bind fun _ _ => gives_name.bind fun _ _ =>
    keeps_argumentTypes.bind fun _ _ => (keeps_expect _).bind fun _ _ =>
      keeps_typeRef.bind fun _ _ => keeps_directives.bind fun _ _ => gives_pure trivial

theorem keeps_fields : fields.Keeps := (gives_bracketed _ _ keeps_field).keeps

theorem gives_inputFields :
    inputFields.Gives (fun fields => ∀ field ∈ fields, field.arguments = []) := by
  refine (gives_bracketed _ _ keeps_inputValue).bind fun entries _ => gives_pure ?_
  intro field hfield
  obtain ⟨entry, -, rfl⟩ := List.mem_map.1 hfield
  rfl

theorem keeps_interfaces : interfaces.Keeps := by
  unfold interfaces
  refine (keeps_accept _).bind ?_
  intro found _
  split
  · exact (keeps_accept _).bind fun _ _ => (gives_separatedBy _ gives_name).keeps
  · exact gives_pure trivial

theorem keeps_members : members.Keeps := by
  unfold members
  refine (keeps_accept _).bind ?_
  intro found _
  split
  · exact (keeps_accept _).bind fun _ _ => (gives_separatedBy _ gives_name).keeps
  · exact gives_pure trivial

theorem keeps_enumValues : enumValues.Keeps := by
  have hchoice : Keeps (do
      description
      let key ← name
      let _ ← directives
      pure key) :=
    keeps_description.bind fun _ _ => gives_name.bind fun _ _ =>
      keeps_directives.bind fun _ _ => gives_pure trivial
  exact (gives_bracketed _ _ hchoice).keeps

/-! ## Definitions -/

theorem gives_declaration (kind : TypeKind) :
    (declaration kind).Gives (fun declared => declared.1.Written) := by
  unfold declaration
  refine gives_name.bind ?_
  intro key hkey
  cases kind with
  | scalar =>
    exact keeps_directives.bind fun _ _ => gives_pure ⟨hkey, List.forall_mem_nil _⟩
  | object =>
    exact keeps_interfaces.bind fun _ _ => keeps_directives.bind fun _ _ =>
      keeps_fields.bind fun _ _ => gives_pure ⟨hkey, fun _ _ => rfl⟩
  | interface =>
    exact keeps_interfaces.bind fun _ _ => keeps_directives.bind fun _ _ =>
      keeps_fields.bind fun _ _ => gives_pure ⟨hkey, fun _ _ => rfl⟩
  | union =>
    exact keeps_directives.bind fun _ _ => keeps_members.bind fun _ _ =>
      gives_pure ⟨hkey, List.forall_mem_nil _⟩
  | enum =>
    exact keeps_directives.bind fun _ _ => keeps_enumValues.bind fun _ _ =>
      gives_pure ⟨hkey, List.forall_mem_nil _⟩
  | inputObject =>
    exact keeps_directives.bind fun _ _ => gives_inputFields.bind fun fields hfields =>
      gives_pure ⟨hkey, fun field hfield => List.isEmpty_iff.2 (hfields field hfield)⟩

theorem keeps_kindKeyword : kindKeyword.Keeps := keeps_take _

variable {good : SchemaItem → Prop}

theorem gives_roots (h : ∀ names, good (.roots names)) : roots.Gives good := by
  have hentry : Keeps (do
      let key ← name
      punctuator ':'
      let type ← name
      pure (key, type)) :=
    gives_name.bind fun _ _ => (keeps_expect _).bind fun _ _ => gives_name.bind fun _ _ =>
      gives_pure trivial
  unfold roots
  refine keeps_place.bind fun start _ => (keeps_expect _).bind fun _ _ =>
    keeps_directives.bind fun _ _ => (keeps_expect _).bind fun _ _ =>
      (gives_manyClosedBy _ hentry).bind fun entries _ => ?_
  split
  · exact gives_pure (h _)
  · exact gives_failAt start

theorem gives_extension
    (h : ∀ kind, (declaration kind).Gives (fun declared => good (.extension declared.1))) :
    extension.Gives good := by
  unfold extension
  refine (keeps_expect _).bind fun _ _ => keeps_place.bind fun start _ =>
    keeps_kindKeyword.bind fun kind _ => (h kind).bind ?_
  rintro ⟨declared, adds⟩ hgood
  dsimp only
  split
  · exact gives_pure hgood
  · exact gives_failAt start

theorem keeps_placesBehindOn : placesBehindOn.Keeps := by
  have hplaces : (separatedBy '|' directiveLocation).Keeps :=
    (gives_separatedBy _ (keeps_take _)).keeps
  unfold placesBehindOn
  refine (keeps_accept _).bind ?_
  intro bar _
  split
  · exact hplaces
  · refine gives_peek.bind ?_
    intro next _
    split
    · exact hplaces
    · exact gives_pure trivial

theorem gives_directiveDefinition (h : ∀ key, good (.directive key)) :
    directiveDefinition.Gives good := by
  unfold directiveDefinition
  exact (keeps_expect _).bind fun _ _ => (keeps_expect _).bind fun _ _ =>
    gives_name.bind fun _ _ => keeps_argumentTypes.bind fun _ _ =>
      (keeps_accept _).bind fun _ _ => (keeps_expect _).bind fun _ _ =>
        keeps_placesBehindOn.bind fun _ _ => gives_pure (h _)

/-- The items of a document are good if those around type declarations are. -/
theorem gives_item (hroots : ∀ names, good (.roots names))
    (hdirective : ∀ key, good (.directive key))
    (htype : ∀ kind, (declaration kind).Gives
      (fun declared => good (.type declared.1) ∧ good (.extension declared.1))) :
    item.Gives good := by
  unfold item
  refine (keeps_nextIs _).bind ?_
  intro schema _
  split
  · exact gives_roots hroots
  refine (keeps_nextIs _).bind ?_
  intro extend _
  split
  · exact gives_extension fun kind => (htype kind).imp fun _ hgood => hgood.2
  refine keeps_description.bind fun _ _ => (keeps_nextIs _).bind ?_
  intro directive _
  split
  · exact gives_directiveDefinition hdirective
  refine keeps_kindKeyword.bind fun kind _ => (htype kind).bind ?_
  rintro ⟨declared, adds⟩ hgood
  exact gives_pure hgood.1

theorem forall_mem_of_parse (hitem : item.Gives good) {text : String} {parsed : SchemaDocument}
    (h : parse text = .ok parsed) : ∀ item ∈ parsed, good item := by
  have hdocument : document.Gives (fun items => ∀ item ∈ items, good item) :=
    hitem.bind fun _ hfirst => (gives_many keeps_atEnd hitem).bind fun _ hothers =>
      gives_pure (List.forall_mem_cons.2 ⟨hfirst, hothers⟩)
  unfold parse Reader.run at h
  obtain ⟨⟨items, rest⟩, hrun, rfl⟩ := map_eq_ok.1 h
  exact (hdocument _ _ _ (areNamed_tokensOf text) hrun).1

/-- Every type that a text defines or extends is one that can be written. -/
theorem written_of_parse {text : String} {parsed : SchemaDocument} (h : parse text = .ok parsed) :
    ∀ item ∈ parsed, SchemaItem.Written item := by
  refine forall_mem_of_parse (gives_item (fun _ => trivial) (fun _ => trivial) ?_) h
  intro kind
  exact (gives_declaration kind).imp fun _ hwritten => ⟨hwritten, hwritten⟩

end SchemaDocument

end OperationModels.Graphql
