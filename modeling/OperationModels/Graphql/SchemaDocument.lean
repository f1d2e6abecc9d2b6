-- Schema documents: the definitions of a schema text, as far as models need
-- them. Members of unions, values of enums, descriptions and directives are
-- read and left out.
import OperationModels.Graphql.Terms
import OperationModels.Schema.Basic

namespace OperationModels.Graphql

/-- A field as declared, with the types of its arguments. -/
structure FieldDeclaration where
  name : String
  arguments : List (String × TypeRef)
  type : TypeRef
deriving DecidableEq, Repr

/-- A type as declared, or what an extension adds to it. -/
structure TypeDeclaration where
  name : String
  kind : TypeKind
  fields : List FieldDeclaration
deriving DecidableEq, Repr

/-- One definition of a schema text. -/
inductive SchemaItem
  | roots (names : RootNames)
  | type (declaration : TypeDeclaration)
  | extension (declaration : TypeDeclaration)
  | directive (name : String)
deriving DecidableEq, Repr

/-- The definitions of a schema text, in order. -/
abbrev SchemaDocument := List SchemaItem

namespace SchemaDocument

open Reader

/-! ## Parts of definitions -/

/-- A description, if one comes next. -/
def description : Reader Unit := do
  let _ ← take? (fun token => match token with
    | .string inside => if escapesAreKnown inside then some () else none
    | .blockString => some ()
    | _ => none)

/-- An argument or a field of an input object. -/
def inputValue : Reader (String × TypeRef) := do
  description
  let key ← name
  punctuator ':'
  let type ← typeRef
  if ← accept (.punctuator '=') then
    let _ ← constant
  let _ ← directives
  pure (key, type)

/-- The arguments of a field or directive. -/
def argumentTypes : Reader (List (String × TypeRef)) := bracketed '(' ')' inputValue

/-- A field of an object or interface. -/
def field : Reader FieldDeclaration := do
  description
  let key ← name
  let taken ← argumentTypes
  punctuator ':'
  let type ← typeRef
  let _ ← directives
  pure ⟨key, taken, type⟩

/-- The fields of an object or interface, if there are any. -/
def fields : Reader (List FieldDeclaration) := bracketed '\x7b' '\x7d' field

/-- The fields of an input object, if there are any. -/
def inputFields : Reader (List FieldDeclaration) := do
  let entries ← bracketed '\x7b' '\x7d' inputValue
  pure (entries.map (fun entry => ⟨entry.1, [], entry.2⟩))

/-- The interfaces of a type, if there are any. -/
def interfaces : Reader (List String) := do
  if ← accept (.name "implements") then
    let _ ← accept (.punctuator '&')
    separatedBy '&' name
  else pure []

/-- The members of a union, if there are any. -/
def members : Reader (List String) := do
  if ← accept (.punctuator '=') then
    let _ ← accept (.punctuator '|')
    separatedBy '|' name
  else pure []

/-- The values of an enum, if there are any. -/
def enumValues : Reader (List String) :=
  bracketed '\x7b' '\x7d' (do
    description
    let key ← name
    let _ ← directives
    pure key)

/-- The places that a directive may stand at. -/
def directiveLocations : List String :=
  ["QUERY", "MUTATION", "SUBSCRIPTION", "FIELD", "FRAGMENT_DEFINITION", "FRAGMENT_SPREAD",
    "INLINE_FRAGMENT", "VARIABLE_DEFINITION", "SCHEMA", "SCALAR", "OBJECT", "FIELD_DEFINITION",
    "ARGUMENT_DEFINITION", "INTERFACE", "UNION", "ENUM", "ENUM_VALUE", "INPUT_OBJECT",
    "INPUT_FIELD_DEFINITION"]

def directiveLocation : Reader String :=
  take (fun token => match token with
    | .name text => if directiveLocations.contains text then some text else none
    | _ => none)

/-! ## Definitions -/

/-- What a definition of a type says behind its keyword, and whether it has
anything that an extension may add. -/
def declaration (kind : TypeKind) : Reader (TypeDeclaration × Bool) := do
  let key ← name
  match kind with
  | .scalar =>
    let marks ← directives
    pure (⟨key, kind, []⟩, !marks.isEmpty)
  | .object =>
    let parents ← interfaces
    let marks ← directives
    let body ← fields
    pure (⟨key, kind, body⟩, !parents.isEmpty || !marks.isEmpty || !body.isEmpty)
  | .interface =>
    let _ ← interfaces
    let marks ← directives
    let body ← fields
    pure (⟨key, kind, body⟩, !marks.isEmpty || !body.isEmpty)
  | .union =>
    let marks ← directives
    let types ← members
    pure (⟨key, kind, []⟩, !marks.isEmpty || !types.isEmpty)
  | .enum =>
    let marks ← directives
    let choices ← enumValues
    pure (⟨key, kind, []⟩, !marks.isEmpty || !choices.isEmpty)
  | .inputObject =>
    let marks ← directives
    let body ← inputFields
    pure (⟨key, kind, body⟩, !marks.isEmpty || !body.isEmpty)

/-- The kinds of types by their keywords. -/
def kindOfKeyword? : String → Option TypeKind
  | "scalar" => some .scalar
  | "type" => some .object
  | "interface" => some .interface
  | "union" => some .union
  | "enum" => some .enum
  | "input" => some .inputObject
  | _ => none

/-- The keyword of a kind of type. -/
def kindKeyword : Reader TypeKind :=
  take (fun token => match token with
    | .name text => kindOfKeyword? text
    | _ => none)

/-- Put an entry of a `schema` body into the root names: each kind of
operation once, and no other name. -/
def putRoot (names : RootNames) (entry : String × String) : Option RootNames :=
  match entry with
  | ("query", type) => if names.query.isNone then some { names with query := type } else none
  | ("mutation", type) =>
    if names.mutation.isNone then some { names with mutation := type } else none
  | ("subscription", type) =>
    if names.subscription.isNone then some { names with subscription := type } else none
  | _ => none

/-- A `schema` definition. A body that says something else is refused as a
whole, at the keyword. -/
def roots : Reader SchemaItem := do
  let start ← place
  keyword "schema"
  let _ ← directives
  punctuator '\x7b'
  let entries ← manyClosedBy '\x7d' (do
    let key ← name
    punctuator ':'
    let type ← name
    pure (key, type))
  match entries.foldlM putRoot ⟨none, none, none⟩ with
  | some names => pure (.roots names)
  | none => failAt start

/-- An extension. One that adds nothing is refused, at the keyword behind
`extend`. -/
def extension : Reader SchemaItem := do
  keyword "extend"
  let start ← place
  let kind ← kindKeyword
  let (declared, adds) ← declaration kind
  if adds then pure (.extension declared) else failAt start

/-- The places that a directive may stand at, behind `on`. They may be left
out, but a bar or any name begins them. -/
def placesBehindOn : Reader (List String) := do
  if ← accept (.punctuator '|') then separatedBy '|' directiveLocation
  else
    match ← peek with
    | some (.name _) => separatedBy '|' directiveLocation
    | _ => pure []

def directiveDefinition : Reader SchemaItem := do
  keyword "directive"
  punctuator '@'
  let key ← name
  let _ ← argumentTypes
  let _ ← accept (.name "repeatable")
  keyword "on"
  let _ ← placesBehindOn
  pure (.directive key)

def item : Reader SchemaItem := do
  if ← nextIs (.name "schema") then roots
  else if ← nextIs (.name "extend") then extension
  else
    description
    if ← nextIs (.name "directive") then directiveDefinition
    else
      let kind ← kindKeyword
      let (declared, _) ← declaration kind
      pure (.type declared)

/-- A schema text: one definition or more. -/
def document : Reader SchemaDocument := do
  let first ← item
  let others ← many atEnd item
  pure (first :: others)

/-- The definitions of a schema text, or the place where reading fails. -/
def parse (text : String) : Except Position SchemaDocument := document.run text

end SchemaDocument

end OperationModels.Graphql
