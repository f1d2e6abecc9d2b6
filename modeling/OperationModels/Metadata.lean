-- The metadata of a schema: names of types in models, and imports and
-- derived traits for every generated file. It is written as a JSON object of
-- three keys, or as an array of the three values, of which any at the end may
-- be missing. Other keys are passed over; a key may not come twice.
import OperationModels.Json.Value
import OperationModels.OrderedMap

namespace OperationModels

structure Metadata where
  mappings : OrderedMap String String
  imports : List String
  derives : List String
deriving DecidableEq

namespace Metadata

def none : Metadata := ⟨.empty, [], []⟩

/-! ## Parts -/

def string? : Json.Value → Option String
  | .string text => text
  | _ => .none

def strings? : Json.Value → Option (List String)
  | .array items => items.mapM string?
  | _ => .none

/-- The names of types; of two entries for a type the later counts. -/
def mappings? : Json.Value → Option (OrderedMap String String)
  | .object entries => do
    let pairs ← entries.mapM (fun entry => do pure (← entry.1, ← string? entry.2))
    pure (.ofList pairs)
  | _ => .none

/-! ## Metadata -/

/-- The metadata as far as its keys are read. -/
structure Draft where
  mappings : Option (OrderedMap String String)
  imports : Option (List String)
  derives : Option (List String)

/-- Take one key into a draft. -/
def Draft.add (draft : Draft) (key : String) (value : Json.Value) : Option Draft :=
  match key, draft with
  | "mappings", ⟨.none, imports, derives⟩ =>
    (mappings? value).map (fun mappings => ⟨mappings, imports, derives⟩)
  | "imports", ⟨mappings, .none, derives⟩ =>
    (strings? value).map (fun imports => ⟨mappings, imports, derives⟩)
  | "derives", ⟨mappings, imports, .none⟩ =>
    (strings? value).map (fun derives => ⟨mappings, imports, derives⟩)
  | "mappings", _ | "imports", _ | "derives", _ => .none
  | _, _ => some draft

/-- The metadata of a draft; what it lacks is empty. -/
def Draft.finish (draft : Draft) : Metadata :=
  ⟨draft.mappings.getD .empty, draft.imports.getD [], draft.derives.getD []⟩

/-- The metadata that a value writes. -/
def ofJson? : Json.Value → Option Metadata
  | .object entries => do
    let draft ← entries.foldlM
      (fun (draft : Draft) entry => do draft.add (← entry.1) entry.2) ⟨.none, .none, .none⟩
    pure draft.finish
  | .array items =>
    if items.length ≤ 3 then do
      let draft ← (["mappings", "imports", "derives"].zip items).foldlM
        (fun (draft : Draft) entry => draft.add entry.1 entry.2) ⟨.none, .none, .none⟩
      pure draft.finish
    else .none
  | _ => .none

def parse? (text : String) : Option Metadata := (Json.parse? text).bind ofJson?

end Metadata

end OperationModels
