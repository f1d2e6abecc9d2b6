-- From the names of schema types to the names that models use. The built-in
-- scalars have names of their own, a schema may rename any type, and every
-- other type keeps its name with the first letter in upper case.
import OperationModels.OrderedMap
import OperationModels.Text.Letters

namespace OperationModels

/-- The types that have a name of their own in models. -/
structure NameMapping where
  entries : OrderedMap String String
deriving DecidableEq

namespace NameMapping

/-- The names of the built-in scalars. -/
def standard : NameMapping :=
  ⟨.ofList [("ID", "String"), ("String", "String"), ("Int", "i32"), ("Float", "f64"),
    ("Boolean", "bool")]⟩

/-- The mapping with more entries; a later entry wins. -/
def extend (mapping : NameMapping) (overrides : List (String × String)) : NameMapping :=
  ⟨mapping.entries.insertAll overrides⟩

/-- The built-in names with entries on top. -/
def withOverrides (overrides : List (String × String)) : NameMapping := standard.extend overrides

/-- The name of a type in models. -/
def map (mapping : NameMapping) (name : String) : String :=
  (mapping.entries.get? name).getD (Text.capitalizeFirst name)

end NameMapping

end OperationModels
