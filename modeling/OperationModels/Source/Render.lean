-- The text of a generated source module. Every part is rendered by itself
-- and ends its last line; a blank line stands between the parts of a module.
import OperationModels.Source.Basic
import OperationModels.Text.Quoted
import OperationModels.Text.RawQuoted

namespace OperationModels

/-- The text of a type: a name, or one of the two standard wrappers. -/
def Model.FieldType.render : Model.FieldType → String
  | .named name => name
  | .optional inner => "Option<" ++ inner.render ++ ">"
  | .list item => "Vec<" ++ item.render ++ ">"

namespace Source

def SerdeArgument.render : SerdeArgument → String
  | .rename wireName => "rename = \"" ++ Text.Quoted.escape wireName ++ "\""
  | .default => "default"
  | .skipNone => "skip_serializing_if = \"Option::is_none\""

/-- The text of a field, its attribute on a line before it. -/
def StructField.render (field : StructField) : String :=
  let serde := if field.serde.isEmpty then "" else
    "    #[serde(" ++ ", ".intercalate (field.serde.map SerdeArgument.render) ++ ")]\n"
  serde ++ "    pub " ++ field.ident ++ ": " ++ field.type.render ++ ",\n"

/-- The line of a comment for readers of the file. -/
def renderDoc (doc : Option String) : String :=
  match doc with
  | some line => "/// " ++ line ++ "\n"
  | none => ""

def Struct.render (struct : Struct) : String :=
  let derives := if struct.derives.isEmpty then "" else
    "#[derive(" ++ ", ".intercalate struct.derives ++ ")]\n"
  let head := renderDoc struct.doc ++ derives ++ "pub struct " ++ struct.name
  if struct.fields.isEmpty then head ++ " \x7b\x7d\n"
  else head ++ " \x7b\n" ++ String.join (struct.fields.map StructField.render) ++ "\x7d\n"

def Constant.render (constant : Constant) : String :=
  renderDoc constant.doc ++ "pub const " ++ constant.name ++ ": &str = " ++
    Text.RawQuoted.literal constant.value ++ ";\n"

def MethodBlock.render (block : MethodBlock) : String :=
  let lines := match block.kind with
    | .decode =>
      ["    /// Decode the `data` member of a response.",
        "    pub fn decode(data: serde_json::Value) -> serde_json::Result<Self> \x7b",
        "        serde_json::from_value(data)"]
    | .encode operation =>
      ["    /// Encode a request payload for `OPERATION` with these variables.",
        "    pub fn encode(&self) -> serde_json::Result<serde_json::Value> \x7b",
        "        Ok(serde_json::json!(\x7b",
        "            \"query\": OPERATION,"] ++
      (operation.toList.map (fun name =>
        "            \"operationName\": \"" ++ Text.Quoted.escape name ++ "\",")) ++
      ["            \"variables\": serde_json::to_value(self)?,",
        "        \x7d))"]
  String.join ((["impl " ++ block.target ++ " \x7b"] ++ lines ++ ["    \x7d", "\x7d"]).map
    (fun line => line ++ "\n"))

/-- The parts of a module that have a text, in order. -/
def Module.sections (file : Module) : List String :=
  (if file.header.isEmpty then [] else
    [String.join (file.header.map (fun line => "// " ++ line ++ "\n"))]) ++
  (if file.imports.isEmpty then [] else
    [String.join (file.imports.map (fun line => line ++ "\n"))]) ++
  file.constants.map Constant.render ++
  file.structs.map Struct.render ++
  file.methods.map MethodBlock.render

def Module.render (file : Module) : String := "\n".intercalate file.sections

end Source

end OperationModels
