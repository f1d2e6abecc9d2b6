-- The texts that are shown to who asks for help, and to who gives a command
-- line that cannot be read.
namespace OperationModels.Command

/-- What the program does and how it is called. -/
def helpText : String :=
"Typed Rust models and serde bindings for GraphQL operations

Usage: gqlmodel generate [OPTIONS] [OPERATIONS]...
       gqlmodel check [OPTIONS] [OPERATIONS]...

Commands:
  generate  Generate Rust modules for operation documents
  check     Resolve operation documents without writing anything
  help      Print this message

Arguments:
  [OPERATIONS]...  Operation documents, or directories searched for *.graphql

Options:
  -s, --schema <SCHEMA>      Schema name, without the .graphql extension
      --schema-dir <DIR>     Directory searched for the schema; may be repeated
      --config <PATH>        Config file. Defaults to ./gqlmodel.toml
      --variables <SOURCE>   Variable source: auto, declared or bindings
      --operation-name <NAME>
                             Operation to use from each document
  -o, --out-dir <DIR>        Where to write generated files (generate).
                             Defaults to next to each document
      --deny-warnings        Treat warnings as failures (check)
  -h, --help                 Print help
  -V, --version              Print version
"

/-- What is told of a command line that cannot be read. -/
def usageText : String :=
"error: the command line cannot be read

Usage: gqlmodel <generate|check> [OPTIONS] [OPERATIONS]...

For more information, try '--help'.
"

end OperationModels.Command
