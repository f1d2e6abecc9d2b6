-- The command line. There are two commands, each with its flags, and the
-- usual ways to ask for help and for the version. A flag that takes a value
-- has it behind an equals sign, right behind its letter, or in the next
-- argument, which must not look like a flag.
import OperationModels.Config.Basic

namespace OperationModels.Command

open Files

/-- What a command line asks for. One without a command asks for nothing. -/
inductive Request
  | nothing
  | help
  | version
  | generate (flags : InputFlags) (outDir : Option Path)
  | check (flags : InputFlags) (denyWarnings : Bool)
deriving DecidableEq, Repr

/-- Why reading a command line stops early: a wish that is answered at once,
or a mistake. -/
inductive Halt
  | asked (request : Request)
  | mistake
deriving DecidableEq, Repr

/-! ## Flags -/

inductive Flag
  | schema
  | schemaDir
  | config
  | variableSource
  | operationName
  | outDir
  | denyWarnings
  | help
deriving DecidableEq, Repr

inductive Verb
  | generate
  | check
deriving DecidableEq, Repr

def Verb.longFlag? (verb : Verb) (name : String) : Option Flag :=
  match name, verb with
  | "schema", _ => some .schema
  | "schema-dir", _ => some .schemaDir
  | "config", _ => some .config
  | "variables", _ => some .variableSource
  | "operation-name", _ => some .operationName
  | "help", _ => some .help
  | "out-dir", .generate => some .outDir
  | "deny-warnings", .check => some .denyWarnings
  | _, _ => none

def Verb.shortFlag? (verb : Verb) (letter : Char) : Option Flag :=
  match letter, verb with
  | 's', _ => some .schema
  | 'h', _ => some .help
  | 'o', .generate => some .outDir
  | _, _ => none

def Flag.takesValue : Flag → Bool
  | .denyWarnings | .help => false
  | _ => true

/-- The flags read so far. -/
structure Draft where
  flags : InputFlags
  outDir : Option Path
  denyWarnings : Bool
deriving DecidableEq, Repr

def Draft.start : Draft := ⟨⟨[], none, [], none, none, none⟩, none, false⟩

/-- A path given on the command line, which must not be empty. -/
def path (text : String) : Except Halt Path :=
  if text = "" then .error .mistake else .ok ⟨text⟩

/-- A value for a flag that takes one value at most. -/
def once {α : Type} (known : Option α) (value : α) : Except Halt (Option α) :=
  if known.isSome then .error .mistake else .ok (some value)

/-- Give a flag a value. -/
def Draft.give (draft : Draft) (flag : Flag) (value : String) : Except Halt Draft := do
  let flags := draft.flags
  match flag with
  | .schema => pure { draft with flags := { flags with schema := ← once flags.schema value } }
  | .schemaDir =>
    pure { draft with flags := { flags with schemaDirs := flags.schemaDirs ++ [← path value] } }
  | .config =>
    pure { draft with flags := { flags with config := ← once flags.config (← path value) } }
  | .variableSource =>
    match VariableSource.parse? value with
    | none => throw .mistake
    | some source =>
      pure { draft with
        flags := { flags with variableSource := ← once flags.variableSource source } }
  | .operationName =>
    pure { draft with
      flags := { flags with operationName := ← once flags.operationName value } }
  | .outDir => pure { draft with outDir := ← once draft.outDir (← path value) }
  | .denyWarnings | .help => throw .mistake

/-- Raise a flag without a value. -/
def Draft.raise (draft : Draft) (flag : Flag) : Except Halt Draft :=
  match flag with
  | .help => .error (.asked .help)
  | .denyWarnings =>
    if draft.denyWarnings then .error .mistake else .ok { draft with denyWarnings := true }
  | _ => .error .mistake

/-- One more operation document or folder. -/
def Draft.addOperation (draft : Draft) (text : String) : Except Halt Draft := do
  let operation ← path text
  pure { draft with
    flags := { draft.flags with operations := draft.flags.operations ++ [operation] } }

/-! ## Reading -/

/-- Does the argument look like a flag? A hyphen alone does not. -/
def looksLikeFlag (argument : String) : Bool :=
  match argument.toList with
  | '-' :: _ :: _ => true
  | _ => false

/-- Give a flag its value: the one attached to it, or the next argument. -/
def takeValue (draft : Draft) (flag : Flag) (attached : Option String) (rest : List String) :
    Except Halt (Draft × List String) :=
  match attached, rest with
  | some value, _ => do pure (← draft.give flag value, rest)
  | none, next :: after =>
    if looksLikeFlag next then .error .mistake else do pure (← draft.give flag next, after)
  | none, [] => .error .mistake

/-- A long flag, its name and the value attached to it. -/
def readLong (verb : Verb) (draft : Draft) (text : List Char) (rest : List String) :
    Except Halt (Draft × List String) :=
  let name := String.ofList (text.takeWhile (· ≠ '='))
  let attached := match text.dropWhile (· ≠ '=') with
    | _ :: value => some (String.ofList value)
    | [] => none
  match verb.longFlag? name with
  | none => .error .mistake
  | some flag =>
    if flag.takesValue then takeValue draft flag attached rest
    else if attached.isSome then .error .mistake
    else do pure (← draft.raise flag, rest)

/-- A cluster of letters, each a flag; the first that takes a value takes
what follows it in the cluster. -/
def readShort (verb : Verb) (draft : Draft) : List Char → List String →
    Except Halt (Draft × List String)
  | [], rest => .ok (draft, rest)
  | letter :: letters, rest =>
    match verb.shortFlag? letter with
    | none => .error .mistake
    | some flag =>
      if flag.takesValue then
        let attached := match letters with
          | [] => none
          | '=' :: value => some (String.ofList value)
          | value => some (String.ofList value)
        takeValue draft flag attached rest
      else do readShort verb (← draft.raise flag) letters rest

/-- The arguments of a command. Behind two hyphens all are operations. -/
def readArguments (verb : Verb) : Nat → Draft → List String → Except Halt Draft
  | 0, draft, _ => .ok draft
  | _, draft, [] => .ok draft
  | bound + 1, draft, argument :: rest =>
    match argument.toList with
    | ['-', '-'] => rest.foldlM Draft.addOperation draft
    | '-' :: '-' :: text => do
      let (draft, rest) ← readLong verb draft text rest
      readArguments verb bound draft rest
    | '-' :: letter :: letters => do
      let (draft, rest) ← readShort verb draft (letter :: letters) rest
      readArguments verb bound draft rest
    | _ => do readArguments verb bound (← draft.addOperation argument) rest

/-- What the arguments of a command ask for. -/
def readCommand (verb : Verb) (arguments : List String) : Except Halt Request := do
  let draft ← readArguments verb arguments.length .start arguments
  match verb with
  | .generate => pure (.generate draft.flags draft.outDir)
  | .check => pure (.check draft.flags draft.denyWarnings)

/-- Letters before any command: help or version, whichever comes first. -/
def readTopLetters : List Char → Except Halt Request
  | 'h' :: _ => .ok .help
  | 'V' :: _ => .ok .version
  | _ => .error .mistake

/-- What is asked for behind the word `help`: one of the commands, or help
itself. -/
def readHelp : List String → Except Halt Request
  | [] | ["generate"] | ["check"] | ["help"] => .ok .help
  | _ => .error .mistake

/-- What the whole command line asks for. -/
def readTop : List String → Except Halt Request
  | [] | ["--"] => .ok .nothing
  | "generate" :: rest => readCommand .generate rest
  | "check" :: rest => readCommand .check rest
  | "help" :: rest => readHelp rest
  | "--help" :: _ => .ok .help
  | "--version" :: _ => .ok .version
  | argument :: _ =>
    match argument.toList with
    | '-' :: letters => readTopLetters letters
    | _ => .error .mistake

/-- The request of a command line; a command line with a mistake has none. -/
def Request.parse? (arguments : List String) : Option Request :=
  match readTop arguments with
  | .ok request => some request
  | .error (.asked request) => some request
  | .error .mistake => none

end OperationModels.Command
