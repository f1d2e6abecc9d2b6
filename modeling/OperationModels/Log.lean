-- The log of a run: events with a level and a source, and the lines that
-- show them. A message is told in words; what could steer a terminal is
-- spelled out in it.
import OperationModels.Text.Shown

namespace OperationModels.Log

/-! ## Events -/

/-- How much an event matters, the gravest first. -/
inductive Level
  | error
  | warn
  | info
  | debug
  | trace
deriving DecidableEq, Repr

/-- The place of a level; the gravest comes first. -/
def Level.rank : Level → Nat
  | .error => 1
  | .warn => 2
  | .info => 3
  | .debug => 4
  | .trace => 5

def Level.label : Level → String
  | .error => "ERROR"
  | .warn => "WARN"
  | .info => "INFO"
  | .debug => "DEBUG"
  | .trace => "TRACE"

/-- One event. `fields` are names with values as they are shown. -/
structure Event where
  level : Level
  source : String
  message : String
  fields : List (String × String)
deriving DecidableEq, Repr

/-! ## Lines -/

/-- One character of a message on a line: the escape, the bell, the backspace,
the form feed, the delete and the upper controls are spelled out. -/
def plainChar (c : Char) : String :=
  match c with
  | '\x1b' => "\\x1b"
  | '\x07' => "\\x07"
  | '\x08' => "\\x08"
  | '\x0c' => "\\x0c"
  | '\x7f' => "\\x7f"
  | _ =>
    if 0x80 ≤ c.toNat && c.toNat ≤ 0x9f then Text.codePointEscape c else String.singleton c

/-- A message as a line shows it. -/
def plain (message : String) : String := String.join (message.toList.map plainChar)

/-- The event as a line. -/
def Event.line (event : Event) : String :=
  event.level.label ++ " " ++ event.source ++ ": " ++ plain event.message ++
    String.join (event.fields.map (fun field => " " ++ field.1 ++ "=" ++ field.2))

end OperationModels.Log
