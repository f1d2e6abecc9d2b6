-- The filter of a log: a text whose items tell which events are shown. An
-- item names a level, a source, or a source and its level; between brackets
-- it may ask for a span or for a field. No event lies in a span, so an item
-- that asks for one is read and has no effect.
import OperationModels.Log
import OperationModels.Log.Pattern
import OperationModels.Text.Blank
import OperationModels.Text.Digits
import OperationModels.Text.Pieces

namespace OperationModels.Log

/-! ## Rules -/

/-- One rule of a filter: the sources it is for, by how they start, the field
that an event must have, and the rank up to which such events are shown. -/
structure Rule where
  source : Option String
  field : Option String
  rank : Nat
deriving DecidableEq, Repr

/-- Has the event the field? Its message is one. -/
def Event.hasField (event : Event) (name : String) : Bool :=
  name = "message" || event.fields.any (fun field => field.1 = name)

def Rule.appliesTo (rule : Rule) (event : Event) : Bool :=
  rule.source.all (fun text => text.toList.isPrefixOf event.source.toList) &&
    rule.field.all event.hasField

/-- How much of a source the rule names. -/
def Rule.reach (rule : Rule) : Nat :=
  match rule.source with
  | none => 0
  | some text => text.length + 1

/-- Does a rule give way to a later one for the same event? The one that names
more of the source counts, then the one that names a field, then the one
whose field comes last in the order of texts, then the later one. -/
def Rule.givesWayTo (known rule : Rule) : Bool :=
  known.reach < rule.reach ||
    known.reach = rule.reach &&
      match known.field, rule.field with
      | none, _ => true
      | some _, none => false
      | some name, some other => name ≤ other

/-! ## Levels -/

/-- A text in lower case, for ASCII letters. -/
def lowered (text : String) : String := String.ofList (text.toList.map Char.toLower)

/-- The number of a text of digits, with or without a plus before them. -/
def numberOf? (text : String) : Option Nat :=
  let digits := match text.toList with
    | '+' :: rest => rest
    | chars => chars
  if !digits.isEmpty && digits.all Char.isDigit then some (Text.decimalValue digits) else none

/-- The rank that a word or number for a level gives; `off` shows nothing. -/
def rankOf? (word : String) : Option Nat :=
  match numberOf? word with
  | some n => if n ≤ Level.trace.rank then some n else none
  | none =>
    match lowered word with
    | "off" => some 0
    | "error" => some 1
    | "warn" => some 2
    | "info" => some 3
    | "debug" => some 4
    | "trace" => some 5
    | _ => none

/-! ## Items -/

/-- Why an item of a filter text is refused. -/
inductive ItemFault
  | shape
  | level
  | pattern
deriving DecidableEq, Repr

def ItemFault.message : ItemFault → String
  | .shape => "invalid filter directive"
  | .level => "error parsing level filter: expected one of \"off\", \"error\", \"warn\", " ++
      "\"info\", \"debug\", \"trace\", or a number 0-5"
  | .pattern => "invalid field filter: error building NFA"

/-- The bytes that characters take. -/
def byteCount (text : List Char) : Nat := (String.ofList text).utf8ByteSize

/-- The characters behind so many bytes. -/
def dropBytes : Nat → List Char → List Char
  | 0, text => text
  | _ + 1, [] => []
  | count + 1, c :: rest => dropBytes (count + 1 - c.utf8Size) rest

/-- The characters within so many bytes. -/
def takeBytes : Nat → List Char → List Char
  | 0, _ => []
  | _ + 1, [] => []
  | count + 1, c :: rest => c :: takeBytes (count + 1 - c.utf8Size) rest

/-- A place in an item, in bytes, and what is looked at from there on. The
parts of an item are looked for without the blanks around it, but are cut
out of the item as it is. -/
structure Spot where
  item : List Char
  place : Nat
  ahead : List Char

namespace Spot

/-- The front of an item. -/
def start (item : String) : Spot := ⟨item.toList, 0, (Text.trim item).toList⟩

/-- The first of some marks ahead, and the spot behind it. -/
def find? (isMark : Char → Bool) (spot : Spot) : Option (Char × Spot) :=
  let before := spot.ahead.takeWhile (fun c => !isMark c)
  match spot.ahead.dropWhile (fun c => !isMark c) with
  | [] => none
  | mark :: rest =>
    some (mark, { spot with place := spot.place + byteCount (before ++ [mark]), ahead := rest })

/-- What the item says from one spot up to the mark before another. -/
def upTo (spot behind : Spot) : String :=
  String.ofList (takeBytes (behind.place - 1 - spot.place) (dropBytes spot.place spot.item))

/-- What the item says from a spot on. -/
def onward (spot : Spot) : String := String.ofList (dropBytes spot.place spot.item)

end Spot

/-- The rank at the end of an item. No word shows all levels. -/
def readRank (spot : Spot) : Except ItemFault Nat :=
  if spot.onward = "" then .ok Level.trace.rank
  else
    match rankOf? spot.onward with
    | some rank => .ok rank
    | none => .error .level

/-- The rank behind a bracket that closes: none is written, or one behind an
equals sign. -/
def readBehindBracket (spot : Spot) : Except ItemFault Nat :=
  match spot.ahead with
  | [] => .ok Level.trace.rank
  | '=' :: rest => readRank { spot with place := spot.place + 1, ahead := rest }
  | _ => .error .shape

/-- The value that is asked of a field, if one is. -/
def valueOf? (field : String) : Option String := (Text.cutAt '=' field.toList)[1]?

/-- Go on behind the field of an item. A rule comes of a field without a
value, outside of spans. -/
def readBehindField (source : Option String) (inSpan : Bool) (field : String) (spot : Spot) :
    Except ItemFault (Option Rule) :=
  match spot.ahead with
  | ']' :: rest => do
    let rank ← readBehindBracket { spot with place := spot.place + 1, ahead := rest }
    pure (if inSpan || (valueOf? field).isSome then none else some ⟨source, some field, rank⟩)
  | _ => .error .shape

/-- Go on behind the bracket that opens. Up to a brace or to the bracket that
closes stands the name of a span; a field stands between braces. -/
def readBrackets (source : Option String) (spot : Spot) : Except ItemFault (Option Rule) :=
  match spot.find? (fun c => c = ']' || c = '\x7b') with
  | none => .error .shape
  | some (']', behind) => do
    let _ ← readBehindBracket behind
    pure none
  | some (_, inside) =>
    match inside.find? (· = '\x7d') with
    | none => .error .shape
    | some (_, behind) =>
      let field := inside.upTo behind
      if field = "" then .error .shape
      else if (valueOf? field).any (fun value => !Pattern.isMatchable value) then .error .pattern
      else readBehindField source (spot.upTo inside ≠ "") field behind

/-- May an item of a filter start with the character? -/
def startsItem (c : Char) : Bool := Text.isAlphanumeric c || ['-', ':', '_', '['].contains c

/-- The rule that an item of a filter writes, if one comes of it. -/
def readItem (item : String) : Except ItemFault (Option Rule) :=
  let start := Spot.start item
  if !start.ahead.head?.any startsItem then .error .shape
  else
    match start.find? (fun c => c = '=' || c = '[') with
    | none =>
      match rankOf? item with
      | some rank => .ok (some ⟨none, none, rank⟩)
      | none => .ok (some ⟨some item, none, Level.trace.rank⟩)
    | some ('=', behind) => do
      let rank ← readRank behind
      pure (some ⟨some (start.upTo behind), none, rank⟩)
    | some (_, behind) =>
      readBrackets (if start.ahead.head? = some '[' then none else some (start.upTo behind)) behind

/-! ## Filters -/

/-- Rules, and the items of the filter text that are refused. -/
structure Filter where
  rules : List Rule
  refused : List (String × ItemFault)
deriving DecidableEq, Repr

/-- The filter that a text writes, its items parted by commas. If it has no
item but refused ones, errors are shown. -/
def Filter.parse (text : String) : Filter :=
  let items := (Text.cutAt ',' text.toList).filter (fun item => item ≠ "")
  let taken := items.filterMap (fun item => (readItem item).toOption)
  { rules :=
      if taken.isEmpty then [⟨none, none, Level.error.rank⟩] else taken.filterMap id
    refused := items.filterMap (fun item => match readItem item with
      | .ok _ => none
      | .error fault => some (item, fault)) }

/-- What is told of the items that are refused. -/
def Filter.complaints (filter : Filter) : List String :=
  filter.refused.map (fun (item, fault) => "ignoring `" ++ item ++ "`: " ++ fault.message)

/-- Of the rules for an event, the one that counts. -/
def Filter.ruleFor? (filter : Filter) (event : Event) : Option Rule :=
  (filter.rules.filter (fun rule => rule.appliesTo event)).foldl
    (fun known rule => match known with
      | none => some rule
      | some best => if best.givesWayTo rule then some rule else some best) none

def Filter.shows (filter : Filter) (event : Event) : Bool :=
  match filter.ruleFor? event with
  | some rule => event.level.rank ≤ rule.rank
  | none => false

/-! ## Settings -/

/-- A word for a level of its own. -/
def isPlainLevel (text : String) : Bool :=
  ["trace", "debug", "info", "warn", "error"].contains (lowered text)

/-- The filter text for a setting: a level is for all sources of this
program, and without a setting warnings and the end of a run are shown. -/
def filterText (setting : Option String) : String :=
  match setting with
  | some text =>
    if isPlainLevel text then s!"gqlmodel_core={text},gqlmodel_cli={text}"
    else if Text.isAllBlank text then "gqlmodel_core=warn,gqlmodel_cli=info"
    else text
  | none => "gqlmodel_core=warn,gqlmodel_cli=info"

end OperationModels.Log
