-- Reading tokens: a reader takes tokens from the front and gives a value, or
-- fails at the place of the first token that cannot continue.
import OperationModels.Graphql.Token

namespace OperationModels.Graphql

/-- A reader of tokens; a failure is the place where reading cannot go on. -/
abbrev Reader (α : Type) := StateT Tokens (Except Position) α

namespace Reader

variable {α : Type}

def fail : Reader α := fun tokens => .error tokens.place

/-- Fail at a place already read. -/
def failAt (place : Position) : Reader α := fun _ => .error place

/-- The place of the next token. -/
def place : Reader Position := fun tokens => .ok (tokens.place, tokens)

/-- The next token, left where it is; none where the tokens stop. What is
optional is then absent, also where text without a token follows. -/
def peek : Reader (Option Token) := fun tokens =>
  .ok (tokens.rest.head?.map Prod.snd, tokens)

def atEnd : Reader Bool := fun tokens =>
  match tokens.rest, tokens.stop with
  | [], .endOfText _ => .ok (true, tokens)
  | _, _ => .ok (false, tokens)

/-- Take the next token if `choose` has a value for it. -/
def take? (choose : Token → Option α) : Reader (Option α) := do
  match (← peek).bind choose with
  | none => pure none
  | some value =>
    modify (fun tokens => { tokens with rest := tokens.rest.tail })
    pure (some value)

/-- Take the next token, for which `choose` must have a value. -/
def take (choose : Token → Option α) : Reader α := do
  match ← take? choose with
  | some value => pure value
  | none => fail

def name : Reader String :=
  take (fun token => match token with | .name text => some text | _ => none)

def name? : Reader (Option String) :=
  take? (fun token => match token with | .name text => some text | _ => none)

def expect (wanted : Token) : Reader Unit :=
  take (fun token => if token = wanted then some () else none)

/-- Take the token if it comes next, and tell whether it did. -/
def accept (wanted : Token) : Reader Bool := do
  let found ← take? (fun token => if token = wanted then some () else none)
  pure found.isSome

def nextIs (wanted : Token) : Reader Bool := do
  let next ← peek
  pure (next == some wanted)

def punctuator (c : Char) : Reader Unit := expect (.punctuator c)

/-- A keyword, which is a name with that text. -/
def keyword (text : String) : Reader Unit := expect (.name text)

/-- Read until `done` holds, at most `bound` times. -/
def untilDone (done : Reader Bool) (item : Reader α) : Nat → Reader (List α)
  | 0 => fail
  | bound + 1 => do
    if ← done then pure []
    else
      let first ← item
      let others ← untilDone done item bound
      pure (first :: others)

/-- Read items until `done` holds. Every item takes a token, which bounds
their number. -/
def many (done : Reader Bool) (item : Reader α) : Reader (List α) := do
  let tokens ← get
  untilDone done item (tokens.rest.length + 1)

/-- Items up to a closing punctuator, which is taken. -/
def manyClosedBy (close : Char) (item : Reader α) : Reader (List α) :=
  many (accept (.punctuator close)) item

/-- One item or more up to a closing punctuator, which is taken. -/
def someClosedBy (close : Char) (item : Reader α) : Reader (List α) := do
  let first ← item
  let others ← manyClosedBy close item
  pure (first :: others)

/-- A bracketed list of one item or more; no items if no bracket opens. -/
def bracketed (opening close : Char) (item : Reader α) : Reader (List α) := do
  if ← accept (.punctuator opening) then someClosedBy close item else pure []

/-- One item or more with a punctuator between any two. -/
def separatedBy (separator : Char) (item : Reader α) : Reader (List α) := do
  let first ← item
  let others ← many (do pure !(← nextIs (.punctuator separator)))
    (do punctuator separator; item)
  pure (first :: others)

/-- Read a whole text: all its tokens, from the first to the end. -/
def run (reader : Reader α) (text : String) : Except Position α :=
  (reader (tokensOf text)).map Prod.fst

end Reader

end OperationModels.Graphql
