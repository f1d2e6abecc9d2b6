-- Raw string literals: a text between two fences of a quote and some hashes,
-- with nothing escaped. The fence is one hash longer than any run of hashes
-- that follows a quote in the text, so the text cannot close it.
namespace OperationModels.Text.RawQuoted

/-- How many hashes stand at the front. -/
def leadingHashes (text : List Char) : Nat := (text.takeWhile (· = '#')).length

/-- The hashes a fence needs so that the text does not close it. -/
def fence : List Char → Nat
  | [] => 1
  | c :: rest => if c = '"' then max (leadingHashes rest + 1) (fence rest) else fence rest

/-- The literal of a text. -/
def encode (text : List Char) : List Char :=
  let hashes := List.replicate (fence text) '#'
  'r' :: hashes ++ '"' :: text ++ '"' :: hashes

def literal (text : String) : String := String.ofList (encode text.toList)

/-- The text up to the first quote that `hashes` hashes follow, and what
comes after that fence. -/
def scanBody (hashes : Nat) : List Char → Option (List Char × List Char)
  | [] => none
  | c :: rest =>
    if c = '"' && hashes ≤ leadingHashes rest then some ([], rest.drop hashes)
    else (scanBody hashes rest).map (fun (text, after) => (c :: text, after))

/-- Read a raw literal: `r`, some hashes, a quote, and the text up to the
first quote with as many hashes. -/
def scan : List Char → Option (List Char × List Char)
  | 'r' :: rest =>
    match rest.drop (leadingHashes rest) with
    | '"' :: body => scanBody (leadingHashes rest) body
    | _ => none
  | _ => none

end OperationModels.Text.RawQuoted
