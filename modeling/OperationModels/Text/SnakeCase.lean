-- Snake case: a name cut into words at every sign that is no letter or digit
-- and at every change of case, its words in lower case and joined by one
-- underscore each.
import OperationModels.Text.Letters
import OperationModels.Text.Pieces

namespace OperationModels.Text

/-- The case that the letters of a word had so far; digits leave it as it is. -/
inductive WordCase
  | unknown
  | lower
  | upper
deriving DecidableEq, Repr

/-- The case after one more character. -/
def WordCase.after (known : WordCase) (c : Char) : WordCase :=
  if isLower c then .lower else if isUpper c then .upper else known

/-- Cut one run of letters and digits into words. A word ends between a
lower and an upper case letter, and before the last of several upper case
letters that a lower case one follows. `word` is the open word, reversed. -/
def wordsOfRun : WordCase → List Char → List Char → List (List Char)
  | _, [], [] => []
  | _, word, [] => [word.reverse]
  | _, word, [c] => [(c :: word).reverse]
  | known, word, c :: next :: rest =>
    if known.after c = .lower && isUpper next then
      (c :: word).reverse :: wordsOfRun .unknown [] (next :: rest)
    else if known = .upper && isUpper c && isLower next then
      word.reverse :: wordsOfRun .unknown [c] (next :: rest)
    else
      wordsOfRun (known.after c) (c :: word) (next :: rest)

def wordsOf (name : List Char) : List (List Char) :=
  (pieces isAlphanumeric name).flatMap (wordsOfRun .unknown [])

/-- A word in lower case. A capital sigma that ends the word has a form of
its own. -/
def lowerWord : List Char → List Char
  | [] => []
  | ['Σ'] => ['ς']
  | c :: rest => toLower c ++ lowerWord rest

def snakeCase (name : String) : String :=
  String.ofList (['_'].intercalate ((wordsOf name.toList).map lowerWord))

end OperationModels.Text
