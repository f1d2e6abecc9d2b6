-- Letters, digits and case over all of Unicode. ASCII is decided by its own
-- short rules and the rest by the tables, so a statement about ASCII names
-- never looks into a table.
import OperationModels.Text.CaseRuns
import OperationModels.Text.LetterRuns

namespace OperationModels.Text

/-- Is the code point in one of the runs? -/
def inRuns (runs : Array (Nat × Nat)) (n : Nat) : Bool :=
  runs.any (fun run => run.1 ≤ n && n ≤ run.2)

/-- Is the code point in one of the runs, at its distance? -/
def inSteppedRuns (runs : Array (Nat × Nat × Nat)) (n : Nat) : Bool :=
  runs.any (fun run => run.1 ≤ n && n ≤ run.2.1 && (n - run.1) % run.2.2 == 0)

/-- ASCII is the first 128 code points. -/
def isAscii (c : Char) : Bool := c.toNat < 128

/-- What holds of the first 128 code points holds of each ASCII character. -/
theorem of_isAscii {p : Char → Prop} (h : ∀ n < 128, p (Char.ofNat n)) {c : Char}
    (hc : isAscii c = true) : p c := by
  have hcode := h c.toNat (by simpa [isAscii] using hc)
  rwa [Char.ofNat_toNat] at hcode

def isAlphanumeric (c : Char) : Bool :=
  if isAscii c then c.isAlphanum else inRuns letterRuns c.toNat

def isUpper (c : Char) : Bool :=
  if isAscii c then c.isUpper else inSteppedRuns upperRuns c.toNat

def isLower (c : Char) : Bool :=
  if isAscii c then c.isLower else inSteppedRuns lowerRuns c.toNat

/-- The other case of a code point, read off the tables; a code point that
stands in neither is its own. -/
def otherCase (several : Array (Nat × List Nat)) (runs : Array (Nat × Nat × Nat × Int))
    (c : Char) : List Char :=
  match several.find? (fun entry => entry.1 == c.toNat) with
  | some entry => entry.2.map Char.ofNat
  | none =>
    match runs.find? (fun run => run.1 ≤ c.toNat && c.toNat ≤ run.2.1 &&
        (c.toNat - run.1) % run.2.2.1 == 0) with
    | some run => [Char.ofNat ((c.toNat : Int) + run.2.2.2).toNat]
    | none => [c]

/-- The upper case of a letter, which may be several letters. -/
def toUpper (c : Char) : List Char :=
  if isAscii c then [c.toUpper] else otherCase toUpperSeveral toUpperRuns c

/-- The lower case of a letter, which may be several letters. -/
def toLower (c : Char) : List Char :=
  if isAscii c then [c.toLower] else otherCase toLowerSeveral toLowerRuns c

/-- A text with its first letter in upper case. -/
def capitalizeFirst (text : String) : String :=
  match text.toList with
  | [] => ""
  | first :: rest => String.ofList (toUpper first ++ rest)

end OperationModels.Text
