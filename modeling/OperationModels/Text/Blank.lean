-- White space: the 25 code points with that property, and texts trimmed of it.
namespace OperationModels.Text

/-- The code points that are white space. -/
def isBlank (c : Char) : Bool :=
  let n := c.toNat
  (0x9 ≤ n && n ≤ 0xd) || n == 0x20 || n == 0x85 || n == 0xa0 || n == 0x1680 ||
    (0x2000 ≤ n && n ≤ 0x200a) || n == 0x2028 || n == 0x2029 || n == 0x202f ||
    n == 0x205f || n == 0x3000

/-- Drop what `drop` names from the end. -/
def dropEnd (drop : Char → Bool) (text : List Char) : List Char :=
  (text.reverse.dropWhile drop).reverse

/-- A text without the white space at its two ends. -/
def trim (text : String) : String :=
  String.ofList (dropEnd isBlank (text.toList.dropWhile isBlank))

/-- Is there nothing but white space? -/
def isAllBlank (text : String) : Bool := text.toList.all isBlank

/-! ## Laws -/

/-- Dropping from the front ends where the text begins with what is kept. -/
theorem dropWhile_append {drop : Char → Bool} {front text : List Char}
    (hfront : ∀ c ∈ front, drop c = true) (hfirst : ∀ c ∈ text.head?, drop c = false) :
    (front ++ text).dropWhile drop = text := by
  rw [List.dropWhile_append_of_pos hfront]
  cases text with
  | nil => rfl
  | cons c rest => simp [hfirst c rfl]

/-- Dropping from the end ends where the text ends with what is kept. -/
theorem dropEnd_append {drop : Char → Bool} {text behind : List Char}
    (hbehind : ∀ c ∈ behind, drop c = true) (hlast : ∀ c ∈ text.getLast?, drop c = false) :
    dropEnd drop (text ++ behind) = text := by
  unfold dropEnd
  rw [List.reverse_append, dropWhile_append, List.reverse_reverse]
  · intro c hc
    exact hbehind c (List.mem_reverse.1 hc)
  · rw [List.head?_reverse]
    exact hlast

/-- Trimming takes the blanks around a text away. -/
theorem trim_append {before text behind : String} (hbefore : isAllBlank before = true)
    (hbehind : isAllBlank behind = true) (hne : text ≠ "")
    (hfirst : ∀ c ∈ text.toList.head?, isBlank c = false)
    (hlast : ∀ c ∈ text.toList.getLast?, isBlank c = false) :
    trim (before ++ text ++ behind) = text := by
  have hhead : (text.toList ++ behind.toList).head? = text.toList.head? := by
    cases htext : text.toList with
    | nil => exact absurd (String.toList_eq_nil_iff.1 htext) hne
    | cons c rest => rfl
  unfold trim
  rw [String.toList_append, String.toList_append, List.append_assoc,
    dropWhile_append (List.all_eq_true.1 hbefore) (hhead ▸ hfirst),
    dropEnd_append (List.all_eq_true.1 hbehind) hlast, String.ofList_toList]

end OperationModels.Text
