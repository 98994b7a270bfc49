/-
White space of Unicode text, texts without the blanks at their ends, and texts cut at separators.
-/
namespace Sql.Text

/-- A character of the Unicode property White_Space. -/
def isBlank (c : Char) : Bool :=
  let n := c.toNat
  (0x09 ≤ n && n ≤ 0x0D) || n == 0x20 || n == 0x85 || n == 0xA0 || n == 0x1680 ||
    (0x2000 ≤ n && n ≤ 0x200A) || n == 0x2028 || n == 0x2029 || n == 0x202F || n == 0x205F || n == 0x3000

/-- The characters between the first and the last that are not blank. -/
def trimChars (cs : List Char) : List Char :=
  ((cs.dropWhile isBlank).reverse.dropWhile isBlank).reverse

/-- A text without the blanks at its ends. -/
def trim (s : String) : String :=
  String.ofList (trimChars s.toList)

/-- The parts of a text between separators, empty ones included: there is one more part than separators. -/
def segments (separates : Char → Bool) : List Char → List (List Char)
  | [] => [[]]
  | c :: cs =>
    if separates c then [] :: segments separates cs
    else
      match segments separates cs with
      | [] => [[c]]
      | part :: parts => (c :: part) :: parts

theorem segments_ne_nil (separates : Char → Bool) (cs : List Char) : segments separates cs ≠ [] := by
  cases cs with
  | nil => simp [segments]
  | cons c cs =>
    simp only [segments]
    split
    · simp
    · split <;> simp

/-- ASCII letters to lower case, all else unchanged. -/
def lowerAscii (s : String) : String :=
  String.ofList (s.toList.map Char.toLower)

/-- ASCII letters to upper case, all else unchanged. -/
def upperAscii (s : String) : String :=
  String.ofList (s.toList.map Char.toUpper)

end Sql.Text
