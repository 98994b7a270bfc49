/-
Snake case: the words of a name in lower case, joined by underscores.

A word ends at a character that is neither letter nor digit, before a capital letter that follows a small
one (`userName`), and before the last of several capital letters when a small one comes next (`HTTPServer`).
Digits take the case of the letter before them.
-/
import Sql.Text.Blank
import Sql.Text.Letters

namespace Sql.Text

/-- The case of the last cased character of the word under way, if it has one. -/
inductive WordCase where
  | none
  | small
  | capital
deriving DecidableEq

/-- The case after one more character of the same word. -/
def WordCase.after (w : WordCase) (c : Char) : WordCase :=
  if isLower c then .small else if isUpper c then .capital else w

/-- The words of a run of letters and digits, of which `word` is already read. -/
def wordsFrom (w : WordCase) (word : List Char) : List Char → List (List Char)
  | [] => []
  | [c] => [word ++ [c]]
  | c :: next :: rest =>
    if w.after c = .small ∧ isUpper next then
      (word ++ [c]) :: wordsFrom .none [] (next :: rest)
    else if w = .capital ∧ isUpper c ∧ isLower next then
      word :: wordsFrom .none [c] (next :: rest)
    else wordsFrom (w.after c) (word ++ [c]) (next :: rest)

/-- The words of a name, in order. -/
def words (cs : List Char) : List (List Char) :=
  (segments (fun c => !isAlphanumeric c) cs).flatMap (wordsFrom .none [])

/-- Texts with a separator between each two. -/
def joinChars (separator : List Char) : List (List Char) → List Char
  | [] => []
  | [part] => part
  | part :: next :: rest => part ++ separator ++ joinChars separator (next :: rest)

/-- The words of one name in lower case, joined by underscores. -/
def snakeSegment (cs : List Char) : List Char :=
  joinChars ['_'] ((words cs).map lowerWord)

/-- Snake case of a name; the parts of a dotted path are converted one by one and keep their dots. -/
def snake (name : String) : String :=
  String.ofList (joinChars ['.'] ((segments (· == '.') name.toList).map snakeSegment))

end Sql.Text
