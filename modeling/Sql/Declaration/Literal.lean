/-
Literals in the attributes of declarations. Only texts and truth values have a meaning there.
-/
import Sql.Declaration.Lexeme
import Sql.Number.Digits

namespace Sql.Declaration

inductive Literal where
  | text (s : String)
  | bool (b : Bool)
  /-- A number, a character or bytes. -/
  | other
deriving DecidableEq, Repr

namespace Literal

/-- The number in hexadecimal digits, among which underscores may stand. -/
def codeOf (cs : List Char) : Nat :=
  (cs.filterMap Number.hexValue?).foldl (fun n d => 16 * n + d) 0

/-- What the characters after a backslash stand for, and how many of them belong to the escape. A line that ends
with a backslash goes on at the next character that is not blank. -/
def escape : List Char → List Char × Nat
  | 'n' :: _ => (['\n'], 1)
  | 'r' :: _ => (['\r'], 1)
  | 't' :: _ => (['\t'], 1)
  | '0' :: _ => (['\x00'], 1)
  | 'x' :: a :: b :: _ => ([Char.ofNat (codeOf [a, b])], 3)
  | 'u' :: '\x7b' :: cs =>
    let digits := cs.takeWhile (· != '\x7d')
    ([Char.ofNat (codeOf digits)], digits.length + 3)
  | c :: cs => if Text.isBlank c then ([], (cs.takeWhile Text.isBlank).length + 1) else ([c], 1)
  | [] => ([], 0)

/-- The text between quotation marks after as many characters as are to be skipped. Ends of lines are single
characters. -/
def unescaped : Nat → List Char → List Char
  | _, [] => []
  | skipped + 1, _ :: cs => unescaped skipped cs
  | 0, c :: cs =>
    if c = '\\' then
      let (meant, length) := escape cs
      meant ++ unescaped length cs
    else if c = '\r' then unescaped 0 cs
    else c :: unescaped 0 cs

/-- A literal as it is written. -/
def ofText (text : String) : Literal :=
  match text.toList with
  | '\x22' :: cs => .text (String.ofList (unescaped 0 (cs.take (Lexeme.quotedLength '\x22' cs - 1))))
  | 'r' :: cs =>
    let marks := (cs.takeWhile (· == '#')).length
    let raw := cs.drop (marks + 1)
    .text (String.ofList (raw.take (Lexeme.rawLength marks raw - (marks + 1))))
  | _ => .other

end Literal

end Sql.Declaration
