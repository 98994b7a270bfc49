/-
Letters, digits and case of characters. ASCII is decided here; all else is looked up in `Sql.Text.LetterTables`.
-/
import Sql.Text.LetterTables

namespace Sql.Text

open LetterTables

/-- A letter, mark or number that can stand in a word. -/
def isAlphanumeric (c : Char) : Bool :=
  if c.toNat < 0x80 then c.isAlphanum
  else alphanumeric.any fun (first, last) => first ≤ c.toNat && c.toNat ≤ last

/-- A capital letter. -/
def isUpper (c : Char) : Bool :=
  if c.toNat < 0x80 then c.isUpper else upper.any (·.contains c.toNat)

/-- A small letter. -/
def isLower (c : Char) : Bool :=
  if c.toNat < 0x80 then c.isLower else lower.any (·.contains c.toNat)

/-- The lower case of one character. Only a capital I with a dot above needs two characters. -/
def lowerChar (c : Char) : List Char :=
  if c.toNat < 0x80 then [c.toLower]
  else if c == '\u0130' then ['i', '\u0307']
  else
    match lowerCase.find? (·.span.contains c.toNat) with
    | some s => [Char.ofNat (c.toNat + s.distance).toNat]
    | none => [c]

/-- The lower case of a word. A capital sigma at its end becomes the final form of the small one. -/
def lowerWord : List Char → List Char
  | [] => []
  | ['\u03A3'] => ['\u03C2']
  | c :: cs => lowerChar c ++ lowerWord cs

end Sql.Text
