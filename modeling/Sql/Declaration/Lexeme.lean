/-
The lexemes of declaration text: words, literals, signs and brackets, without the blanks and comments between
them. A comment that documents stands for the lexemes of an attribute. The text is taken to be well-formed, so any
character that is not ASCII, not blank and not part of a literal is part of a word.
-/
import Sql.Text.Blank

namespace Sql.Declaration

inductive Lexeme where
  /-- An identifier, a keyword or a lifetime. -/
  | word (text : String)
  /-- A number, a character or a string, as it is written. -/
  | literal (text : String)
  /-- A sign, and whether another one follows it at once. -/
  | sign (c : Char) (joined : Bool)
  | opening (c : Char)
  | closing (c : Char)
deriving DecidableEq, Repr

namespace Lexeme

def word? : Lexeme → Option String
  | word text => some text
  | _ => none

def isWord (l : Lexeme) : Bool := l.word?.isSome

/-- White space, and the marks of writing direction. -/
def isGap (c : Char) : Bool :=
  Text.isBlank c || c == '\u200E' || c == '\u200F'

def isWordChar (c : Char) : Bool :=
  c.isAlphanum || c == '_' || (0x80 ≤ c.toNat && !isGap c)

def isWordStart (c : Char) : Bool :=
  isWordChar c && !c.isDigit

def isSign (c : Char) : Bool :=
  "~!@#$%^&*-=+|;:,<.>/?\x27".toList.contains c

/-- How many characters at the front make up a word. -/
def wordLength (cs : List Char) : Nat :=
  (cs.takeWhile isWordChar).length

/-- The length of a comment that may hold others, after its beginning; `depth` comments are open. -/
def commentLength : Nat → List Char → Nat
  | 0, _ => 0
  | _, [] => 0
  | depth + 1, '/' :: '*' :: cs => 2 + commentLength (depth + 2) cs
  | depth + 1, '*' :: '/' :: cs => 2 + commentLength depth cs
  | depth + 1, _ :: cs => 1 + commentLength (depth + 1) cs

/-- How many characters at the front are a blank or a comment. -/
def gapLength : List Char → Nat
  | '/' :: '/' :: cs => 2 + (cs.takeWhile (· != '\n')).length
  | '/' :: '*' :: cs => 2 + commentLength 1 cs
  | c :: _ => if isGap c then 1 else 0
  | [] => 0

/-- A comment that documents what comes after it, or what is around it. -/
structure Doc where
  text : List Char
  isInner : Bool
  /-- The length of the comment with its marks. -/
  length : Nat

namespace Doc

/-- A comment to the end of the line, after its marks. -/
def ofLine (isInner : Bool) (cs : List Char) : Doc :=
  let text := cs.takeWhile (· != '\n')
  let isCut := text.getLast? == some '\r' && text.length < cs.length
  ⟨if isCut then text.dropLast else text, isInner, 3 + text.length⟩

/-- A comment between marks, after the first of them. -/
def ofBlock (isInner : Bool) (cs : List Char) : Doc :=
  let length := commentLength 1 cs
  ⟨cs.take (length - 2), isInner, 3 + length⟩

/-- The comment at the front, if it documents anything. -/
def front? : List Char → Option Doc
  | '/' :: '/' :: '!' :: cs => some (ofLine true cs)
  | '/' :: '*' :: '!' :: cs => some (ofBlock true cs)
  | '/' :: '/' :: '/' :: cs => if cs.head? = some '/' then none else some (ofLine false cs)
  | '/' :: '*' :: '*' :: cs => if cs.head? = some '/' ∨ cs.head? = some '*' then none else some (ofBlock false cs)
  | _ => none

/-- A character between quotation marks. Control characters are escaped, and so are quotation marks. -/
def escaped (c : Char) : String :=
  if c = '\t' then "\\t" else if c = '\n' then "\\n" else if c = '\r' then "\\r" else if c = '\x00' then "\\0"
  else if c = '\\' ∨ c = '\x22' then String.ofList ['\\', c]
  else if c.toNat < 0x20 ∨ (0x7F ≤ c.toNat ∧ c.toNat < 0xA0) then
    "\\u\x7b" ++ String.ofList (Nat.toDigits 16 c.toNat) ++ "\x7d"
  else String.singleton c

/-- `#[doc = "text"]` -/
def lexemes (doc : Doc) : List Lexeme :=
  sign '#' false :: (if doc.isInner then [sign '!' false] else []) ++
    [opening '[', word "doc", sign '=' false, literal ("\x22" ++ String.join (doc.text.map escaped) ++ "\x22"),
      closing ']']

end Doc

/-- The length of a quoted text after its first quote, its last quote included. -/
def quotedLength (quote : Char) : List Char → Nat
  | [] => 0
  | '\\' :: _ :: cs => 2 + quotedLength quote cs
  | c :: cs => if c = quote then 1 else 1 + quotedLength quote cs

/-- The length of a raw string after its first quotation mark: it ends at one with as many number signs. -/
def rawLength (marks : Nat) : List Char → Nat
  | [] => 0
  | c :: cs =>
    if c = '\x22' ∧ cs.take marks = List.replicate marks '#' then 1 + marks else 1 + rawLength marks cs

/-- The length of a raw string after its letter, if it is one. -/
def rawString? (cs : List Char) : Option Nat :=
  let marks := (cs.takeWhile (· == '#')).length
  match cs.drop marks with
  | '\x22' :: rest => some (marks + 1 + rawLength marks rest)
  | _ => none

/-- The length of what may follow the digits of a number: an exponent with a sign, or a word. -/
def tailLength : List Char → Nat
  | e :: plus :: d :: cs =>
    if (e = 'e' ∨ e = 'E') ∧ (plus = '+' ∨ plus = '-') ∧ d.isDigit then 2 + wordLength (d :: cs)
    else wordLength (e :: plus :: d :: cs)
  | cs => wordLength cs

/-- The length of a number. A point belongs to it unless a word or another point comes next. -/
def numberLength (cs : List Char) : Nat :=
  let isPart (c : Char) : Bool := c.isDigit || c == '_'
  let whole := (cs.takeWhile isPart).length
  match cs.drop whole with
  | '.' :: rest =>
    if rest.head?.any fun c => c == '.' || isWordStart c then whole
    else
      let fraction := (rest.takeWhile isPart).length
      whole + 1 + fraction + tailLength (rest.drop fraction)
  | rest => whole + tailLength rest

/-- The length of the literal at the front, if there is one. A word that follows it at once belongs to it. -/
def literalLength? (cs : List Char) : Option Nat :=
  let bare := match cs with
    | '\x22' :: rest => some (1 + quotedLength '\x22' rest)
    | 'b' :: '\x22' :: rest | 'c' :: '\x22' :: rest => some (2 + quotedLength '\x22' rest)
    | 'b' :: '\x27' :: rest => some (2 + quotedLength '\x27' rest)
    | 'b' :: 'r' :: rest | 'c' :: 'r' :: rest => (rawString? rest).map (2 + ·)
    | 'r' :: rest => (rawString? rest).map (1 + ·)
    | '\x27' :: '\\' :: rest => some (1 + quotedLength '\x27' ('\\' :: rest))
    | '\x27' :: _ :: '\x27' :: _ => some 3
    | c :: _ => if c.isDigit then some (numberLength cs) else none
    | [] => none
  bare.map fun n => n + wordLength (cs.drop n)

/-- The length of the word at the front, if there is one. It may be marked as raw, and as a lifetime. -/
def wordLength? : List Char → Option Nat
  | '\x27' :: 'r' :: '#' :: cs => some (3 + wordLength cs)
  | '\x27' :: cs => some (1 + wordLength cs)
  | 'r' :: '#' :: cs => some (2 + wordLength cs)
  | c :: cs => if isWordChar c then some (wordLength (c :: cs)) else none
  | [] => none

/-- Whether a text goes on with a sign. -/
def startsWithSign : List Char → Bool
  | '/' :: '/' :: _ | '/' :: '*' :: _ => false
  | c :: _ => isSign c
  | [] => false

/-- The lexeme at the front, and its length. -/
def first (c : Char) (cs : List Char) : Lexeme × Nat :=
  let taken (n : Nat) : String := String.ofList ((c :: cs).take n)
  match literalLength? (c :: cs), wordLength? (c :: cs) with
  | some n, _ => (.literal (taken n), n)
  | none, some n => (.word (taken n), n)
  | none, none =>
    if c = '(' ∨ c = '[' ∨ c = '\x7b' then (.opening c, 1)
    else if c = ')' ∨ c = ']' ∨ c = '\x7d' then (.closing c, 1)
    else (.sign c (startsWithSign cs), 1)

/-- The lexemes of a text after as many characters as are to be skipped. -/
def ofChars : Nat → List Char → List Lexeme
  | _, [] => []
  | skipped + 1, _ :: cs => ofChars skipped cs
  | 0, c :: cs =>
    match Doc.front? (c :: cs), gapLength (c :: cs) with
    | some doc, _ => doc.lexemes ++ ofChars (doc.length - 1) cs
    | none, gap + 1 => ofChars gap cs
    | none, 0 =>
      let (lexeme, length) := first c cs
      lexeme :: ofChars (length - 1) cs

/-- The lexemes of a text. -/
def ofString (s : String) : List Lexeme := ofChars 0 s.toList

end Lexeme

end Sql.Declaration
