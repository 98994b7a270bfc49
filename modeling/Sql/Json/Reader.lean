/-
Reading JSON text. An integer that fits 64 bits, signed or not, stays an integer; all other numbers become
the nearest double, and one beyond the largest double is refused.
-/
import Sql.Json.Basic
import Sql.Number.Digits
import Sql.Number.Reading

namespace Sql.Json

open Number

/-- White space between the parts of JSON text. -/
def isSpace (c : Char) : Bool :=
  c == ' ' || c == '\n' || c == '\t' || c == '\r'

/-- The number with these four hexadecimal digits. -/
def hexUnit (a b c d : Char) : Option Nat := do
  return (((← hexValue? a) * 16 + (← hexValue? b)) * 16 + (← hexValue? c)) * 16 + (← hexValue? d)

def unescape : Char → Option Char
  | '\x22' => some '\x22'
  | '\\' => some '\\'
  | '/' => some '/'
  | 'b' => some '\x08'
  | 'f' => some '\x0C'
  | 'n' => some '\n'
  | 'r' => some '\r'
  | 't' => some '\t'
  | _ => none

/-- A string up to its closing quotation mark, and what follows. Surrogates must come in pairs. -/
def readString : List Char → Option (List Char × List Char)
  | [] => none
  | '\x22' :: cs => some ([], cs)
  | '\\' :: 'u' :: a :: b :: c :: d :: cs => do
    let unit ← hexUnit a b c d
    if 0xD800 ≤ unit ∧ unit ≤ 0xDBFF then
      match cs with
      | '\\' :: 'u' :: e :: f :: g :: h :: cs =>
        let low ← hexUnit e f g h
        if 0xDC00 ≤ low ∧ low ≤ 0xDFFF then
          let (rest, after) ← readString cs
          return (Char.ofNat (0x10000 + (unit - 0xD800) * 0x400 + (low - 0xDC00)) :: rest, after)
        else none
      | _ => none
    else if 0xDC00 ≤ unit ∧ unit ≤ 0xDFFF then none
    else
      let (rest, after) ← readString cs
      return (Char.ofNat unit :: rest, after)
  | '\\' :: c :: cs => do
    let c ← unescape c
    let (rest, after) ← readString cs
    return (c :: rest, after)
  | c :: cs => do
    if c.toNat < 0x20 ∨ c = '\\' then none
    let (rest, after) ← readString cs
    return (c :: rest, after)

/-- The characters that numbers are made of. -/
def isNumberChar (c : Char) : Bool :=
  c.isDigit || c == '-' || c == '+' || c == '.' || c == 'e' || c == 'E'

/-- Whether a text is a JSON number: no plus sign, no needless zeros, digits on both sides of a point. -/
def isNumberText (cs : List Char) : Bool :=
  let cs := match cs with
    | '-' :: cs => cs
    | cs => cs
  let (whole, rest) := spanDigits cs
  let wholeOk := match whole with
    | [] => false
    | ['0'] => true
    | d :: _ => d != '0'
  let rest? := match rest with
    | '.' :: rest =>
      let (fraction, rest) := spanDigits rest
      if fraction.isEmpty then none else some rest
    | rest => some rest
  wholeOk && (rest?.bind readExponent).isSome

/-- The number with this text. -/
def readNumber (cs : List Char) : Option Json := do
  if !isNumberText cs then none
  let float : Option Json := do
    let x ← Double.read? (String.ofList cs)
    if x.isFinite then some (.float x) else none
  if cs.all fun c => c.isDigit || c == '-' then
    let (negative, digits) := spanSign cs
    let n := ofDigits digits
    if negative then
      if 0 < n ∧ n ≤ Nat.pow 2 63 then some (.integer (-n)) else float
    else if n < Nat.pow 2 64 then some (.integer n)
    else float
  else float

mutual

/-- One value and what follows it. Every call uses up fuel, at most two for each character read. -/
def readValue : Nat → List Char → Option (Json × List Char)
  | 0, _ => none
  | fuel + 1, cs =>
    match cs.dropWhile isSpace with
    | 'n' :: 'u' :: 'l' :: 'l' :: cs => some (.null, cs)
    | 't' :: 'r' :: 'u' :: 'e' :: cs => some (.bool true, cs)
    | 'f' :: 'a' :: 'l' :: 's' :: 'e' :: cs => some (.bool false, cs)
    | '\x22' :: cs => (readString cs).map fun (s, cs) => (.text (String.ofList s), cs)
    | '[' :: cs =>
      match cs.dropWhile isSpace with
      | ']' :: cs => some (.array [], cs)
      | cs => (readItems fuel cs).map fun (items, cs) => (.array items, cs)
    | '{' :: cs =>
      match cs.dropWhile isSpace with
      | '}' :: cs => some (.object [], cs)
      | cs => (readFields fuel cs).map fun (fields, cs) => (ofFields fields, cs)
    | cs => (readNumber (cs.takeWhile isNumberChar)).map (·, cs.dropWhile isNumberChar)

/-- The items up to the closing bracket. -/
def readItems : Nat → List Char → Option (List Json × List Char)
  | 0, _ => none
  | fuel + 1, cs =>
    match readValue fuel cs with
    | none => none
    | some (item, cs) =>
      match cs.dropWhile isSpace with
      | ']' :: cs => some ([item], cs)
      | ',' :: cs => (readItems fuel cs).map fun (items, cs) => (item :: items, cs)
      | _ => none

/-- The fields up to the closing brace. -/
def readFields : Nat → List Char → Option (List (String × Json) × List Char)
  | 0, _ => none
  | fuel + 1, cs =>
    match cs.dropWhile isSpace with
    | '\x22' :: cs =>
      match readString cs with
      | none => none
      | some (name, cs) =>
        match cs.dropWhile isSpace with
        | ':' :: cs =>
          match readValue fuel cs with
          | none => none
          | some (value, cs) =>
            let field := (String.ofList name, value)
            match cs.dropWhile isSpace with
            | '}' :: cs => some ([field], cs)
            | ',' :: cs => (readFields fuel cs).map fun (fields, cs) => (field :: fields, cs)
            | _ => none
        | _ => none
    | _ => none

end

/-- The value that a whole text stands for. -/
def read? (s : String) : Option Json :=
  let cs := s.toList
  match readValue (2 * cs.length + 2) cs with
  | some (value, rest) => if rest.all isSpace then some value else none
  | none => none

end Sql.Json
