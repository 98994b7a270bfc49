/-
JSON data and its compact text. Integers and floating-point numbers are told apart, as in the text.
-/
import Sql.Number.Layout
import Sql.Bindings

namespace Sql

open Number

/-- JSON data. The fields of an object are in the order of their names. -/
inductive Json where
  | null
  | bool (b : Bool)
  | integer (n : Int)
  | float (x : Double)
  | text (s : String)
  | array (items : List Json)
  | object (fields : List (String × Json))

namespace Json

def isNull : Json → Bool
  | .null => true
  | _ => false

/-- An object with the fields of a list, a later one in place of an earlier one with its name. -/
def ofFields (fields : List (String × Json)) : Json :=
  .object (Bindings.ofList fields).entries

/-- A field of an object. -/
def field? : Json → String → Option Json
  | .object fields, name => fields.lookup name
  | _, _ => none

/-- Plain decimals reach from 0.00001 to sixteen digits before the point; exponents always have a sign,
and of two equally near last digits the even one is taken. -/
def floatLayout : FloatLayout := ⟨-5, 15, true, .toEven⟩

/-- Only the quotation mark, the backslash and control characters are escaped. -/
def escapeChar (c : Char) : List Char :=
  if c == '\x22' then ['\\', '\x22']
  else if c == '\\' then ['\\', '\\']
  else if c == '\x08' then ['\\', 'b']
  else if c == '\x0C' then ['\\', 'f']
  else if c == '\n' then ['\\', 'n']
  else if c == '\r' then ['\\', 'r']
  else if c == '\t' then ['\\', 't']
  else if c.toNat < 0x20 then ['\\', 'u'] ++ padLeft '0' 4 (Nat.toDigits 16 c.toNat)
  else [c]

def quote (s : String) : String :=
  String.ofList ('\x22' :: s.toList.flatMap escapeChar ++ ['\x22'])

mutual

/-- The text without any blanks. -/
def compact : Json → String
  | .null => "null"
  | .bool true => "true"
  | .bool false => "false"
  | .integer n => intText n
  | .float x => if x.isFinite then String.ofList (floatLayout.finite x) else "null"
  | .text s => quote s
  | .array items => "[" ++ compactItems items ++ "]"
  | .object fields => "\x7b" ++ compactFields fields ++ "\x7d"

def compactItems : List Json → String
  | [] => ""
  | [item] => compact item
  | item :: items => compact item ++ "," ++ compactItems items

def compactFields : List (String × Json) → String
  | [] => ""
  | [(name, value)] => quote name ++ ":" ++ compact value
  | (name, value) :: fields => quote name ++ ":" ++ compact value ++ "," ++ compactFields fields

end

end Json

end Sql
