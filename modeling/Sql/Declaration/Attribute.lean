/-
Attributes of declarations, and the entries `key` and `key = literal` that the `dbx` ones among them hold.
-/
import Sql.Declaration.Fault
import Sql.Declaration.Literal

namespace Sql.Declaration

/-- The parts of an attribute's argument list. -/
inductive Token where
  | word (s : String)
  | equals
  | comma
  | literal (l : Literal)
  /-- Anything between parentheses. -/
  | group
  /-- Any other sign. -/
  | sign
deriving DecidableEq, Repr

/-- The tokens of lexemes. A minus belongs to the number after it, and lifetimes are no words. -/
def Token.ofLexemes : List Lexeme → List Token
  | [] => []
  | .sign '-' _ :: .literal text :: rest =>
    (if (text.toList.head?).any Char.isDigit then [.literal .other] else [.sign, .literal (.ofText text)]) ++
      ofLexemes rest
  | .word w :: rest => (if w.toList.head? = some '\x27' then .sign else .word w) :: ofLexemes rest
  | .literal text :: rest => .literal (.ofText text) :: ofLexemes rest
  | .sign '=' _ :: rest => .equals :: ofLexemes rest
  | .sign ',' _ :: rest => .comma :: ofLexemes rest
  | .opening '(' :: rest => .group :: ofLexemes rest
  | _ :: rest => .sign :: ofLexemes rest

/-- `#[path(arguments)]`, or `#[path]` without arguments. -/
structure Attribute where
  path : String
  arguments : Option (List Token)
deriving DecidableEq, Repr

/-- An attribute, the arguments of which may be part of the text before them. -/
def Attribute.ofText (path : String) (arguments : Option (List Token)) : Attribute :=
  match Lexeme.ofString path with
  | [.word name] => ⟨name, arguments⟩
  | .word name :: .opening _ :: rest => ⟨name, some (Token.ofLexemes rest.dropLast)⟩
  | _ => ⟨path, arguments⟩

/-- The words that cannot be keys. -/
def reservedWords : List String :=
  ["_", "abstract", "as", "async", "await", "become", "box", "break", "const", "continue", "crate", "do", "dyn",
    "else", "enum", "extern", "false", "final", "fn", "for", "if", "impl", "in", "let", "loop", "macro", "match",
    "mod", "move", "mut", "override", "priv", "pub", "ref", "return", "Self", "self", "static", "struct", "super",
    "trait", "true", "try", "type", "typeof", "unsafe", "unsized", "use", "virtual", "where", "while", "yield"]

structure Entry where
  key : String
  value : Option Literal := none
deriving DecidableEq, Repr

namespace Entry

/-- A word as a key. -/
def named (key : String) : Except Fault Entry :=
  if reservedWords.contains key then .error (.reservedWord key) else .ok { key }

/-- A word as a key with a token as its value. -/
def valued (key : String) (value : Token) : Except Fault Entry := do
  let entry ← named key
  match value with
  | .literal l => return { entry with value := some l }
  | .word "true" => return { entry with value := some (.bool true) }
  | .word "false" => return { entry with value := some (.bool false) }
  | _ => throw .notALiteral

/-- The entries of an argument list, with a comma after each but perhaps the last. -/
def ofTokens : List Token → Except Fault (List Entry)
  | [] => .ok []
  | .word key :: .equals :: value :: .comma :: rest => do
    let entry ← valued key value
    return entry :: (← ofTokens rest)
  | [.word key, .equals, value] => return [← valued key value]
  | .word key :: .equals :: value :: _ => valued key value >>= fun _ => .error .missingComma
  | [.word key, .equals] => named key >>= fun _ => .error .missingLiteral
  | .word key :: .group :: _ => named key >>= fun _ => .error .functionStyle
  | .word key :: .comma :: rest => do
    let entry ← named key
    return entry :: (← ofTokens rest)
  | [.word key] => return [← named key]
  | .word key :: _ => named key >>= fun _ => .error .missingComma
  | _ :: _ => .error .notAnIdentifier

/-- The entries of one attribute, which must have an argument list. -/
def ofAttribute (a : Attribute) : Except Fault (List Entry) :=
  match a.arguments with
  | none => .error .noArguments
  | some tokens => ofTokens tokens

/-- The entries of all `dbx` attributes in order. Other attributes are not looked at. -/
def ofAttributes (attributes : List Attribute) : Except Fault (List Entry) :=
  return (← (attributes.filter (·.path == "dbx")).mapM ofAttribute).flatten

/-- The truth value of a flag; a key alone sets its flag. -/
def flag (e : Entry) : Except Fault Bool :=
  match e.value with
  | none => .ok true
  | some (.bool b) => .ok b
  | some _ => .error (.notABoolean e.key)

def text (e : Entry) : Except Fault String :=
  match e.value with
  | some (.text s) => .ok s
  | some _ => .error (.notAText e.key)
  | none => .error (.missingText e.key)

end Entry

end Sql.Declaration
