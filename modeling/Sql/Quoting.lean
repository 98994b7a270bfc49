/-
Quoted text: identifiers between quotes that are doubled inside, and string literals between single quotes
with either of two escaping rules. Each way of writing has its reader beside it, which stops at the first
closing quote that is not part of the text.
-/
namespace Sql.Quoting

/-- A text in which every occurrence of a quote is written twice. -/
def double (quote : Char) : List Char → List Char
  | [] => []
  | c :: cs => if c = quote then c :: c :: double quote cs else c :: double quote cs

/-- Reads up to a quote that is not doubled: the text before it, and what follows it. -/
def readDoubled (quote : Char) : List Char → Option (List Char × List Char)
  | [] => none
  | [c] => if c = quote then some ([], []) else none
  | c :: next :: cs =>
    if c = quote then
      if next = quote then (readDoubled quote cs).map fun (text, rest) => (c :: text, rest)
      else some ([], next :: cs)
    else (readDoubled quote (next :: cs)).map fun (text, rest) => (c :: text, rest)

/-- The letter that stands for a character after a backslash: NUL, the quotes, the backslash, backspace,
newline, carriage return, tab and Ctrl-Z have one. -/
def escapeLetter? (c : Char) : Option Char :=
  if c = '\x00' then some '0'
  else if c = '\x08' then some 'b'
  else if c = '\n' then some 'n'
  else if c = '\r' then some 'r'
  else if c = '\t' then some 't'
  else if c = '\x1A' then some 'Z'
  else if c = '\x27' ∨ c = '\x22' ∨ c = '\\' then some c
  else none

/-- The character that a letter after a backslash stands for. -/
def unescapeLetter (c : Char) : Char :=
  if c = '0' then '\x00'
  else if c = 'b' then '\x08'
  else if c = 'n' then '\n'
  else if c = 'r' then '\r'
  else if c = 't' then '\t'
  else if c = 'Z' then '\x1A'
  else c

/-- A text with its special characters behind backslashes. -/
def backslash : List Char → List Char
  | [] => []
  | c :: cs =>
    match escapeLetter? c with
    | some letter => '\\' :: letter :: backslash cs
    | none => c :: backslash cs

/-- Reads up to a single quote that no backslash escapes: the text before it, and what follows it. -/
def readBackslash : List Char → Option (List Char × List Char)
  | [] => none
  | '\\' :: c :: cs => (readBackslash cs).map fun (text, rest) => (unescapeLetter c :: text, rest)
  | c :: cs =>
    if c = '\x27' then some ([], cs)
    else (readBackslash cs).map fun (text, rest) => (c :: text, rest)

end Sql.Quoting
