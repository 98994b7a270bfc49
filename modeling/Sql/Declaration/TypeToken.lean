/-
The tokens of a type, their order and the text that they make.

Among the arguments of a type the lifetimes come first. An argument takes the comma after it along, and if the
last one had none and is no longer last, it is given one. What a binder binds stays in order, but a colon without
bounds is left out.
-/
namespace Sql.Declaration

/-- What a token is for the order of tokens. -/
inductive TokenRole where
  | plain
  | lifetime
  | comma
  /-- The first sign of `::`. -/
  | path
  | opening
  | closing
  /-- The bracket before the arguments of a type. -/
  | openingArguments
  /-- The bracket after `for`. -/
  | openingBinder
  | closingAngle
deriving DecidableEq, Repr

structure TypeToken where
  text : String
  role : TokenRole := .plain
  /-- Whether the next token stands close to it. -/
  close : Bool := false
deriving DecidableEq, Repr

/-- What stands within angle brackets, up to some token. -/
structure TypeArguments where
  isBinder : Bool := false
  lifetimes : List TypeToken := []
  others : List TypeToken := []
  /-- The argument that is not at its end yet. -/
  current : List TypeToken := []
  /-- How many brackets are open in it. -/
  depth : Nat := 0

namespace TypeArguments

def add (a : TypeArguments) (tokens : List TypeToken) : TypeArguments :=
  { a with current := a.current ++ tokens }

/-- Whether an argument is a lifetime, and not a type of which one is the first bound. -/
def isLifetime : List TypeToken → Bool
  | first :: next :: _ => first.role == .lifetime && next.text != "+"
  | [only] => only.role == .lifetime
  | [] => false

/-- What is bound so far, without a colon that has nothing after it. -/
def endBounds (a : TypeArguments) : TypeArguments :=
  if a.isBinder ∧ a.depth = 0 ∧ (a.current.getLast?).any (·.text == ":") then
    { a with current := a.current.dropLast }
  else a

def endArgument (a : TypeArguments) : TypeArguments :=
  if isLifetime a.current ∧ !a.isBinder then { a with lifetimes := a.lifetimes ++ a.current, current := [] }
  else { a with others := a.others ++ a.current, current := [] }

/-- The tokens of all arguments, the lifetimes first. -/
def tokens (a : TypeArguments) : List TypeToken :=
  let a := a.endBounds.endArgument
  let lacksComma := (a.lifetimes.getLast?).any (·.role != .comma) && !a.others.isEmpty
  a.lifetimes ++ (if lacksComma then [{ text := ",", role := .comma }] else []) ++ a.others

/-- Adds what `inner` binds and the bracket after it. A question mark that comes next moves before the binder. -/
def addBinder (a inner : TypeArguments) (bracket : TypeToken) (isOptional : Bool) : TypeArguments :=
  let start := a.current.length - 2
  let mark : List TypeToken := if isOptional then [{ text := "?" }] else []
  { a with current := a.current.take start ++ mark ++ a.current.drop start ++ inner.tokens ++ [bracket] }

/-- Puts tokens in order; `a` is what has been read within the innermost angle brackets, `outer` what has been read
within those around them. Brackets that stay open end with the text. -/
def arrange (a : TypeArguments) (outer : List TypeArguments) : List TypeToken → List TypeToken
  | [] => (a :: outer).reverse.flatMap tokens
  | token :: rest =>
    match token.role, outer with
    | .openingArguments, _ => arrange {} (a.add [token] :: outer) rest
    | .openingBinder, _ => arrange { isBinder := true } (a.add [token] :: outer) rest
    | .closingAngle, around :: outer =>
      if a.isBinder then
        match rest with
        | next :: rest =>
          if next.text = "?" then arrange (around.addBinder a token true) outer rest
          else arrange (around.addBinder a token false) outer (next :: rest)
        | [] => arrange (around.addBinder a token false) outer []
      else arrange (around.add (a.tokens ++ [token])) outer rest
    | .comma, _ =>
      if a.depth = 0 then arrange (a.endBounds.add [token]).endArgument outer rest
      else arrange (a.add [token]) outer rest
    | .opening, _ => arrange { a.add [token] with depth := a.depth + 1 } outer rest
    | .closing, _ => arrange { a.add [token] with depth := a.depth - 1 } outer rest
    | _, _ => arrange ((if token.text = "=" then a.endBounds else a).add [token]) outer rest

end TypeArguments

namespace TypeToken

/-- Leaves out `::` before the arguments of a function type. -/
def dropPathSigns : List TypeToken → List TypeToken
  | first :: second :: next :: rest =>
    if first.role = .path ∧ next.text = "(" then dropPathSigns (next :: rest)
    else first :: dropPathSigns (second :: next :: rest)
  | tokens => tokens

/-- The tokens of a type in their order. Outside angle brackets there are no arguments. -/
def arrange (tokens : List TypeToken) : List TypeToken :=
  TypeArguments.arrange { depth := 1 } [] (dropPathSigns tokens)

/-- Tokens with a blank between any two of which the second neither stands close nor closes a bracket. -/
def textOf : List TypeToken → String
  | [] => ""
  | [token] => token.text
  | token :: next :: rest =>
    let isTight := token.close || next.text == ")" || next.text == "]"
    token.text ++ (if isTight then "" else " ") ++ textOf (next :: rest)

end TypeToken

end Sql.Declaration
