/-
The text of types in declarations, with a blank between any two tokens.

Signs that belong to one operator stand together. Which signs those are depends on the place: in types every
sign but `::`, `->` and dots stands alone, in the expressions that types hold operators are as long as they
can be, and in the arguments of macros the signs stay as they were written.
-/
import Sql.Declaration.Lexeme
import Sql.Declaration.Place
import Sql.Declaration.TypeToken
import Sql.Number.Digits

namespace Sql.Declaration

/-- The signs that follow each other at once. -/
def signRun : List Lexeme → List Char
  | .sign c true :: rest => c :: signRun rest
  | .sign c false :: _ => [c]
  | _ => []

/-- What came last, as far as it decides on what comes next. -/
inductive Before where
  | word
  /-- The word before a binder. -/
  | binderWord
  /-- The point before the name of a part. -/
  | point
  /-- The sign before the arguments of a macro. -/
  | macroSign
  /-- The sign before an attribute. -/
  | attributeSign
  | other
deriving DecidableEq, Repr

/-- A bracket that is open. -/
structure OpenBracket where
  closer : Char
  /-- What comes after the bracket that closes it. -/
  after : Place
  endsAtBlock : Bool

/-- What is known of the lexemes so far. -/
structure Spacing where
  place : Place := .type
  before : Before := .other
  /-- Whether the next block ends the statement. -/
  endsAtBlock : Bool := false
  /-- The innermost first. -/
  brackets : List OpenBracket := []
  /-- The signs of an operator that are still to come. -/
  pending : List Char := []

namespace Spacing

def closedBy (s : Spacing) (c : Char) : Bool :=
  (s.brackets.head?).any (·.closer == c)

def enter (s : Spacing) (closer : Char) (inner after : Place) : Spacing :=
  { s with
    place := inner
    before := .other
    endsAtBlock := false
    brackets := ⟨closer, after, s.endsAtBlock⟩ :: s.brackets }

def leave (s : Spacing) : Spacing :=
  match s.brackets with
  | [] => { s with before := .other }
  | b :: rest => { s with place := b.after, before := .other, endsAtBlock := b.endsAtBlock, brackets := rest }

/-- A sign at the beginning of an operator, and what is known after it. -/
def onOperator (s : Spacing) (c : Char) (operator : List Char) : TypeToken × Spacing :=
  let before : Before :=
    if operator = ['.'] then .point
    else if operator = ['#'] ∨ (operator = ['!'] ∧ s.before = .attributeSign) then .attributeSign
    else if operator = ['!'] ∧ s.before = .word ∧ !s.place.isOpen then .macroSign
    else .other
  let place := s.place.afterOperator operator
  let role : TokenRole := if c = ',' then .comma else if operator = [':', ':'] then .path else .plain
  let beginsStatement := place = .operand ∧ s.closedBy '\x7d' ∧ (operator = [';'] ∨ operator = ['=', '>'])
  ({ text := String.singleton c, role, close := 1 < operator.length },
    { s with
      place := if beginsStatement then .statement else place
      before, pending := (s.place.written operator).tail
      endsAtBlock := s.endsAtBlock && !beginsStatement })

/-- A sign that is not the rest of an operator and may be a bracket, and what is known after it. -/
def onSign (s : Spacing) (c : Char) (joined : Bool) (rest : List Lexeme) : TypeToken × Spacing :=
  let signs := c :: if joined then signRun rest else []
  let token : TypeToken := { text := String.singleton c }
  if s.place = .verbatim then ({ token with close := joined }, { s with before := .other })
  else if c = '<' ∧ s.place.opensAngle signs then
    let role := if s.before = .binderWord then .openingBinder else .openingArguments
    ({ token with role }, s.enter '>' .type s.place.afterAngle)
  else if c = '|' ∧ s.place.isOpen then (token, s.enter '|' .type .operand)
  else if s.place = .type ∧ c = '>' ∧ s.closedBy c then ({ token with role := .closingAngle }, s.leave)
  else if s.place = .type ∧ c = '|' ∧ s.closedBy c then (token, s.leave)
  else if s.place = .type ∧ c = ';' ∧ s.closedBy ']' then (token, { s with place := .operand, before := .other })
  else if s.place = .type ∧ c = ';' ∧ s.closedBy '\x7d' then
    (token, { s with place := .statement, before := .other })
  else s.onOperator c (s.place.operatorOf signs)

/-- The name of a part that is a number, without underscores and leading zeros, in base ten. -/
def partName (cs : List Char) : String :=
  let (base, digits) := match cs with
    | '0' :: 'x' :: cs => (16, cs)
    | '0' :: 'o' :: cs => (8, cs)
    | '0' :: 'b' :: cs => (2, cs)
    | cs => (10, cs)
  toString ((digits.filterMap Number.hexValue?).foldl (fun n d => base * n + d) 0)

/-- The names of parts of parts, as in `0.1` after a point. -/
def partNames (text : String) : List TypeToken :=
  let names := (Text.segments (· == '.') text.toList).map fun part => if part.isEmpty then "" else partName part
  ((names.intersperse ".").filter (!·.isEmpty)).map fun text => { text }

/-- What is known after a bracket that opens. -/
def onOpening (s : Spacing) (c : Char) : Spacing :=
  let closer := if c = '(' then ')' else if c = '[' then ']' else '\x7d'
  let isBody := s.place = .type && s.closedBy '\x7d' || s.place = .statement || s.endsAtBlock
  match s.before with
  | .attributeSign => s.enter closer .verbatim s.place
  | .macroSign => s.enter closer .verbatim s.place.afterBrackets
  | _ =>
    if closer = '\x7d' ∧ isBody then { s with endsAtBlock := false }.enter closer (s.place.within c) .statement
    else s.enter closer (s.place.within c) s.place.afterBrackets

/-- The tokens of one lexeme, and what is known after it; `rest` follows it. -/
def step (s : Spacing) (lexeme : Lexeme) (rest : List Lexeme) : List TypeToken × Spacing :=
  match lexeme with
  | .word w =>
    ([{ text := w, role := if Place.isLifetime w then .lifetime else .plain }],
      { s with
        place := s.place.afterWord w ((rest.head?).any (·.isWord))
        before := if w = "for" then .binderWord else .word
        endsAtBlock := s.endsAtBlock || (s.place = .statement && Place.blockWords.contains w) })
  | .literal text =>
    if s.before = .point ∧ (text.toList.head?).any Char.isDigit then
      (partNames text, { s with place := s.place.afterLiteral, before := if text.endsWith "." then .point else .other })
    else ([{ text }], { s with place := s.place.afterLiteral, before := .other })
  | .opening c =>
    ([{ text := String.singleton c, role := .opening, close := c == '(' || c == '[' }], s.onOpening c)
  | .closing c => ([{ text := String.singleton c, role := .closing }], s.leave)
  | .sign c joined =>
    match s.pending with
    | [] =>
      let (token, next) := s.onSign c joined rest
      ([token], next)
    | sign :: pending =>
      ([{ text := String.singleton sign, close := !pending.isEmpty }], { s with pending, before := .other })

def tokens (s : Spacing) : List Lexeme → List TypeToken
  | [] => []
  | lexeme :: rest =>
    let (here, next) := s.step lexeme rest
    here ++ next.tokens rest

end Spacing

/-- `List < Text >` -/
def spacedType (type : String) : String :=
  TypeToken.textOf (TypeToken.arrange (Spacing.tokens {} (Lexeme.ofString type)))

end Sql.Declaration
