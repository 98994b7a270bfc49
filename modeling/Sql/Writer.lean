/-
Writers turn trees into SQL text and collect the arguments. Text and arguments only grow, and where a step fails, what was
written before it stays.

By position, every parameter adds an argument. By name, a parameter without a name is refused, and so is one
whose name already holds a value that differs from its own.
-/
import Sql.Dialect
import Sql.Expr.Condition
import Sql.Json.Basic
import Sql.Value.Json
import Sql.Value.Literal

namespace Sql

inductive ParamStyle where
  | named
  | positional
deriving DecidableEq, Repr

def ParamStyle.text : ParamStyle → String
  | named => "named"
  | positional => "positional"

/-- Arguments of a statement: a list, or values under the names of their parameters. -/
inductive Args where
  | positional (values : List Value)
  | named (values : Bindings Value)

namespace Args

def empty : ParamStyle → Args
  | .positional => .positional []
  | .named => .named .empty

def style : Args → ParamStyle
  | .positional _ => .positional
  | .named _ => .named

def size : Args → Nat
  | .positional values => values.length
  | .named values => values.size

/-- The value under a name. -/
def get? : Args → String → Option Value
  | .positional _, _ => none
  | .named values, name => values.get? name

def toJson : Args → Json
  | .positional values => .array (values.map Value.toJson)
  | .named values => .object (values.entries.map fun (name, value) => (name, value.toJson))

end Args

/-- SQL text with its arguments. -/
structure Rendered where
  sql : String
  args : Args

def Rendered.style (r : Rendered) : ParamStyle := r.args.style

/-- What is written so far. -/
structure Writer where
  dialect : Dialect
  sql : String
  args : Args

namespace Writer

/-- A writer with nothing written, if the dialect has the style. -/
def start (d : Dialect) (style : ParamStyle) : Except Error Writer :=
  if style = .named ∧ !d.supportsNamed then .error (.unsupportedStyle d.name)
  else .ok ⟨d, "", .empty style⟩

def style (w : Writer) : ParamStyle := w.args.style

def rendered (w : Writer) : Rendered := ⟨w.sql, w.args⟩

/-- Writes the placeholder of a parameter and keeps its argument. -/
def pushParameter (w : Writer) (name : Option String) (value : Value) : Except Error Writer :=
  match w.args with
  | .positional values =>
    .ok { w with sql := w.sql ++ w.dialect.placeholder, args := .positional (values ++ [value]) }
  | .named values =>
    match name with
    | none => .error .unnamedParameter
    | some name =>
      let sql := w.sql ++ w.dialect.namedParameter name
      match values.get? name with
      | some held => if held.equals value then .ok { w with sql } else .error (.conflictingParameter name)
      | none => .ok { w with sql, args := .named (values.insert name value) }

end Writer

/-- Steps of a writer, up to the first that fails. -/
abbrev Writing := EStateM Error Writer

namespace Writing

/-- The writer behind some steps, and why they failed if they did. -/
def outcome (m : Writing Unit) (w : Writer) : Writer × Option Error :=
  match m w with
  | .ok _ w => (w, none)
  | .error e w => (w, some e)

/-! ## Single steps -/

def pushText (s : String) : Writing Unit :=
  modify fun w => { w with sql := w.sql ++ s }

/-- A keyword as the dialect spells it. -/
def pushKeyword (word : String) : Writing Unit := do
  pushText ((← get).dialect.keyword word)

/-- A keyword between blanks. -/
def pushSpaced (word : String) : Writing Unit := do
  pushText " "
  pushKeyword word
  pushText " "

def pushQuoted (name : String) : Writing Unit := do
  pushText ((← get).dialect.quote name)

def pushQualifier (name : String) : Writing Unit := do
  pushQuoted name
  pushText "."

/-- A parameter that is refused changes nothing. -/
def pushParameter (name : Option String) (value : Value) : Writing Unit := do
  set (← ofExcept ((← get).pushParameter name value))

def refuse (fault : QueryFault) : Writing Unit := throw (.invalidQuery fault)

/-- Operators that are keywords stand between blanks. -/
def pushOperator (op : BinaryOp) : Writing Unit :=
  if op.isKeyword then pushSpaced op.text else pushText op.text

/-- What stands in front of an item, if it is not the first one. -/
def pushSeparator (separator : Separator) (first : Bool) : Writing Unit :=
  if first then pure ()
  else
    match separator with
    | .and => pushSpaced "AND"
    | .or => pushSpaced "OR"
    | .comma => pushText ","
    | .space => pushText " "

/-- Steps, in parentheses where they need them. -/
def grouped (needed : Bool) (m : Writing Unit) : Writing Unit :=
  if needed then do
    pushText "( "
    m
    pushText " )"
  else m

/-- A number of rows as a parameter behind its keyword. -/
def writeRows (keyword name : String) (n : UInt64) : Writing Unit := do
  pushSpaced keyword
  pushParameter (some name) (.uint n)

def writeRowsUnit (keyword name rows : String) (n : UInt64) : Writing Unit := do
  writeRows keyword name n
  pushText " "
  pushKeyword rows

/-- The end of a query. Where OFFSET comes first, it is written for a limit alone too. -/
def writePageAs (pagination : Pagination) (limit offset : Option UInt64) : Writing Unit :=
  match pagination with
  | .limitOffset => do
    limit.forM (writeRows "LIMIT" "limit")
    offset.forM (writeRows "OFFSET" "offset")
  | .offsetFetch =>
    if limit.isNone && offset.isNone then pure ()
    else do
      writeRowsUnit "OFFSET" "offset" "ROWS" (offset.getD 0)
      limit.forM (writeRowsUnit "FETCH NEXT" "limit" "ROWS ONLY")

def writePage (limit offset : Option UInt64) : Writing Unit := do
  writePageAs (← get).dialect.pagination limit offset

/-! ## Trees -/

mutual

def writeExpr : Expr → Writing Unit
  | .identifier qualifiers name => do
    (qualifiers.filter (!·.isEmpty)).forM pushQualifier
    pushQuoted name
  | .constant v => do pushText (v.literal (← get).dialect)
  | .raw v => do pushText (v.raw (← get).dialect)
  | .bound name v => pushParameter name v
  | .binary b => writeBinary b
  | .unary op operand =>
    if operand.isEmptyCondition then refuse (.emptyOperand op.text)
    else do
      pushKeyword op.text
      pushText " "
      grouped operand.needsGroup (writeExpr operand)
  | .list l => writeList l
  | .call function args => do
    pushKeyword function
    pushText "("
    writeJoined "," args
    pushText ")"
  | .between operand low high => do
    writeExpr operand
    pushSpaced "BETWEEN"
    writeExpr low
    pushSpaced "AND"
    writeExpr high
  | .alias e name => do
    writeExpr e
    pushSpaced "AS"
    pushQuoted name
  | .paren inner => grouped true (writeExpr inner)
  | .select s => writeSelect s
  | .insert i => writeInsert i
  | .update u => writeUpdate u
  | .delete x => writeDelete x

def writeJoined (separator : String) : List Expr → Writing Unit
  | [] => pure ()
  | [e] => writeExpr e
  | e :: next :: rest => do
    writeExpr e
    pushText separator
    writeJoined separator (next :: rest)

/-- A test against a set without members has one outcome for all rows, and its sides are not written. -/
def writeBinary : Binary Expr → Writing Unit
  | ⟨left, op, right⟩ =>
    if op.isMembership && right.isEmptySet then pushText (if op = .isIn then "1=0" else "1=1")
    else do
      writeExpr left
      pushOperator op
      writeExpr right

def writeList : Listing Expr → Writing Unit
  | ⟨separator, items, lead, trail⟩ => do
    writeLead lead
    writeItems separator true items
    writeTrail trail

def writeLead : Option Expr → Writing Unit
  | none => pure ()
  | some e => do
    writeExpr e
    pushText " "

def writeTrail : Option Expr → Writing Unit
  | none => pure ()
  | some e => do
    pushText " "
    writeExpr e

/-- The items of a list. Conditions that test nothing drop out, and AND inside OR keeps its grouping, as does OR inside
AND. -/
def writeItems (separator : Separator) (first : Bool) : List Expr → Writing Unit
  | [] => pure ()
  | e :: es =>
    if separator.drops e then writeItems separator first es
    else do
      pushSeparator separator first
      grouped (e.needsGroupIn separator) (writeExpr e)
      writeItems separator false es

/-- A clause after its keyword, unless its condition tests nothing. -/
def writeClause (keyword : String) : Option Expr → Writing Unit
  | none => pure ()
  | some e =>
    if e.isEmptyCondition then pure ()
    else do
      pushSpaced keyword
      writeExpr e

def writeGroupBy : Option Expr → Writing Unit
  | none => pure ()
  | some e => do
    pushSpaced "GROUP BY"
    writeExpr e

/-- The WHERE clause of a statement that changes rows. One that tests nothing is refused, for the statement
would change all rows. -/
def writeGuarded (verb : WriteVerb) : Option Expr → Writing Unit
  | none => pure ()
  | some e =>
    if e.isEmptyCondition then refuse (.emptyWhere verb)
    else do
      pushSpaced "WHERE"
      writeExpr e

def writeSelect : Select Expr → Writing Unit
  | ⟨_, none, _, _, _, _, _, _, _⟩ => refuse .selectWithoutSource
  | ⟨columns, some source, condition, groupBy, having, orderBy, limit, offset, _⟩ => do
    pushKeyword "SELECT"
    pushText " "
    (if columns.isEmpty then pushText "*" else writeJoined "," columns)
    pushSpaced "FROM"
    writeExpr source
    writeClause "WHERE" condition
    writeGroupBy groupBy
    writeClause "HAVING" having
    (if orderBy.isEmpty then pure ()
    else do
      pushSpaced "ORDER BY"
      writeJoined "," orderBy)
    writePage limit offset

def writeInsert : Insert Expr → Writing Unit
  | ⟨table, columns, values⟩ =>
    if columns.isEmpty then refuse .insertWithoutValues
    else if columns.length ≠ values.length then refuse (.insertUneven columns.length values.length)
    else do
      pushKeyword "INSERT INTO"
      pushText " "
      writeExpr table
      pushText " "
      grouped true (writeJoined "," columns)
      pushSpaced "VALUES"
      grouped true (writeJoined "," values)

def writeUpdate : Update Expr → Writing Unit
  | ⟨table, assignments, condition⟩ =>
    if assignments.isEmpty then refuse .updateWithoutSet
    else do
      pushKeyword "UPDATE"
      pushText " "
      writeExpr table
      pushSpaced "SET"
      writeJoined ", " assignments
      writeGuarded .update condition

def writeDelete : Delete Expr → Writing Unit
  | ⟨table, condition⟩ => do
    pushKeyword "DELETE FROM"
    pushText " "
    writeExpr table
    writeGuarded .delete condition

end

end Writing

/-- Writes a tree as far as it goes. -/
def Writer.writeExpr (w : Writer) (e : Expr) : Writer × Option Error :=
  (Writing.writeExpr e).outcome w

/-- What is written, unless writing failed. -/
def Writer.result : Writer × Option Error → Except Error Rendered
  | (w, none) => .ok w.rendered
  | (_, some error) => .error error

/-- The text and the arguments of a tree. -/
def Expr.render (e : Expr) (d : Dialect) (style : ParamStyle) : Except Error Rendered := do
  let w ← Writer.start d style
  Writer.result (w.writeExpr e)

end Sql
