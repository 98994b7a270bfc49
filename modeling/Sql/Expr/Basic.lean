/-
Trees of SQL statements and of the expressions in them.

A tree says what a statement means for any dialect; quotes, placeholders and keywords are decided when it is
turned into text. The clauses of statements are structures over the type of their parts, so that one
inductive type closes the loop.
-/
import Sql.Value.Basic

namespace Sql

inductive BinaryOp where
  | eq
  | ne
  | gt
  | ge
  | lt
  | le
  | like
  | notLike
  | isIn
  | notIn
  | is
  | isNot
  | custom (text : String)
deriving DecidableEq, Repr

namespace BinaryOp

def text : BinaryOp → String
  | eq => "="
  | ne => "!="
  | gt => ">"
  | ge => ">="
  | lt => "<"
  | le => "<="
  | like => "LIKE"
  | notLike => "NOT LIKE"
  | isIn => "IN"
  | notIn => "NOT IN"
  | is => "IS"
  | isNot => "IS NOT"
  | custom text => text

/-- Operators that begin with a letter are keywords and stand between blanks. -/
def isKeyword (op : BinaryOp) : Bool :=
  op.text.toList.head?.any Char.isAlpha

/-- A test of a value against a set. -/
def isMembership (op : BinaryOp) : Bool :=
  op = isIn ∨ op = notIn

/-- The operator that tests for NULL in place of one that compares. -/
def onNull : BinaryOp → BinaryOp
  | ne => isNot
  | eq | like => is
  | op => op

end BinaryOp

inductive UnaryOp where
  | not
  | exists
  | custom (text : String)
deriving DecidableEq, Repr

def UnaryOp.text : UnaryOp → String
  | not => "NOT"
  | «exists» => "EXISTS"
  | custom text => text

/-- What stands between the items of a list. -/
inductive Separator where
  | and
  | or
  | comma
  | space
deriving DecidableEq, Repr

/-- The items are conditions. -/
def Separator.isLogical : Separator → Bool
  | and | or => true
  | comma | space => false

inductive Direction where
  | ascending
  | descending
deriving DecidableEq, Repr

def Direction.text : Direction → String
  | ascending => "ASC"
  | descending => "DESC"

/-- `left op right` -/
structure Binary (ε : Type) where
  left : ε
  op : BinaryOp
  right : ε

/-- Items with a separator, after a leading part and before a trailing one. -/
structure Listing (ε : Type) where
  separator : Separator
  items : List ε
  lead : Option ε := none
  trail : Option ε := none

/-- A SELECT statement. No columns stand for all of them. -/
structure Select (ε : Type) where
  columns : List ε
  source : Option ε := none
  condition : Option ε := none
  groupBy : Option ε := none
  having : Option ε := none
  orderBy : List ε := []
  limit : Option UInt64 := none
  offset : Option UInt64 := none
  /-- Whether the number of all rows is asked for by a second query. -/
  withCount : Bool := false

/-- An INSERT statement with as many values as columns. -/
structure Insert (ε : Type) where
  table : ε
  columns : List ε := []
  values : List ε := []

/-- An UPDATE statement. The items of its SET list are mostly pairs of a column and its value, but may be any trees. -/
structure Update (ε : Type) where
  table : ε
  assignments : List ε := []
  condition : Option ε := none

structure Delete (ε : Type) where
  table : ε
  condition : Option ε := none

inductive Expr where
  /-- A name behind the names that qualify it. -/
  | identifier (qualifiers : List String) (name : String)
  /-- A literal. -/
  | constant (value : Value)
  /-- A parameter; it needs a name where parameters are named. -/
  | bound (name : Option String) (value : Value)
  /-- A value as SQL text, neither quoted nor escaped. -/
  | raw (value : Value)
  | binary (b : Binary Expr)
  | unary (op : UnaryOp) (operand : Expr)
  | list (l : Listing Expr)
  | call (function : String) (args : List Expr)
  | between (operand low high : Expr)
  | alias (expr : Expr) (name : String)
  | paren (inner : Expr)
  | select (s : Select Expr)
  | insert (i : Insert Expr)
  | update (u : Update Expr)
  | delete (d : Delete Expr)

instance : Inhabited Expr := ⟨.constant .null⟩

instance : Coe (Binary Expr) Expr := ⟨.binary⟩

namespace Expr

def isStatement : Expr → Bool
  | select _ | insert _ | update _ | delete _ => true
  | _ => false

/-- Whether the tree is a statement that can have a WHERE clause. -/
def hasConditionSlot : Expr → Bool
  | select _ | update _ | delete _ => true
  | _ => false

/-- The WHERE clause of a statement. -/
def condition? : Expr → Option Expr
  | select s => s.condition
  | update u => u.condition
  | delete d => d.condition
  | _ => none

/-- A statement with its WHERE clause changed; other trees stay as they are. -/
def mapCondition (f : Option Expr → Option Expr) : Expr → Expr
  | select s => select { s with condition := f s.condition }
  | update u => update { u with condition := f u.condition }
  | delete d => delete { d with condition := f d.condition }
  | e => e

end Expr

end Sql
