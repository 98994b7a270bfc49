/-
Ways to build trees.
-/
import Sql.Expr.Basic
import Sql.Number.Digits

namespace Sql

open Number

namespace Expr

/-- A name without qualifiers. -/
def name (s : String) : Expr := .identifier [] s

/-- A parameter with a name. -/
def var (name : String) (value : Value) : Expr := .bound (some name) value

def null : Expr := .constant .null

/-- `*` -/
def star : Expr := .raw (.text "*")

def isNullConstant : Expr → Bool
  | .constant .null => true
  | _ => false

/-- `left op right`; against a NULL constant, equality and LIKE become IS, and inequality becomes IS NOT. -/
def compare (left : Expr) (op : BinaryOp) (right : Expr) : Binary Expr :=
  ⟨left, if right.isNullConstant then op.onNull else op, right⟩

def listOf (separator : Separator) (items : List Expr) : Expr :=
  .list ⟨separator, items, none, none⟩

/-- All conditions hold. -/
def allOf (items : List Expr) : Expr := listOf .and items

/-- Some condition holds. -/
def anyOf (items : List Expr) : Expr := listOf .or items

/-- `( v1,v2 )` -/
def setOf (items : List Expr) : Expr := .paren (listOf .comma items)

/-- `left IN ( v1,v2 )` -/
def isIn (left : Expr) (items : List Expr) : Binary Expr := ⟨left, .isIn, setOf items⟩

/-- `left NOT IN ( v1,v2 )` -/
def notIn (left : Expr) (items : List Expr) : Binary Expr := ⟨left, .notIn, setOf items⟩

/-- The parameter of one value of a list: `base_index`, without name if the base is empty. NULL is inlined. -/
def listParameter (base : String) (index : Nat) : Value → Expr
  | .null => null
  | v => if base.isEmpty then .bound none v else var (base ++ "_" ++ natText index) v

/-- The parameters of a list of values, numbered from 0; NULLs count. -/
def listParameters (base : String) (values : List Value) : List Expr :=
  values.mapIdx fun index v => listParameter base index v

/-- `COUNT(1)` -/
def countOne : Expr := .call "COUNT" [.raw (.int 1)]

/-- `COUNT(*)` -/
def countAll : Expr := .call "COUNT" [star]

/-- An expression with the word of a direction after it. -/
def sorted (direction : Direction) (e : Expr) : Expr :=
  .list ⟨.space, [e], none, some (.raw (.text direction.text))⟩

/-- Several expressions sorted in one direction. -/
def sortedBy (direction : Direction) (es : List Expr) : Expr :=
  listOf .comma (es.map (sorted direction))

end Expr

namespace Select

/-- Rows ordered by several expressions in one direction. -/
def sortBy (s : Select Expr) (direction : Direction) (es : List Expr) : Select Expr :=
  { s with orderBy := [Expr.sortedBy direction es] }

/-- The query for the number of rows: the same rows, neither ordered nor cut off. -/
def count (s : Select Expr) : Select Expr where
  columns := [Expr.countOne]
  source := s.source
  condition := s.condition
  groupBy := s.groupBy
  having := s.having

end Select

namespace Insert

/-- A column from the left side of each pair, its value from the right side. -/
def withPairs (i : Insert Expr) (pairs : List (Binary Expr)) : Insert Expr :=
  { i with columns := pairs.map (·.left), values := pairs.map (·.right) }

/-- One more column with its value. -/
def push (i : Insert Expr) (column value : Expr) : Insert Expr :=
  { i with columns := i.columns ++ [column], values := i.values ++ [value] }

end Insert

namespace Update

/-- Other assignments. -/
def withPairs (u : Update Expr) (pairs : List (Binary Expr)) : Update Expr :=
  { u with assignments := pairs.map .binary }

/-- One more assignment. -/
def push (u : Update Expr) (pair : Binary Expr) : Update Expr :=
  { u with assignments := u.assignments ++ [.binary pair] }

end Update

end Sql
