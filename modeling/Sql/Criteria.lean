/-
Criteria: which rows of one table are meant, by the values of columns, and how they are ordered and cut off.

The conditions are kept in the order of their columns, so criteria with the same last value for every column
give the same statements.
-/
import Sql.Entity
import Sql.Example
import Sql.Rewrite

namespace Sql

structure Criteria where
  conditions : Bindings Value := .empty
  sortColumns : List String := []
  direction : Direction := .ascending
  /-- How many rows at most; no limit if 0. -/
  limit : UInt64 := 0
  offset : UInt64 := 0

namespace Criteria

/-- A column must have a value; the last value given for a column counts. -/
def withValue (c : Criteria) (column : String) (value : Value) : Criteria :=
  { c with conditions := c.conditions.insert column value }

def withValues (c : Criteria) (values : List (String × Value)) : Criteria :=
  { c with conditions := c.conditions.insertAll values }

/-- The conditions of an example, for columns named as its fields are in snake case. -/
def ofExample (x : Example) : Except Error Criteria := do
  return { conditions := ← x.columnFields }

/-- A value that says nothing about the rows that are meant. -/
def isUnset (value : Value) : Bool :=
  value.isNull || value.isZero

/-- The conditions of a record with the given values: those of its columns that are set. -/
def ofRecord (e : Entity) (values : List Value) : Criteria :=
  let set := (e.columns.zip values).filter fun (column, value) => !column.ignored && !isUnset value
  { conditions := .ofList (set.map fun (column, value) => (column.name, value)) }

/-- The column that a field of a filter means: by its name as it stands, else by that name in snake case. -/
def filterColumn (e : Entity) (name : String) : Except Error Column :=
  match e.column? name <|> e.column? (Text.snake name) with
  | some column => .ok column
  | none => .error (.validation (.notAColumn name e.table))

/-- The conditions of a filter's fields in order; those on ignored columns are left out. -/
def filterConditions (e : Entity) : List (String × Value) → Except Error (List (String × Value))
  | [] => .ok []
  | (name, value) :: fields => do
    let column ← filterColumn e name
    let rest ← filterConditions e fields
    return if column.ignored then rest else (column.name, value) :: rest

/-- The conditions of an example whose fields are columns of an entity. -/
def ofFilter (e : Entity) (x : Example) : Except Error Criteria := do
  let conditions ← filterConditions e (← x.fields)
  return { conditions := .ofList conditions }

def orderBy (c : Criteria) (columns : List String) : Criteria :=
  { c with sortColumns := columns }

/-- Sorted in one direction, by the columns as they were if none are given. -/
def sorted (c : Criteria) (direction : Direction) (columns : List String) : Criteria :=
  { c with direction, sortColumns := if columns.isEmpty then c.sortColumns else columns }

/-- The test of one column; the parameter has its name. -/
def test (column : String) (value : Value) : Binary Expr :=
  Expr.compare (.name column) .eq (if value.isNull then .null else .var column value)

/-- The WHERE clause, in which patterns are compared with LIKE. -/
def condition? (c : Criteria) : Option Expr :=
  if c.conditions.isEmpty then none
  else some (Expr.allOf (c.conditions.entries.map fun (column, value) => .binary (test column value))).fuzzy

/-- The rows that are meant. -/
def toSelect (c : Criteria) (table : Expr) (columns : List Expr) : Select Expr where
  columns := columns
  source := some table
  condition := c.condition?
  orderBy := if c.sortColumns.isEmpty then [] else [Expr.sortedBy c.direction (c.sortColumns.map Expr.name)]
  limit := if 0 < c.limit then some c.limit else none
  offset := if 0 < c.offset then some c.offset else none

/-- The number of the rows that are meant. -/
def toCount (c : Criteria) (table : Expr) : Select Expr :=
  (c.toSelect table []).count

end Criteria

end Sql
