/-
The statements that insert, change, remove and find the records of an entity.

Every value is bound under the name of its column, so the statements can be rendered in either style. The
statements that change a record run its hooks before they read its values; all that can be refused without
running a hook is refused first.
-/
import Sql.Criteria
import Sql.Record.Hooks

namespace Sql

/-- `column = value`, the value under the name of the column. -/
def Column.assign (c : Column) (value : Value) : Binary Expr :=
  Expr.compare (.name c.name) .eq (.var c.name value)

namespace Entity

variable {ρ : Type} [Record ρ]

def tableName (e : Entity) : Expr := .name e.table

/-- The columns that a SELECT statement reads. -/
def selectColumns (e : Entity) : List Expr :=
  e.mappedColumns.map fun c => .name c.name

/-- The INSERT statement for one record as it is. -/
def insertOne (e : Entity) (record : ρ) : Insert Expr :=
  ({ table := e.tableName } : Insert Expr).withPairs
    (e.valueColumns.map fun (c, place) => c.assign (Record.valueAt record place))

/-- One INSERT statement for each record, after its hook. -/
def insert (e : Entity) (records : List ρ) : List ρ × Except Error (List (Insert Expr)) :=
  if records.isEmpty then (records, .error (.invalidQuery .noRecords))
  else
    match Record.runHooks .before .insert records with
    | (records, some error) => (records, .error error)
    | (records, none) => (records, .ok (records.map e.insertOne))

/-- The assignment of a record's value to the column at a place. -/
def assignAt (e : Entity) (record : ρ) (place : Nat) : Option (Binary Expr) :=
  e.columns[place]?.map fun c => c.assign (Record.valueAt record place)

/-- The tests for the key of a record, and for its tenant if that is asked for. -/
def keyTests (e : Entity) (record : ρ) (withTenant : Bool) : List (Binary Expr) :=
  (e.keys.primary.bind (e.assignAt record)).toList ++
    (if withTenant then (e.keys.tenant.bind (e.assignAt record)).toList else [])

/-- The UPDATE statement for the columns of one record at the given places. -/
def updateOne (e : Entity) (record : ρ) (places : List Nat) (withTenant : Bool) : Update Expr :=
  ({ table := e.tableName, condition := some (.allOf ((e.keyTests record withTenant).map .binary)) } : Update Expr).withPairs
    (places.filterMap (e.assignAt record))

/-- Changes the columns at the given places, after the record's hook. -/
def updateColumns (e : Entity) (record : ρ) (places : List Nat) (withTenant : Bool) : ρ × Except Error (Update Expr) :=
  match e.require .primary with
  | .error error => (record, .error error)
  | .ok _ =>
    match Record.runHook .before .update record with
    | (record, some error) => (record, .error error)
    | (record, none) => (record, .ok (e.updateOne record places withTenant))

/-- The places of the columns that an update writes: the value columns without the tenant key. -/
def updatePlaces (e : Entity) : List Nat :=
  (e.valueColumns.map (·.2)).filter fun place => some place != e.keys.tenant

/-- Changes every column but the keys of the record and of its tenant. -/
def updateById (e : Entity) (record : ρ) (withTenant : Bool) : ρ × Except Error (Update Expr) :=
  e.updateColumns record e.updatePlaces withTenant

/-- The place of a column that may be changed under its name. -/
def updatablePlace (e : Entity) (name : String) : Except Error Nat :=
  let place? := (e.indexOf? name).filter fun place =>
    some place != e.keys.primary && !(e.columns[place]?.any (·.ignored))
  match place? with
  | some place => .ok place
  | none => .error (.validation (.notUpdatable name e.table))

/-- Changes some columns only: those that are named, or, if none is, those whose value is not null before the
hook runs. -/
def partialUpdate (e : Entity) (record : ρ) (names : List String) (withTenant : Bool) :
    ρ × Except Error (Update Expr) :=
  if names.isEmpty then
    e.updateColumns record (e.updatePlaces.filter fun place => !(Record.valueAt record place).isNull) withTenant
  else
    match names.mapM e.updatablePlace with
    | .error error => (record, .error error)
    | .ok places => e.updateColumns record places withTenant

/-- The test that the key is one of the ids, and that the tenant is the given one unless it is null. -/
def idCondition (e : Entity) (tenant : Value) (ids : List Value) : Except Error Expr := do
  let key ← e.require .primary
  if ids.isEmpty then throw (.invalidQuery (.noIds e.table))
  let byId := Expr.isIn (.name key.name) (Expr.listParameters key.name ids)
  match e.key? .tenant with
  | some c => return if tenant.isNull then byId else .allOf [byId, c.assign tenant]
  | none => return byId

/-- Removes rows from the table. -/
def eraseById (e : Entity) (tenant : Value) (ids : List Value) : Except Error Expr := do
  return .delete { table := e.tableName, condition := some (← e.idCondition tenant ids) }

/-- Marks rows as removed if the entity has a flag for that, and removes them from the table if not. -/
def deleteById (e : Entity) (tenant : Value) (ids : List Value) : Except Error Expr := do
  match e.key? .softDelete with
  | none => e.eraseById tenant ids
  | some flag =>
    return .update (({ table := e.tableName, condition := some (← e.idCondition tenant ids) } : Update Expr).withPairs
      [flag.assign (.bool true)])

def selectById (e : Entity) (tenant : Value) (ids : List Value) : Except Error (Select Expr) := do
  return { columns := e.selectColumns, source := some e.tableName, condition := some (← e.idCondition tenant ids) }

/-- The rows that criteria mean. -/
def selectBy (e : Entity) (c : Criteria) : Select Expr :=
  c.toSelect e.tableName e.selectColumns

def countBy (e : Entity) (c : Criteria) : Select Expr :=
  c.toCount e.tableName

/-- The rows that agree with a record in all columns that it sets. -/
def selectByExample (e : Entity) (record : ρ) : Select Expr :=
  e.selectBy (.ofRecord e (Record.values record))

def countByExample (e : Entity) (record : ρ) : Select Expr :=
  e.countBy (.ofRecord e (Record.values record))

/-- The rows that agree with all fields of an example. -/
def selectByFilter (e : Entity) (x : Example) : Except Error (Select Expr) := do
  return e.selectBy (← Criteria.ofFilter e x)

def countByFilter (e : Entity) (x : Example) : Except Error (Select Expr) := do
  return e.countBy (← Criteria.ofFilter e x)

end Entity

end Sql
