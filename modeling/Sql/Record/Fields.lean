/-
The fields of a type of records, some of which hold records themselves.

The columns of a nested record stand in the place of its field, and so do its values. An ignored field keeps
its place: its value is null.
-/
import Sql.Entity
import Sql.Record.Hooks

namespace Sql

inductive Fields where
  | none
  | column (name : String) (markers : Markers) (rest : Fields)
  /-- A field that holds a record. -/
  | nested (name : String) (inner rest : Fields)

namespace Fields

/-- The columns of the fields in order. -/
def columns : Fields → List Column
  | none => []
  | column name markers rest => Column.ofField name markers :: rest.columns
  | nested _ inner rest => inner.columns ++ rest.columns

/-- What a record with these fields holds: a value for each column, and a record for each nested field. -/
def Content : Fields → Type
  | none => Unit
  | column _ _ rest => Value × rest.Content
  | nested _ inner rest => inner.Content × rest.Content

/-- The values of a record in the order of the columns. -/
def values : (fields : Fields) → fields.Content → List Value
  | none, () => []
  | column _ markers rest, (value, content) =>
    (if markers.ignored then .null else value) :: rest.values content
  | nested _ inner rest, (record, content) => inner.values record ++ rest.values content

end Fields

/-- A type of records, with the table that keeps them. -/
structure RecordType where
  name : String
  table : String
  fields : Fields

def RecordType.entity (t : RecordType) : Entity :=
  .ofColumns t.table t.fields.columns

/-- A record of a type, without hooks. -/
structure PlainRecord (t : RecordType) where
  content : t.fields.Content

instance (t : RecordType) : Record (PlainRecord t) where
  values record := t.fields.values record.content

end Sql
