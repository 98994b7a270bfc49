/-
Columns of a table, and the markers that a declared field can have.

What a marker does not say, the name of the column decides: `id` is a primary key, `tenant_id` a tenant key
and `is_deleted` a soft-delete flag.
-/
import Sql.Error
import Sql.Text.Snake

namespace Sql

/-- The words of a list of markers. -/
inductive Marker where
  | primaryKey
  | tenantKey
  | softDelete
  | ignored
deriving DecidableEq, Repr

def Marker.ofWord? : String → Option Marker
  | "primaryKey" => some primaryKey
  | "tenantKey" => some tenantKey
  | "softDelete" => some softDelete
  | "_" => some ignored
  | _ => none

/-- The entries of a list with commas, without the blanks around them and without blank entries. -/
def markerWords (tag : String) : List String :=
  ((Text.segments (· == ',') tag.toList).map fun cs => String.ofList (Text.trimChars cs)).filter (!·.isEmpty)

/-- What is said about a field. A flag that is absent is left to the name of the column. -/
structure Markers where
  primaryKey : Option Bool := none
  tenantKey : Option Bool := none
  softDelete : Option Bool := none
  ignored : Bool := false
  column : Option String := none
deriving DecidableEq, Repr

namespace Markers

def add (m : Markers) : Marker → Markers
  | .primaryKey => { m with primaryKey := some true }
  | .tenantKey => { m with tenantKey := some true }
  | .softDelete => { m with softDelete := some true }
  | .ignored => { m with ignored := true }

/-- Adds the markers of a list of words. The first word that is no marker is refused. -/
def addWords (m : Markers) : List String → Except String Markers
  | [] => .ok m
  | word :: words =>
    match Marker.ofWord? word with
    | some marker => (m.add marker).addWords words
    | none => .error word

/-- The markers of a list with commas. -/
def parse (tag : String) : Except Error Markers :=
  ({} : Markers).addWords (markerWords tag) |>.mapError .unknownMarker

end Markers

structure Column where
  field : String
  name : String
  isPrimaryKey : Bool
  isTenantKey : Bool
  isSoftDelete : Bool
  ignored : Bool
deriving DecidableEq, Repr

namespace Column

/-- The column of a field, named after the field in snake case unless the markers name it. -/
def ofField (field : String) (m : Markers) : Column :=
  let name := m.column.getD (Text.snake field)
  { field, name
    isPrimaryKey := m.primaryKey.getD (name == "id")
    isTenantKey := m.tenantKey.getD (name == "tenant_id")
    isSoftDelete := m.softDelete.getD (name == "is_deleted")
    ignored := m.ignored }

/-- Whether inserts and updates write the column. -/
def isValueColumn (c : Column) : Bool :=
  !c.ignored && !c.isPrimaryKey

theorem isValueColumn_iff {c : Column} : c.isValueColumn = true ↔ c.ignored = false ∧ c.isPrimaryKey = false := by
  simp [isValueColumn]

def isKey (c : Column) : KeyKind → Bool
  | .primary => c.isPrimaryKey
  | .tenant => c.isTenantKey
  | .softDelete => c.isSoftDelete

/-- Whether a name is that of the column or of its field. -/
def answersTo (c : Column) (name : String) : Bool :=
  c.name == name || c.field == name

end Column

end Sql
