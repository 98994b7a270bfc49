/-
Entities: a table with its columns and the places of its key columns.

The first column that claims a key holds it, and every further claim is kept as a duplicate, in the order of
columns and, within a column, of the kinds of keys. Ignored columns claim nothing.
-/
import Sql.Column
import Sql.LogEvent
import Sql.Number.Digits

namespace Sql

open Number

/-- Two places that claim one key. -/
structure Duplicate where
  kind : KeyKind
  first : Nat
  second : Nat
deriving DecidableEq, Repr

/-- The places of the key columns. -/
structure Keys where
  primary : Option Nat := none
  tenant : Option Nat := none
  softDelete : Option Nat := none
  duplicates : List Duplicate := []
deriving DecidableEq, Repr

namespace Keys

def get? (k : Keys) : KeyKind → Option Nat
  | .primary => k.primary
  | .tenant => k.tenant
  | .softDelete => k.softDelete

def set (k : Keys) (place : Nat) : KeyKind → Keys
  | .primary => { k with primary := some place }
  | .tenant => { k with tenant := some place }
  | .softDelete => { k with softDelete := some place }

/-- One more claim: the key if it is free, a duplicate if not. -/
def claim (k : Keys) (kind : KeyKind) (place : Nat) : Keys :=
  match k.get? kind with
  | none => k.set place kind
  | some first => { k with duplicates := k.duplicates ++ [⟨kind, first, place⟩] }

end Keys

/-- The kinds of keys that a column claims. -/
def Column.claims (c : Column) : List KeyKind :=
  if c.ignored then [] else [KeyKind.primary, .tenant, .softDelete].filter c.isKey

/-- All claims of a list of columns, the first of which has the given place. -/
def keyClaims (place : Nat) : List Column → List (KeyKind × Nat)
  | [] => []
  | c :: cs => (c.claims.map fun kind => (kind, place)) ++ keyClaims (place + 1) cs

structure Entity where
  table : String
  columns : List Column
  keys : Keys
deriving DecidableEq, Repr

namespace Entity

def ofColumns (table : String) (columns : List Column) : Entity where
  table := table
  columns := columns
  keys := (keyClaims 0 columns).foldl (fun keys (kind, place) => keys.claim kind place) {}

/-- The column that holds a key. -/
def key? (e : Entity) (kind : KeyKind) : Option Column :=
  (e.keys.get? kind).bind (e.columns[·]?)

def require (e : Entity) (kind : KeyKind) : Except Error Column :=
  match e.key? kind with
  | some c => .ok c
  | none => .error (.missingKey e.table kind)

/-- The first column with this name or this field. -/
def column? (e : Entity) (name : String) : Option Column :=
  e.columns.find? (·.answersTo name)

def indexOf? (e : Entity) (name : String) : Option Nat :=
  e.columns.findIdx? (·.answersTo name)

/-- The columns that are not ignored. -/
def mappedColumns (e : Entity) : List Column :=
  e.columns.filter (!·.ignored)

/-- The columns that inserts and updates write, with their places. -/
def valueColumns (e : Entity) : List (Column × Nat) :=
  e.columns.zipIdx.filter (·.1.isValueColumn)

/-- The name of the column at a place. -/
def nameAt (e : Entity) (place : Nat) : String :=
  (e.columns[place]?.map (·.name)).getD ""

/-- Refuses an entity with two columns for one key, and names the first such pair. -/
def validate (e : Entity) : Except Error Unit :=
  match e.keys.duplicates with
  | [] => .ok ()
  | d :: _ => .error (.ambiguousKey e.table d.kind (e.nameAt d.first) (e.nameAt d.second))

/-- `table(column, column)` -/
def describe (e : Entity) : String :=
  e.table ++ "(" ++ ", ".intercalate (e.mappedColumns.map (·.name)) ++ ")"

def duplicateEvent (e : Entity) (d : Duplicate) : LogEvent where
  topic := .entities
  level := .warn
  fields := [("table", e.table), ("kind", d.kind.text), ("first", e.nameAt d.first), ("second", e.nameAt d.second),
    ("message", "duplicate key marker, keeping the first")]

/-- What is logged when the entity is built. -/
def events (e : Entity) : List LogEvent :=
  e.keys.duplicates.map e.duplicateEvent ++
    [⟨.entities, .debug, [("table", e.table), ("columns", natText e.columns.length), ("message", "entity built")]⟩]

end Entity

end Sql
