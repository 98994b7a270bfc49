/-
What the entries of attributes say about a record and about its fields. Entries count in order; a later one
overrules an earlier one on the same flag or name.
-/
import Sql.Column
import Sql.Declaration.Attribute

namespace Sql.Declaration

/-- Letters, digits and underscores of ASCII, no digit first. -/
def isSqlName (name : List Char) : Bool :=
  match name with
  | [] => false
  | c :: cs => (c.isAlpha || c == '_') && cs.all fun c => c.isAlphanum || c == '_'

/-- The name in an entry, without the blanks around it. -/
def Entry.sqlName (e : Entry) (kind : NameKind) : Except Fault String := do
  let name := Text.trim (← e.text)
  if isSqlName name.toList then return name else throw (.notASqlName kind)

/-- What is said about a record as a whole. -/
structure StructMeaning where
  table : Option String := none
  hasHooks : Bool := false
deriving DecidableEq, Repr

def StructMeaning.add (m : StructMeaning) (e : Entry) : Except Fault StructMeaning :=
  match e.key with
  | "table" => return { m with table := some (← e.sqlName .table) }
  | "hooks" => return { m with hasHooks := ← e.flag }
  | key => .error (.unknownStructKey key)

def StructMeaning.ofAttributes (attributes : List Attribute) : Except Fault StructMeaning := do
  (← Entry.ofAttributes attributes).foldlM add {}

/-- What is said about a field. -/
structure FieldMeaning where
  markers : Markers := {}
  /-- The field holds a record whose columns are columns here. -/
  flatten : Bool := false
deriving DecidableEq, Repr

namespace FieldMeaning

/-- One word of a list of markers. -/
def applyMarker (m : FieldMeaning) (word : String) : Except Fault FieldMeaning :=
  match word with
  | "primaryKey" => .ok { m with markers.primaryKey := some true }
  | "_" => .ok { m with markers.ignored := true }
  | "tenantKey" => .ok { m with markers.tenantKey := some true }
  | "softDelete" => .ok { m with markers.softDelete := some true }
  | other => .error (.unknownMarker other)

/-- The words of a list of markers in order, up to the first that is none. -/
def applyMarkers (m : FieldMeaning) (tag : String) : Except Fault FieldMeaning :=
  (markerWords tag).foldlM applyMarker m

def add (m : FieldMeaning) (e : Entry) : Except Fault FieldMeaning :=
  match e.key with
  | "primary_key" => return { m with markers.primaryKey := some (← e.flag) }
  | "tenant_key" => return { m with markers.tenantKey := some (← e.flag) }
  | "soft_delete" => return { m with markers.softDelete := some (← e.flag) }
  | "ignore" => return { m with markers.ignored := ← e.flag }
  | "flatten" => return { m with flatten := ← e.flag }
  | "column" => return { m with markers.column := some (← e.sqlName .column) }
  | "markers" => do m.applyMarkers (← e.text)
  | key => .error (.unknownFieldKey key)

/-- The meaning of entries. One that flattens its field must not come with any other. -/
def ofEntries (entries : List Entry) : Except Fault FieldMeaning := do
  let m ← entries.foldlM add {}
  if m.flatten && entries.any (·.key != "flatten") then throw .flattenNotAlone
  return m

def ofAttributes (attributes : List Attribute) : Except Fault FieldMeaning := do
  ofEntries (← Entry.ofAttributes attributes)

end FieldMeaning

end Sql.Declaration
