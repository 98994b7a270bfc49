/-
Families of shapes that flatten each other's records, and the fields that they have in the end.
-/
import Sql.Declaration.Shape
import Sql.Record.Fields

namespace Sql.Declaration

/-- Shapes that refer to each other by the names of their types. -/
abbrev Family := List Shape

namespace Family

def shape? (family : Family) (type : String) : Option Shape :=
  family.find? (·.name == type)

/-- The fields of a list, given the fields of the types that they flatten. -/
def fieldsOf? (flattened? : String → Option Fields) : List ShapeField → Option Fields
  | [] => some .none
  | .column name markers :: rest => return .column name markers (← fieldsOf? flattened? rest)
  | .flatten name type :: rest => return .nested name (← flattened? type) (← fieldsOf? flattened? rest)

/-- The fields of a type whose records are nested less deeply than a bound. -/
def fieldsBelow? (family : Family) : Nat → String → Option Fields
  | 0, _ => none
  | depth + 1, type => (family.shape? type).bind fun shape => fieldsOf? (fieldsBelow? family depth) shape.fields

/-- The fields of a type. A type is not there if it flattens itself, or one that is not there: the records of
all others are nested at most as deeply as there are shapes. -/
def fields? (family : Family) (type : String) : Option Fields :=
  family.fieldsBelow? family.length type

def recordType? (family : Family) (type : String) : Option RecordType := do
  let shape ← family.shape? type
  return { name := shape.name, table := shape.table, fields := ← family.fields? type }

/-- The types of a family, in its order. -/
def recordTypes (family : Family) : List RecordType :=
  family.filterMap fun shape => family.recordType? shape.name

/-- The entity of the first type whose records a table keeps. -/
def entityOf? (family : Family) (table : String) : Option Entity :=
  (family.recordTypes.map (·.entity)).find? (·.table == table)

end Family

end Sql.Declaration
