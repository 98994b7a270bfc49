/-
Declarations of records, and the shapes that they have: a table with columns and flattened records.

A declaration is refused for what it declares before its attributes are read, and the attributes of the
record are read before those of its fields, which are read in order.
-/
import Sql.Declaration.Meaning
import Sql.Declaration.TypeText

namespace Sql

namespace Declaration

structure DeclaredField where
  name : String
  type : String
  attributes : List Attribute := []
deriving DecidableEq, Repr

/-- A field under the last word of a text, before which its visibility may stand. -/
def DeclaredField.ofText (name type : String) (attributes : List Attribute) : DeclaredField :=
  { name := (((Lexeme.ofString name).filterMap Lexeme.word?).getLast?).getD name, type, attributes }

inductive Body where
  | namedFields (fields : List DeclaredField)
  /-- A struct with a tuple of fields, or with none. -/
  | otherStruct
  | notAStruct
deriving DecidableEq, Repr

/-- A field of a shape. -/
inductive ShapeField where
  | column (name : String) (markers : Markers)
  /-- A field that holds a record of a type, whose columns are columns of the shape. -/
  | flatten (name type : String)
deriving DecidableEq, Repr

/-- What a declaration says about records of a type. -/
structure Shape where
  name : String
  table : String
  hasHooks : Bool
  fields : List ShapeField
deriving DecidableEq, Repr

def DeclaredField.shape (f : DeclaredField) : Except Fault ShapeField := do
  let m ← FieldMeaning.ofAttributes f.attributes
  return if m.flatten then .flatten f.name (spacedType f.type) else .column f.name m.markers

end Declaration

open Declaration

structure Declaration where
  name : String
  isGeneric : Bool := false
  attributes : List Attribute := []
  body : Body
deriving DecidableEq, Repr

namespace Declaration

/-- Whether anything stands between the angle brackets of a head. -/
def hasParameters : List Lexeme → Bool
  | .sign '<' _ :: .sign '>' _ :: rest => hasParameters rest
  | .sign '<' _ :: _ => true
  | _ :: rest => hasParameters rest
  | [] => false

/-- A declaration under the first word of a text. -/
def ofText (name : String) (parameters : List String) (attributes : List Attribute) (body : Body) : Declaration :=
  let head := Lexeme.ofString name
  { name := ((head.filterMap Lexeme.word?).head?).getD name
    isGeneric := hasParameters head || parameters.any fun text => !(Lexeme.ofString text).isEmpty
    attributes, body }

/-- The fields of a declaration of which a record can be derived. -/
def namedFields (d : Declaration) : Except Fault (List DeclaredField) :=
  if d.isGeneric then .error .generic
  else
    match d.body with
    | .notAStruct => .error .notAStruct
    | .otherStruct => .error .unnamedFields
    | .namedFields [] => .error .noFields
    | .namedFields fields => .ok fields

/-- The table of a type whose attributes do not name one. -/
def defaultTable (name : String) : String :=
  String.ofList (Text.snakeSegment name.toList)

def shape (d : Declaration) : Except Fault Shape := do
  let fields ← d.namedFields
  let m ← StructMeaning.ofAttributes d.attributes
  return {
    name := d.name
    table := m.table.getD (defaultTable d.name)
    hasHooks := m.hasHooks
    fields := ← fields.mapM DeclaredField.shape }

end Declaration

end Sql
