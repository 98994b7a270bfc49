/-
Why a statement, a rendering, an entity or a record is refused. Each cause is a constructor; `Error.message`
is the only place that words them.
-/
import Sql.Number.Digits

namespace Sql

open Number

/-- The special columns of an entity. -/
inductive KeyKind where
  | primary
  | tenant
  | softDelete
deriving DecidableEq, Repr

def KeyKind.text : KeyKind → String
  | .primary => "primary key"
  | .tenant => "tenant key"
  | .softDelete => "soft-delete key"

/-- The statements whose rows a WHERE clause guards. -/
inductive WriteVerb where
  | update
  | delete
deriving DecidableEq, Repr

def WriteVerb.text : WriteVerb → String
  | .update => "UPDATE"
  | .delete => "DELETE"

/-- What is wrong with a statement. -/
inductive QueryFault where
  | selectWithoutSource
  | insertWithoutValues
  | insertUneven (columns values : Nat)
  | updateWithoutSet
  | emptyWhere (verb : WriteVerb)
  /-- A unary operator over a condition that tests nothing. -/
  | emptyOperand (operator : String)
  | noRecords
  | noIds (table : String)
  | custom (message : String)
deriving DecidableEq, Repr

def QueryFault.message : QueryFault → String
  | .selectWithoutSource => "SELECT requires a FROM target"
  | .insertWithoutValues => "INSERT requires at least one value"
  | .insertUneven columns values => "INSERT has " ++ natText columns ++ " columns but " ++ natText values ++ " values"
  | .updateWithoutSet => "UPDATE requires at least one SET"
  | .emptyWhere verb => verb.text ++ " has an empty WHERE condition"
  | .emptyOperand operator => operator ++ " over an empty condition"
  | .noRecords => "no records to insert"
  | .noIds table => "no ids given for '" ++ table ++ "'"
  | .custom message => message

/-- What is wrong with an example of a record. -/
inductive ExampleFault where
  | keyNotText
  /-- Data that has no fields, with its JSON text. -/
  | notARecord (json : String)
deriving DecidableEq, Repr

def ExampleFault.message : ExampleFault → String
  | .keyNotText => "key must be a string"
  | .notARecord json => "expected a record or map, got " ++ json

/-- Names and words that do not fit an entity or a clause. -/
inductive ValidationFault where
  | notAColumn (key table : String)
  | notUpdatable (field table : String)
  | noColumn (column : String)
  | sortDirection (direction : String)
  | custom (message : String)
deriving DecidableEq, Repr

def ValidationFault.message : ValidationFault → String
  | .notAColumn key table => "'" ++ key ++ "' is not a column of '" ++ table ++ "'"
  | .notUpdatable field table => "'" ++ field ++ "' is not an updatable column of '" ++ table ++ "'"
  | .noColumn column => "no column " ++ column
  | .sortDirection direction => "invalid sort direction '" ++ direction ++ "'"
  | .custom message => message

inductive Error where
  | invalidQuery (fault : QueryFault)
  | unnamedParameter
  | conflictingParameter (name : String)
  /-- The dialect has no named parameters. -/
  | unsupportedStyle (dialect : String)
  | unknownMarker (marker : String)
  /-- Two columns of one table hold the same key. -/
  | ambiguousKey (table : String) (kind : KeyKind) (first second : String)
  | missingKey (table : String) (kind : KeyKind)
  | unknownDialect (name : String)
  | serialization (fault : ExampleFault)
  | hook (message : String)
  | validation (fault : ValidationFault)
deriving DecidableEq, Repr

namespace Error

def message : Error → String
  | .invalidQuery fault => "Invalid query: " ++ fault.message
  | .unnamedParameter => "Unnamed bound value cannot be rendered with named parameters"
  | .conflictingParameter name => "Parameter '" ++ name ++ "' is bound to conflicting values"
  | .unsupportedStyle dialect => "Dialect '" ++ dialect ++ "' does not support named parameters"
  | .unknownMarker marker => "Unknown column marker '" ++ marker ++ "'"
  | .ambiguousKey table kind first second =>
    "Table '" ++ table ++ "' declares more than one " ++ kind.text ++ ": '" ++ first ++ "' and '" ++ second ++ "'"
  | .missingKey table kind => "Table '" ++ table ++ "' has no " ++ kind.text
  | .unknownDialect name => "Unknown dialect: " ++ name
  | .serialization fault => "Serialization error: " ++ fault.message
  | .hook message => "Hook error: " ++ message
  | .validation fault => "Validation error: " ++ fault.message

def isInvalidQuery : Error → Bool
  | .invalidQuery _ => true
  | _ => false

def isAmbiguousKey : Error → Bool
  | .ambiguousKey .. => true
  | _ => false

end Error

end Sql
