/-
Why the declaration of a record is refused.
-/
namespace Sql.Declaration

/-- The attributes whose text has to be an identifier. -/
inductive NameKind where
  | table
  | column
deriving DecidableEq, Repr

def NameKind.text : NameKind → String
  | table => "table"
  | column => "column"

inductive Fault where
  | generic
  | unnamedFields
  | notAStruct
  | noFields
  | noArguments
  | notAnIdentifier
  | reservedWord (word : String)
  | functionStyle
  | notALiteral
  | missingLiteral
  | missingComma
  | notABoolean (key : String)
  | notAText (key : String)
  | missingText (key : String)
  | notASqlName (kind : NameKind)
  | unknownStructKey (key : String)
  | unknownFieldKey (key : String)
  | unknownMarker (marker : String)
  | flattenNotAlone
deriving DecidableEq, Repr

namespace Fault

def between (before name after : String) : String := before ++ name ++ after

def message : Fault → String
  | generic => "Record cannot be derived for generic types"
  | unnamedFields => "Record can only be derived for structs with named fields"
  | notAStruct => "Record can only be derived for structs"
  | noFields => "Record requires at least one field"
  | noArguments => "expected attribute arguments in parentheses: #[dbx(...)]"
  | notAnIdentifier => "expected identifier"
  | reservedWord word => between "expected identifier, found keyword \x60" word "\x60"
  | functionStyle => "unexpected function-style attribute"
  | notALiteral => "expected literal"
  | missingLiteral => "unexpected end of input, expected literal"
  | missingComma => "expected \x60,\x60"
  | notABoolean key => between "\x60" key "\x60 expects a boolean"
  | notAText key => between "\x60" key "\x60 expects a string"
  | missingText key => between "\x60" key "\x60 requires a value: " ++ key ++ " = \x22...\x22"
  | notASqlName kind => kind.text ++ " must be a valid SQL identifier (expected [A-Za-z_][A-Za-z0-9_]*)"
  | unknownStructKey key => between "unknown struct attribute \x60" key "\x60"
  | unknownFieldKey key => between "unknown field attribute \x60" key "\x60"
  | unknownMarker marker => between "unknown marker '" marker "' (expected primaryKey, _, tenantKey or softDelete)"
  | flattenNotAlone => "\x60flatten\x60 cannot be combined with other attributes"

end Fault

end Sql.Declaration
