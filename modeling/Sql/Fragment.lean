/-
Fragments of SQL text to be put into statements that are written by hand. Values are inlined as literals, or
stand as parameters under the names of their columns.
-/
import Sql.Column
import Sql.Example
import Sql.Rewrite
import Sql.Value.Literal

namespace Sql

/-- The direction that a word names, in any case and with blanks around it, or else the word in capitals. -/
def Direction.ofWord (word : String) : Except String Direction :=
  match Text.upperAscii (Text.trim word) with
  | "ASC" => .ok .ascending
  | "DESC" => .ok .descending
  | other => .error other

namespace Fragment

/-- The test of one column against a value that is shown in a given way. -/
def test (d : Dialect) (shown : String → Value → String) (column : String) (value : Value) : String :=
  d.quote column ++ (if value.isPattern then d.spaced "LIKE" else "=") ++ shown column value

/-- A WHERE clause of tests joined by a word, between blanks; nothing for an example that says nothing. -/
def conditions (d : Dialect) (joiner : String) (shown : String → Value → String) (x : Example) :
    Except Error String := do
  let fields ← x.columnFields
  return if fields.isEmpty then ""
    else d.spaced "WHERE" ++
      (d.spaced joiner).intercalate (fields.entries.map fun (column, value) => test d shown column value) ++ " "

/-- All tests hold; values are inlined. -/
def conditionsAll (d : Dialect) (x : Example) : Except Error String :=
  conditions d "AND" (fun _ value => value.literal d) x

/-- Some test holds; values are inlined. -/
def conditionsAny (d : Dialect) (x : Example) : Except Error String :=
  conditions d "OR" (fun _ value => value.literal d) x

/-- All tests hold; values are parameters. -/
def conditionsNamed (d : Dialect) (x : Example) : Except Error String :=
  conditions d "AND" (fun column _ => d.namedParameter column) x

def commaJoined (texts : List String) : String := ",".intercalate texts

/-- The columns that inserts and updates write. -/
def columns (d : Dialect) (cs : List Column) : String :=
  commaJoined ((cs.filter (·.isValueColumn)).map fun c => d.quote c.name)

/-- The columns that are not ignored. -/
def allColumns (d : Dialect) (cs : List Column) : String :=
  commaJoined ((cs.filter (!·.ignored)).map fun c => d.quote c.name)

/-- The parameters for `columns`. -/
def parameters (d : Dialect) (cs : List Column) : String :=
  commaJoined ((cs.filter (·.isValueColumn)).map fun c => d.namedParameter c.name)

/-- The assignments of `parameters` to `columns`. -/
def assignments (d : Dialect) (cs : List Column) : String :=
  commaJoined ((cs.filter (·.isValueColumn)).map fun c => d.quote c.name ++ "=" ++ d.namedParameter c.name)

def sortItem (d : Dialect) (column : String) (direction : Direction) : String :=
  d.quote (Text.snake column) ++ " " ++ d.keyword direction.text

/-- The items of an ORDER BY clause, up to the first word that names no direction. -/
def sortItems (d : Dialect) : List (String × String) → Except Error (List String)
  | [] => .ok []
  | (column, word) :: order => do
    let direction ← (Direction.ofWord word).mapError fun word => .validation (.sortDirection word)
    return sortItem d column direction :: (← sortItems d order)

/-- An ORDER BY clause between blanks, from columns with words for their directions; nothing for no columns. -/
def orderBy (d : Dialect) (order : List (String × String)) : Except Error String := do
  let items ← sortItems d order
  return if items.isEmpty then "" else d.spaced "ORDER BY" ++ commaJoined items ++ " "

/-- Literals with commas between them. -/
def literals (d : Dialect) (values : List Value) : String :=
  commaJoined (values.map (·.literal d))

end Fragment

end Sql
