/-
How a database spells identifiers, placeholders, keywords and literals.
-/
import Sql.Calendar.Pattern
import Sql.Error
import Sql.Quoting
import Sql.Text.Snake

namespace Sql

open Calendar

/-- How the number of rows is limited. -/
inductive Pagination where
  /-- `LIMIT n OFFSET m` -/
  | limitOffset
  /-- `OFFSET m ROWS FETCH NEXT n ROWS ONLY` -/
  | offsetFetch
deriving DecidableEq, Repr

/-- What is special between the quotes of a string literal. -/
inductive StringEscape where
  /-- A backslash begins an escape. -/
  | backslash
  /-- A quote is doubled, and nothing else is special. -/
  | doubled
deriving DecidableEq, Repr

structure Dialect where
  name : String
  /-- Whether parameters may be named at all. -/
  supportsNamed : Bool
  /-- Stands before the name of a parameter. -/
  nameMark : Char
  /-- Stands for a parameter without a name. -/
  placeholder : String
  openQuote : Char
  closeQuote : Char
  /-- The date pattern of timestamp literals, quotes included. -/
  datePattern : String
  /-- Words that the dialect replaces, each with its replacement. -/
  keywords : List (String × String)
  stringEscape : StringEscape
  pagination : Pagination
deriving DecidableEq, Repr

namespace Dialect

/-- Backtick quotes, `:name` parameters, backslash escapes. -/
def mysql : Dialect where
  name := "mysql"
  supportsNamed := true
  nameMark := ':'
  placeholder := "?"
  openQuote := '\x60'
  closeQuote := '\x60'
  datePattern := "'%Y-%m-%d %H:%M:%S'"
  keywords := []
  stringEscape := .backslash
  pagination := .limitOffset

/-- Bracket quotes, `@name` parameters, no literals for truth values. -/
def sqlServer : Dialect where
  name := "mssql"
  supportsNamed := true
  nameMark := '@'
  placeholder := "?"
  openQuote := '['
  closeQuote := ']'
  datePattern := "'%Y-%m-%d %H:%M:%S'"
  keywords := [("TRUE", "1"), ("FALSE", "0")]
  stringEscape := .doubled
  pagination := .offsetFetch

/-- The dialect of a driver, whose name may have any case and blanks around it. -/
def ofDriver (driver : String) : Except Error Dialect :=
  match Text.lowerAscii (Text.trim driver) with
  | "mysql" => .ok mysql
  | "mssql" | "sqlserver" | "sql_server" => .ok sqlServer
  | _ => .error (.unknownDialect driver)

/-- An identifier between the dialect's quotes; a closing quote inside is doubled. -/
def quoteChars (d : Dialect) (name : List Char) : List Char :=
  d.openQuote :: Quoting.double d.closeQuote name ++ [d.closeQuote]

def quote (d : Dialect) (name : String) : String :=
  String.ofList (d.quoteChars name.toList)

/-- A text between single quotes. -/
def literalChars (d : Dialect) (text : List Char) : List Char :=
  let body := match d.stringEscape with
    | .backslash => Quoting.backslash text
    | .doubled => Quoting.double '\x27' text
  '\x27' :: body ++ ['\x27']

def stringLiteral (d : Dialect) (text : String) : String :=
  String.ofList (d.literalChars text.toList)

/-- The dialect's word for a keyword: the first replacement that is listed, else the keyword itself. -/
def keyword (d : Dialect) (word : String) : String :=
  (d.keywords.lookup word).getD word

def spaced (d : Dialect) (word : String) : String :=
  " " ++ d.keyword word ++ " "

/-- A parameter under its name. -/
def namedParameter (d : Dialect) (name : String) : String :=
  String.singleton d.nameMark ++ name

def timestampLiteral (d : Dialect) (t : Timestamp) : String :=
  t.format d.datePattern

end Dialect

end Sql
