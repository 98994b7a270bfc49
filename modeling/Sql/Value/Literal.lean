/-
Values as SQL text: as literals, with strings quoted and escaped, or verbatim.
-/
import Sql.Dialect
import Sql.Number.Layout
import Sql.Text.Utf8
import Sql.Value.Basic

namespace Sql.Value

open Number

/-- Plain decimals reach from 0.0001 to sixteen digits before the point; positive exponents have no sign, and
of two equally near last digits the greater one is taken. -/
def floatLayout : FloatLayout := ⟨-4, 15, false, .up⟩

/-- A number with its name in place of digits if it is not finite. -/
def floatText (x : Double) : String :=
  if x.isNaN then "NaN"
  else if x.isFinite then String.ofList (floatLayout.finite x)
  else if x.isNegative then "-inf"
  else "inf"

/-- The text of a value without quotes or escapes. Numbers that are not finite have no SQL literal and stand
between quotes. -/
def raw (d : Dialect) : Value → String
  | .null => d.keyword "NULL"
  | .bool true => d.keyword "TRUE"
  | .bool false => d.keyword "FALSE"
  | .int n => intText n.toInt
  | .uint n => natText n.toNat
  | .float x => if x.isFinite then floatText x else "'" ++ floatText x ++ "'"
  | .text s | .numeric s | .other s => s
  | .bytes bs => Text.Utf8.decode bs
  | .timestamp t => d.timestampLiteral t

/-- The literal of a value. Texts, bytes and values of other kinds become string literals. -/
def literal (d : Dialect) : Value → String
  | .text s | .other s => d.stringLiteral s
  | .bytes bs => d.stringLiteral (Text.Utf8.decode bs)
  | v => v.raw d

end Sql.Value
