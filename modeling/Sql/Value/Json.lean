/-
Values as JSON data, and JSON data as values.

The way there loses kinds: bytes become an array of numbers, and timestamps, decimals and other values become
texts. A number that is not finite becomes null.
-/
import Sql.Json.Basic
import Sql.Value.Basic

namespace Sql.Value

def toJson : Value → Json
  | .null => .null
  | .bool b => .bool b
  | .int n => .integer n.toInt
  | .uint n => .integer n.toNat
  | .float x => if x.isFinite then .float x else .null
  | .text s | .numeric s | .other s => .text s
  | .bytes bs => .array (bs.map fun b => .integer b.toNat)
  | .timestamp t => .text t.isoText

/-- Integers are signed if they can be; arrays and objects become their compact text. -/
def ofJson : Json → Value
  | .null => .null
  | .bool b => .bool b
  | .integer n => if n < Nat.pow 2 63 then .int (Int64.ofInt n) else .uint (UInt64.ofNat n.toNat)
  | .float x => .float x
  | .text s => .text s
  | j => .other j.compact

end Sql.Value
