/-
Examples: records and maps whose fields stand for conditions.

An example counts as its JSON data, so values lose their kinds on the way, and fields that are null there say
nothing. Fields come in the order of their names.
-/
import Sql.Error
import Sql.Text.Snake
import Sql.Value.Json

namespace Sql

inductive Example where
  | data (json : Json)
  /-- A map with keys of any kind. -/
  | map (entries : List (Json × Value))

namespace Example

/-- The name that a key stands for. Nothing but texts, numbers and truth values can be a key. -/
def keyName : Json → Except ExampleFault String
  | .text s => .ok s
  | .null | .array _ | .object _ => .error .keyNotText
  | number => .ok number.compact

/-- The entries of a map as fields, up to the first key that is refused. -/
def namedEntries : List (Json × Value) → Except ExampleFault (List (String × Json))
  | [] => .ok []
  | (key, value) :: entries => do
    let name ← keyName key
    return (name, value.toJson) :: (← namedEntries entries)

def toJson : Example → Except ExampleFault Json
  | data json => .ok json
  | map entries => return Json.ofFields (← namedEntries entries)

/-- The fields of data that are not null, as values. Null itself has no fields. -/
def dataFields : Json → Except ExampleFault (List (String × Value))
  | .object fields => .ok <| fields.filterMap fun (name, json) =>
      if json.isNull then none else some (name, Value.ofJson json)
  | .null => .ok []
  | json => .error (.notARecord json.compact)

/-- The fields that say something, under the names that the example gives them. -/
def fields (x : Example) : Except Error (List (String × Value)) :=
  (x.toJson >>= dataFields).mapError .serialization

/-- The fields that say something, under names in snake case. Of fields that then share a name, the last in
the order of the names given counts. -/
def columnFields (x : Example) : Except Error (Bindings Value) := do
  return Bindings.ofList ((← x.fields).map fun (name, value) => (Text.snake name, value))

end Example

end Sql
