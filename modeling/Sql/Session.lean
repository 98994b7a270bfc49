/-
Sessions tie a dialect and a style of parameters together, and log what they render.
-/
import Sql.LogEvent
import Sql.Writer

namespace Sql

open Number

/-- Settings as they are written down: a session whose dialect is the name of a driver. -/
structure Settings where
  name : String := "default"
  driver : String := Dialect.mysql.name
  named : Bool := false
  /-- How many characters of a statement are logged; all of them if absent. -/
  maxLogLength : Option Nat := some 200
deriving DecidableEq, Repr

namespace Settings

/-- One setting from JSON data: an absent one keeps its default, and one of the wrong type is refused. -/
def setting {α : Type} (default : α) (read : Json → Option α) : Option Json → Option α
  | none => some default
  | some j => read j

def readText : Json → Option String
  | .text s => some s
  | _ => none

def readBool : Json → Option Bool
  | .bool b => some b
  | _ => none

def readLength : Json → Option (Option Nat)
  | .null => some none
  | .integer n => if 0 ≤ n then some (some n.toNat) else none
  | _ => none

def ofParts (name driver named maxLogLength : Option Json) : Option Settings := do
  let initial : Settings := {}
  return {
    name := ← setting initial.name readText name
    driver := ← setting initial.driver readText driver
    named := ← setting initial.named readBool named
    maxLogLength := ← setting initial.maxLogLength readLength maxLogLength }

/-- Settings from an object, whose other fields are ignored, or from an array of up to four settings in order. -/
def ofJson? (j : Json) : Option Settings :=
  match j with
  | .object _ => ofParts (j.field? "name") (j.field? "driver") (j.field? "named") (j.field? "max_sql_log_len")
  | .array items => if 4 < items.length then none else ofParts items[0]? items[1]? items[2]? items[3]?
  | _ => none

/-- Settings as an object. -/
def toJson (s : Settings) : Json :=
  .ofFields [("name", .text s.name), ("driver", .text s.driver), ("named", .bool s.named),
    ("max_sql_log_len", match s.maxLogLength with | some n => .integer n | none => .null)]

end Settings

structure Session where
  name : String := "default"
  dialect : Dialect := .mysql
  style : ParamStyle := .positional
  maxLogLength : Option Nat := some 200

namespace Session

def ofSettings (s : Settings) : Except Error Session := do
  let dialect ← Dialect.ofDriver s.driver
  return { name := s.name, dialect, style := if s.named then .named else .positional, maxLogLength := s.maxLogLength }

def settings (s : Session) : Settings where
  name := s.name
  driver := s.dialect.name
  named := s.style = .named
  maxLogLength := s.maxLogLength

/-- A statement as the log shows it: cut off after the longest part that is logged, with dots in place of the
rest. -/
def logged (s : Session) (sql : String) : String :=
  match s.maxLogLength with
  | some n => if n < sql.length then String.ofList (sql.toList.take n) ++ "..." else sql
  | none => sql

def renderedEvent (s : Session) (r : Rendered) : LogEvent where
  topic := .statements
  level := .debug
  fields := [("context", s.name), ("dialect", s.dialect.name), ("style", r.style.text),
    ("arg_count", natText r.args.size), ("sql", s.logged r.sql)]

/-- The text and the arguments of a tree in a given style. What is refused is not logged. -/
def renderAs (s : Session) (e : Expr) (style : ParamStyle) : Except Error Rendered × List LogEvent :=
  match e.render s.dialect style with
  | .ok r => (.ok r, [s.renderedEvent r])
  | .error error => (.error error, [])

def render (s : Session) (e : Expr) : Except Error Rendered × List LogEvent :=
  s.renderAs e s.style

end Session

end Sql
