/-
Events for the log, as data.
-/
namespace Sql

inductive LogLevel where
  | debug
  | warn
deriving DecidableEq, Repr

/-- What an event is about. -/
inductive LogTopic where
  | statements
  | entities
deriving DecidableEq, Repr

/-- An event with its fields as text. -/
structure LogEvent where
  topic : LogTopic
  level : LogLevel
  fields : List (String × String)
deriving DecidableEq, Repr

end Sql
