/-
Records whose hooks are lists of rules on their columns.
-/
import Sql.Entity
import Sql.Record.Hooks

namespace Sql

inductive Rule where
  /-- Fails with a message if the column is null or zero. -/
  | rejectIfZero (column message : String)
  | assign (column : String) (value : Value)

def Rule.column : Rule → String
  | rejectIfZero column _ | assign column _ => column

/-- The values of a record after a rule. The column of the rule must have a value. -/
def Rule.apply (e : Entity) (values : List Value) (rule : Rule) : Except Error (List Value) :=
  match (e.indexOf? rule.column).bind fun place => values[place]?.map fun value => (place, value) with
  | none => .error (.validation (.noColumn rule.column))
  | some (place, value) =>
    match rule with
    | .rejectIfZero _ message => if value.isNull || value.isZero then .error (.hook message) else .ok values
    | .assign _ value => .ok (values.set place value)

/-- The values of a record after rules in order, up to the first that fails. -/
def Rule.applyAll (e : Entity) (values : List Value) : List Rule → List Value × Option Error
  | [] => (values, none)
  | rule :: rules =>
    match rule.apply e values with
    | .ok values => applyAll e values rules
    | .error error => (values, some error)

structure HookName where
  moment : Moment
  event : WriteEvent
deriving DecidableEq, Repr

/-- `before_insert` -/
def HookName.text (h : HookName) : String :=
  h.moment.text ++ "_" ++ h.event.text

def HookName.all : List HookName :=
  [Moment.before, .after].flatMap fun moment => [WriteEvent.insert, .update, .delete].map fun event => ⟨moment, event⟩

/-- A record that keeps the names of the hooks that it has run. -/
structure RuledRecord where
  entity : Entity
  values : List Value
  /-- The rules of each hook; a hook without entry does nothing and is not kept. -/
  rules? : Option (List (HookName × List Rule)) := none
  calls : List HookName := []

namespace RuledRecord

/-- Runs the hook of a name by the given rules. -/
def run (rules : List (HookName × List Rule)) (hook : HookName) : Hook RuledRecord := fun record =>
  match rules.lookup hook with
  | none => (record, none)
  | some rules =>
    let (values, outcome) := Rule.applyAll record.entity record.values rules
    ({ record with values, calls := record.calls ++ [hook] }, outcome)

instance : Record RuledRecord where
  values := RuledRecord.values
  hooks? record := record.rules?.map fun rules moment event => run rules ⟨moment, event⟩

end RuledRecord

end Sql
