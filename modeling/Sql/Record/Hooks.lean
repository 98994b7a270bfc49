/-
Records, and the hooks that run around what is written about them.

A hook may change its record and may fail; a record that a failed hook has changed stays as the hook left it.
-/
import Sql.Error
import Sql.Value.Basic

namespace Sql

/-- What is done to the rows of records. -/
inductive WriteEvent where
  | insert
  | update
  | delete
deriving DecidableEq, Repr

def WriteEvent.text : WriteEvent → String
  | insert => "insert"
  | update => "update"
  | delete => "delete"

inductive Moment where
  | before
  | after
deriving DecidableEq, Repr

def Moment.text : Moment → String
  | before => "before"
  | after => "after"

/-- A hook on records of one type: the record that it leaves, and the error with which it fails. -/
abbrev Hook (ρ : Type) := ρ → ρ × Option Error

/-- Data with values for the columns of an entity, one after the other, and perhaps with hooks. -/
class Record (ρ : Type) where
  values : ρ → List Value
  hooks? : ρ → Option (Moment → WriteEvent → Hook ρ) := fun _ => none

namespace Record

variable {ρ : Type} [Record ρ]

/-- The value at a place; null past the end. -/
def valueAt (record : ρ) (place : Nat) : Value :=
  (values record)[place]?.getD .null

/-- Runs one hook of a record. -/
def runHook (moment : Moment) (event : WriteEvent) (record : ρ) : ρ × Option Error :=
  match hooks? record with
  | none => (record, none)
  | some hooks => hooks moment event record

/-- Runs one hook of each record in order, up to the first that fails. -/
def runHooks (moment : Moment) (event : WriteEvent) : List ρ → List ρ × Option Error
  | [] => ([], none)
  | record :: records =>
    match runHook moment event record with
    | (record, some error) => (record :: records, some error)
    | (record, none) =>
      let (records, outcome) := runHooks moment event records
      (record :: records, outcome)

theorem runHook_plain {moment : Moment} {event : WriteEvent} {record : ρ} (hplain : hooks? record = none) :
    runHook moment event record = (record, none) := by
  rw [runHook, hplain]

theorem runHooks_plain {moment : Moment} {event : WriteEvent} {records : List ρ}
    (hplain : ∀ record ∈ records, hooks? record = none) : runHooks moment event records = (records, none) := by
  induction records with
  | nil => rfl
  | cons record records ih =>
    obtain ⟨hrecord, hrecords⟩ := List.forall_mem_cons.1 hplain
    rw [runHooks, runHook_plain hrecord, ih hrecords]

end Record

end Sql
