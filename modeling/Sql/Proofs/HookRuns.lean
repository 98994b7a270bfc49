/-
Runs of the hooks of records.

`HookRun` says what it means that hooks run one after the other, each at the place of its record. `insert_runs` says which
hooks an insertion runs and what becomes of the records: one after the other, each hook once, up to the first that
fails, and the statements are made of what the hooks have left.
-/
import Sql.Proofs.InsertedColumns

namespace Sql

theorem set_length_append (before : List α) (a b : α) (after : List α) :
    (before ++ a :: after).set before.length b = before ++ b :: after := by
  simp

namespace Record

variable {ρ : Type} [Record ρ] {moment : Moment} {event : WriteEvent}

/-- A run of hooks: the places of the records whose hooks run, in the order in which they do, the records before and after
it, and the error with which the last hook fails, if it does. -/
inductive HookRun (moment : Moment) (event : WriteEvent) : List Nat → List ρ → List ρ → Option Error → Prop where
  | done (records : List ρ) : HookRun moment event [] records records none
  | fail {place : Nat} {records : List ρ} {record record' : ρ} {hooks : Moment → WriteEvent → Hook ρ} {error : Error}
      (hrecord : records[place]? = some record) (hhooks : hooks? record = some hooks)
      (hhook : hooks moment event record = (record', some error)) :
      HookRun moment event [place] records (records.set place record') (some error)
  | next {place : Nat} {places : List Nat} {records records' : List ρ} {record record' : ρ}
      {hooks : Moment → WriteEvent → Hook ρ} {outcome : Option Error}
      (hrecord : records[place]? = some record) (hhooks : hooks? record = some hooks)
      (hhook : hooks moment event record = (record', none))
      (hrest : HookRun moment event places (records.set place record') records' outcome) :
      HookRun moment event (place :: places) records records' outcome

/-- A record as its hook leaves it. -/
def hooked (moment : Moment) (event : WriteEvent) (record : ρ) : ρ := (runHook moment event record).1

/-- The error with which the hook of a record fails. -/
def hookError? (moment : Moment) (event : WriteEvent) (record : ρ) : Option Error := (runHook moment event record).2

/-- The places of the records that have hooks, in order, where the first record has the given place. -/
def hookPlaces (start : Nat) (records : List ρ) : List Nat :=
  ((records.zipIdx start).filter fun entry => (hooks? entry.1).isSome).map (·.2)

theorem hookPlaces_append (start : Nat) (records records' : List ρ) :
    hookPlaces start (records ++ records') = hookPlaces start records ++ hookPlaces (start + records.length) records' := by
  rw [hookPlaces, hookPlaces, hookPlaces, List.zipIdx_append, List.filter_append, List.map_append]

theorem hookPlaces_cons (start : Nat) (record : ρ) (records : List ρ) :
    hookPlaces start (record :: records) = hookPlaces start [record] ++ hookPlaces (start + 1) records :=
  hookPlaces_append start [record] records

theorem hookPlaces_single (start : Nat) (record : ρ) :
    hookPlaces start [record] = if (hooks? record).isSome then [start] else [] := by
  cases h : (hooks? record).isSome <;> simp [hookPlaces, h]

/-! ## One hook -/

theorem HookRun.stop (before after : List ρ) {record : ρ} {error : Error}
    (herror : hookError? moment event record = some error) :
    HookRun moment event (hookPlaces before.length [record]) (before ++ record :: after)
      (before ++ hooked moment event record :: after) (some error) := by
  cases hhooks : hooks? record with
  | none =>
    rw [hookError?, runHook_plain hhooks] at herror
    cases herror
  | some hooks =>
    have hhook : hooks moment event record = (hooked moment event record, some error) := by
      rw [hooked, ← herror, hookError?, runHook, hhooks]
    have hrecord : (before ++ record :: after)[before.length]? = some record := by simp
    have hrun := HookRun.fail hrecord hhooks hhook
    rw [set_length_append] at hrun
    rw [hookPlaces_single, hhooks]
    exact hrun

theorem HookRun.pass (before after : List ρ) {records' : List ρ} {record : ρ} {places : List Nat}
    {outcome : Option Error} (herror : hookError? moment event record = none)
    (hrest : HookRun moment event places (before ++ hooked moment event record :: after) records' outcome) :
    HookRun moment event (hookPlaces before.length [record] ++ places) (before ++ record :: after) records' outcome := by
  cases hhooks : hooks? record with
  | none =>
    rw [hooked, runHook_plain hhooks] at hrest
    rw [hookPlaces_single, hhooks]
    exact hrest
  | some hooks =>
    have hhook : hooks moment event record = (hooked moment event record, none) := by
      rw [hooked, ← herror, hookError?, runHook, hhooks]
    have hrecord : (before ++ record :: after)[before.length]? = some record := by simp
    rw [← set_length_append before record] at hrest
    rw [hookPlaces_single, hhooks]
    exact .next hrecord hhooks hhook hrest

/-! ## The hooks of a list -/

/-- Hooks that do not fail run one after the other, before what runs behind them. -/
theorem HookRun.passAll (before after : List ρ) {passed records' : List ρ} {places : List Nat} {outcome : Option Error}
    (hpassed : ∀ record ∈ passed, hookError? moment event record = none)
    (hrest : HookRun moment event places (before ++ passed.map (hooked moment event) ++ after) records' outcome) :
    HookRun moment event (hookPlaces before.length passed ++ places) (before ++ passed ++ after) records' outcome := by
  induction passed generalizing before with
  | nil => exact hrest
  | cons record passed ih =>
    obtain ⟨herror, hpassed⟩ := List.forall_mem_cons.1 hpassed
    have hnext := ih (before ++ [hooked moment event record]) hpassed (by simpa using hrest)
    rw [hookPlaces_cons, List.append_assoc, List.append_assoc, List.cons_append]
    refine HookRun.pass before (passed ++ after) herror ?_
    simpa using hnext

theorem runHooks_of_first {passed after : List ρ} {record : ρ} {error : Error}
    (hpassed : ∀ record ∈ passed, hookError? moment event record = none)
    (herror : hookError? moment event record = some error) :
    runHooks moment event (passed ++ record :: after) =
      (passed.map (hooked moment event) ++ hooked moment event record :: after, some error) := by
  induction passed with
  | nil =>
    have hhook : runHook moment event record = (hooked moment event record, some error) := Prod.ext rfl herror
    rw [List.nil_append, runHooks, hhook]
    rfl
  | cons other passed ih =>
    obtain ⟨hother, hpassed⟩ := List.forall_mem_cons.1 hpassed
    have hhook : runHook moment event other = (hooked moment event other, none) := Prod.ext rfl hother
    rw [List.cons_append, runHooks, hhook, ih hpassed]
    rfl

theorem runHooks_of_all {records : List ρ} (hpassed : ∀ record ∈ records, hookError? moment event record = none) :
    runHooks moment event records = (records.map (hooked moment event), none) := by
  induction records with
  | nil => rfl
  | cons record records ih =>
    obtain ⟨hrecord, hpassed⟩ := List.forall_mem_cons.1 hpassed
    have hhook : runHook moment event record = (hooked moment event record, none) := Prod.ext rfl hrecord
    rw [runHooks, hhook, ih hpassed]
    rfl

end Record

namespace Entity

open Record

variable {ρ : Type} [Record ρ]

/-- **The hooks of an insertion.** Without records nothing runs. If a hook fails, the hooks of the records up to it have
run, each once and in order, its error is the result, and the records behind it are as they were. Otherwise all have run,
and each statement has the values of its record after the hook. -/
theorem insert_runs (e : Entity) :
    e.insert ([] : List ρ) = ([], .error (.invalidQuery .noRecords)) ∧
    (∀ (passed : List ρ) (record : ρ) (after : List ρ) (error : Error),
      (∀ other ∈ passed, hookError? .before .insert other = none) → hookError? .before .insert record = some error →
      e.insert (passed ++ record :: after) =
          (passed.map (hooked .before .insert) ++ hooked .before .insert record :: after, .error error) ∧
        HookRun .before .insert (hookPlaces 0 (passed ++ [record])) (passed ++ record :: after)
          (passed.map (hooked .before .insert) ++ hooked .before .insert record :: after) (some error)) ∧
    (∀ records : List ρ, records ≠ [] → (∀ record ∈ records, hookError? .before .insert record = none) →
      e.insert records = (records.map (hooked .before .insert), .ok (records.map fun record => {
          table := .name e.table
          columns := e.valueColumns.map fun entry => .name entry.1.name
          values := e.valueColumns.map fun entry =>
            .var entry.1.name ((values (hooked .before .insert record))[entry.2]?.getD .null) })) ∧
        HookRun .before .insert (hookPlaces 0 records) records (records.map (hooked .before .insert)) none) := by
  refine ⟨rfl, fun passed record after error hpassed herror => ⟨?_, ?_⟩, fun records hsome hpassed => ⟨?_, ?_⟩⟩
  · rw [insert, if_neg (by simp), runHooks_of_first hpassed herror]
  · have hstop := HookRun.stop (passed.map (hooked .before .insert)) after herror
    rw [List.length_map] at hstop
    have hrun := HookRun.passAll [] (record :: after) hpassed hstop
    rw [hookPlaces_append, Nat.zero_add]
    exact hrun
  · have hstatements : (records.map (hooked .before .insert)).map e.insertOne =
        records.map fun record => e.insertOne (hooked .before .insert record) := List.map_map
    rw [insert, if_neg (by simpa using hsome), runHooks_of_all hpassed]
    simp only [hstatements, insertOne_eq]
    rfl
  · have hrun := HookRun.passAll [] [] hpassed (HookRun.done _)
    simpa using hrun

/-- A user whose hook asks for a name and writes a note before an insertion. -/
def greetedUser (name : String) : RuledRecord where
  entity := scoredUsers
  values := [.int 9, .int 1, .text name, .null]
  rules? := some [(⟨.before, .insert⟩, [.rejectIfZero "user_name" "no name", .assign "note" (.text "new")])]

/-- A user without hooks, one whose hook succeeds, one without a name, and one who comes too late. Without the last two
all hooks succeed, and the notes that they write are inserted. -/
theorem insert_runs_namelessUser :
    (∃ records, scoredUsers.insert
        [{ greetedUser "eve" with rules? := none }, greetedUser "ann", greetedUser "", greetedUser "bob"] =
          (records, .error (.hook "no name")) ∧
      records.map (·.calls) = [[], [⟨.before, .insert⟩], [⟨.before, .insert⟩], []] ∧
      records.map (·.values[3]?) = [some .null, some (.text "new"), some .null, some .null] ∧
      HookRun .before .insert [1, 2]
        [{ greetedUser "eve" with rules? := none }, greetedUser "ann", greetedUser "", greetedUser "bob"]
        records (some (.hook "no name"))) ∧
    ∃ records eve ann, scoredUsers.insert [{ greetedUser "eve" with rules? := none }, greetedUser "ann"] =
          (records, .ok [eve, ann]) ∧
      records.map (·.calls) = [[], [⟨.before, .insert⟩]] ∧
      eve.values = [.var "user_name" (.text "eve"), .var "note" .null] ∧
      ann.values = [.var "user_name" (.text "ann"), .var "note" (.text "new")] ∧
      HookRun .before .insert [1] [{ greetedUser "eve" with rules? := none }, greetedUser "ann"] records none := by
  obtain ⟨-, hfailing, hpassing⟩ := insert_runs (ρ := RuledRecord) scoredUsers
  obtain ⟨hrefused, hstopped⟩ := hfailing [{ greetedUser "eve" with rules? := none }, greetedUser "ann"] (greetedUser "")
    [greetedUser "bob"] (.hook "no name") (by decide) (by decide)
  obtain ⟨hinsert, hrun⟩ := hpassing [{ greetedUser "eve" with rules? := none }, greetedUser "ann"]
    (List.cons_ne_nil _ _) (by decide)
  exact ⟨⟨_, hrefused, by decide, by decide, hstopped⟩, _, _, _, hinsert, by decide, rfl, rfl, hrun⟩

end Entity

end Sql
