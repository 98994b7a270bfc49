/-
Partial updates without a list of columns.

The columns are chosen before the hook of the record runs and their values are read after it: `partialUpdate_reads` says
what is assigned, and that this is what the record holds after its hook only if the hook keeps null what is null.
-/
import Sql.Entity.Statements
import Sql.Record.Rules

namespace Sql

variable {ρ : Type} [Record ρ] {e : Entity}

/-- Whether a record has a value at a place. -/
def Record.isSetAt (record : ρ) (place : Nat) : Bool := !((Record.values record)[place]?.getD .null).isNull

namespace Entity

/-- The columns that an update may assign, with their places: all but ignored ones and keys of records and tenants. -/
def settable (e : Entity) : List (Column × Nat) :=
  e.columns.zipIdx.filter fun entry =>
    !entry.1.ignored && !entry.1.isPrimaryKey && some entry.2 != e.keys.tenant

/-- The values of a record for the settable columns at chosen places, in the order of columns. -/
def assignments (e : Entity) (record : ρ) (chosen : Nat → Bool) : List Expr :=
  (e.settable.filter fun entry => chosen entry.2).map fun entry =>
    .binary (entry.1.assign ((Record.values record)[entry.2]?.getD .null))

theorem settable_eq (e : Entity) :
    e.settable = e.valueColumns.filter fun entry => some entry.2 != e.keys.tenant := by
  rw [settable, valueColumns, List.filter_filter]
  exact List.filter_congr fun entry _ => Bool.and_comm _ _

theorem updatePlaces_eq (e : Entity) : e.updatePlaces = e.settable.map (·.2) := by
  rw [updatePlaces, settable_eq, List.filter_map]
  rfl

theorem assignAt_of_mem_settable (record : ρ) {entry : Column × Nat} (h : entry ∈ e.settable) :
    e.assignAt record entry.2 = some (entry.1.assign (Record.valueAt record entry.2)) := by
  have hplace : e.columns[entry.2]? = some entry.1 := List.mem_zipIdx_iff_getElem?.1 (List.mem_filter.1 h).1
  rw [assignAt, hplace, Option.map_some]

theorem filterMap_assignAt (record : ρ) {entries : List (Column × Nat)} (h : ∀ entry ∈ entries, entry ∈ e.settable) :
    (entries.map (·.2)).filterMap (e.assignAt record) =
      entries.map fun entry => entry.1.assign (Record.valueAt record entry.2) := by
  induction entries with
  | nil => rfl
  | cons entry entries ih =>
    obtain ⟨hentry, hentries⟩ := List.forall_mem_cons.1 h
    rw [List.map_cons, List.filterMap_cons_some (assignAt_of_mem_settable record hentry), ih hentries, List.map_cons]

theorem assignments_updateOne (record : ρ) (chosen : Nat → Bool) (withTenant : Bool) :
    (e.updateOne record (e.updatePlaces.filter chosen) withTenant).assignments = e.assignments record chosen := by
  have hchosen : ∀ entry ∈ e.settable.filter (chosen ∘ (·.2)), entry ∈ e.settable :=
    fun entry hentry => (List.mem_filter.1 hentry).1
  rw [updateOne, updatePlaces_eq, List.filter_map, Update.withPairs, filterMap_assignAt record hchosen, List.map_map]
  rfl

end Entity

/-! ## What assignments say about their values -/

theorem Column.assign_value_eq {c c' : Column} {value value' : Value}
    (h : Expr.binary (c.assign value) = .binary (c'.assign value')) : value = value' := by
  injection h with h
  injection h with _ _ hright
  injection hright

/-- If two choices from a list give the same results, and the second has all that the first has, they are the same. -/
theorem choices_eq {α β : Type} {l : List α} {p q : α → Bool} {f : α → β} (hsub : ∀ a ∈ l, p a = true → q a = true)
    (h : (l.filter p).map f = (l.filter q).map f) : ∀ a ∈ l, p a = q a := by
  have hpq : (l.filter q).filter p = l.filter p := by
    rw [List.filter_filter]
    refine List.filter_congr fun a ha => ?_
    cases hp : p a with
    | false => rfl
    | true => rw [hsub a ha hp, Bool.and_self]
  have hsame : l.filter p = l.filter q := by
    refine List.Sublist.eq_of_length (hpq ▸ List.filter_sublist) ?_
    simpa using congrArg List.length h
  intro a ha
  rw [Bool.eq_iff_iff]
  constructor
  · exact hsub a ha
  · intro hq
    have hmem : a ∈ l.filter p := hsame ▸ List.mem_filter.2 ⟨ha, hq⟩
    exact (List.mem_filter.1 hmem).2

/-- Two choices of places give the same assignments of what is set exactly if they agree on all settable columns. -/
theorem assignments_eq_iff (record : ρ) (chosen : Nat → Bool) :
    e.assignments record chosen = e.assignments record (Record.isSetAt record) ↔
      ∀ entry ∈ e.settable, chosen entry.2 = Record.isSetAt record entry.2 := by
  constructor
  · intro h
    refine choices_eq (fun entry hentry hchosen => ?_) h
    have hmem : Expr.binary (entry.1.assign ((Record.values record)[entry.2]?.getD .null)) ∈
        e.assignments record (Record.isSetAt record) := by
      rw [← h]
      exact List.mem_map_of_mem (List.mem_filter.2 ⟨hentry, hchosen⟩)
    obtain ⟨other, hother, hassign⟩ := List.mem_map.1 hmem
    have hset := (List.mem_filter.1 hother).2
    rwa [Record.isSetAt, Column.assign_value_eq hassign] at hset
  · intro h
    rw [Entity.assignments, Entity.assignments, List.filter_congr h]

/-- **What a partial update assigns**: to the columns that were set before the hook, the values that they have after it.
These are the columns that are set after the hook exactly if the hook has set none that was null and made none null. -/
theorem partialUpdate_reads {key : Column} (hkey : e.key? .primary = some key) (record : ρ) {record' : ρ}
    (hhook : Record.runHook .before .update record = (record', none)) (withTenant : Bool) :
    ∃ u, e.partialUpdate record [] withTenant = (record', .ok u) ∧ u.table = e.tableName ∧
      u.assignments = e.assignments record' (Record.isSetAt record) ∧
      u.condition = some (.allOf ((e.keyTests record' withTenant).map .binary)) ∧
      (u.assignments = e.assignments record' (Record.isSetAt record') ↔
        ∀ entry ∈ e.settable, Record.isSetAt record entry.2 = Record.isSetAt record' entry.2) := by
  have hupdate : e.partialUpdate record [] withTenant =
      (record', .ok (e.updateOne record' (e.updatePlaces.filter (Record.isSetAt record)) withTenant)) := by
    simp only [Entity.partialUpdate, List.isEmpty_nil, if_true, Entity.updateColumns, Entity.require, hkey, hhook]
    rfl
  refine ⟨_, hupdate, rfl, Entity.assignments_updateOne record' _ withTenant, rfl, ?_⟩
  rw [Entity.assignments_updateOne]
  exact assignments_eq_iff record' _

/-- Users with a name and a note. -/
def notedUsers : Entity := .ofColumns "user" [.ofField "id" {}, .ofField "name" {}, .ofField "note" {}]

/-- A user without a name, and the rules that its hook follows before an update. -/
def namelessUser (rules : List Rule) : RuledRecord where
  entity := notedUsers
  values := [.int 1, .null, .text "x"]
  rules? := some [(⟨.before, .update⟩, rules)]

/-- A hook that changes a note that was there already. -/
theorem partialUpdate_reads_changedNote :
    ∃ record' u, notedUsers.partialUpdate (namelessUser [.assign "note" (.text "y")]) [] false = (record', .ok u) ∧
      u.assignments = [.binary (Column.assign (.ofField "note" {}) (.text "y"))] := by
  have hkey : notedUsers.key? .primary = some (.ofField "id" {}) := by decide
  obtain ⟨u, hu, -, hassignments, -⟩ := partialUpdate_reads hkey (namelessUser [.assign "note" (.text "y")]) rfl false
  exact ⟨_, u, hu, hassignments⟩

/-- A hook that fills in the name and drops the note: the name is not written, and the note is overwritten with null. -/
theorem partialUpdate_droppedNote :
    ∃ record' u, notedUsers.partialUpdate (namelessUser [.assign "name" (.text "bob"), .assign "note" .null]) [] false =
        (record', .ok u) ∧
      u.assignments = [.binary (Column.assign (.ofField "note" {}) .null)] ∧
      notedUsers.assignments record' (Record.isSetAt record') =
        [.binary (Column.assign (.ofField "name" {}) (.text "bob"))] :=
  ⟨_, _, rfl, rfl, rfl⟩

end Sql
