/-
Updates that are refused, and when the hook of a record runs.

All that can be refused without the hook is refused before it: first the names, in their order, then an entity without
primary key. `updates_refuse_first` says so, that a record of which nothing is written stays as it is, and that in all other
cases the hook runs once and only its error is left to refuse the update.
-/
import Sql.Proofs.HookRuns
import Sql.Proofs.UpdatedColumns

namespace Sql

namespace Entity

open Record

variable {ρ : Type} [Record ρ] {e : Entity} {record : ρ} {name : String} {names : List String} {place : Nat}
  {places : List Nat} {withTenant : Bool}

/-- A name under which no column may be changed: no column answers to it, or the first that does holds the primary key or is
ignored. -/
def RefusesName (e : Entity) (name : String) : Prop :=
  e.indexOf? name = none ∨
    ∃ place, e.indexOf? name = some place ∧
      (e.keys.primary = some place ∨ ∃ c, e.columns[place]? = some c ∧ c.ignored = true)

/-- What comes of an update once the hook of its record has run: the error of the hook, or a statement. -/
inductive HookedOnce (record : ρ) : ρ × Except Error (Update Expr) → Prop where
  | failed {record' : ρ} {error : Error}
      (hrun : HookRun .before .update (hookPlaces 0 [record]) [record] [record'] (some error)) :
      HookedOnce record (record', .error error)
  | written {record' : ρ} {u : Update Expr}
      (hrun : HookRun .before .update (hookPlaces 0 [record]) [record] [record'] none) :
      HookedOnce record (record', .ok u)

/-! ## Names -/

theorem refusesName_iff : e.RefusesName name ↔ ∀ place, e.updatablePlace name ≠ .ok place := by
  cases hindex : e.indexOf? name with
  | none => simp [RefusesName, updatablePlace_eq_ok, hindex]
  | some place =>
    obtain ⟨c, hc, hcolumn⟩ := column?_of_indexOf? hindex
    simp only [RefusesName, ne_eq, updatablePlace_eq_ok, hindex, hcolumn, Option.mem_some_iff, forall_eq']
    grind

theorem updatablePlace_of_refusesName (h : e.RefusesName name) :
    e.updatablePlace name = .error (.validation (.notUpdatable name e.table)) := by
  have hplace := refusesName_iff.1 h
  revert hplace
  unfold updatablePlace
  dsimp only
  split
  · next place _ => exact fun hplace => absurd rfl (hplace place)
  · exact fun _ => rfl

theorem exists_updatablePlace (h : ¬ e.RefusesName name) : ∃ place, e.updatablePlace name = .ok place := by
  simpa [refusesName_iff] using h

/-- The first name that is refused is the one that is reported. -/
theorem mapM_updatablePlace_of_first {before after : List String} (hbefore : ∀ other ∈ before, ¬ e.RefusesName other)
    (hname : e.RefusesName name) :
    (before ++ name :: after).mapM e.updatablePlace = .error (.validation (.notUpdatable name e.table)) := by
  induction before with
  | nil =>
    rw [List.nil_append, List.mapM_cons, updatablePlace_of_refusesName hname]
    rfl
  | cons other before ih =>
    obtain ⟨hother, hbefore⟩ := List.forall_mem_cons.1 hbefore
    obtain ⟨place, hplace⟩ := exists_updatablePlace hother
    rw [List.cons_append, List.mapM_cons, hplace, ih hbefore]
    rfl

theorem exists_mapM_updatablePlace (h : ∀ name ∈ names, ¬ e.RefusesName name) :
    ∃ places, names.mapM e.updatablePlace = .ok places := by
  induction names with
  | nil => exact ⟨[], rfl⟩
  | cons name names ih =>
    obtain ⟨hname, hnames⟩ := List.forall_mem_cons.1 h
    obtain ⟨place, hplace⟩ := exists_updatablePlace hname
    obtain ⟨places, hplaces⟩ := ih hnames
    refine ⟨place :: places, ?_⟩
    rw [List.mapM_cons, hplace, hplaces]
    rfl

theorem exists_partialPlaces (record : ρ) (h : ∀ name ∈ names, ¬ e.RefusesName name) :
    ∃ places, e.partialPlaces record names = .ok places := by
  unfold partialPlaces
  split
  · exact ⟨_, rfl⟩
  · exact exists_mapM_updatablePlace h

/-! ## Hooks -/

/-- Without a primary key nothing runs. -/
theorem updateColumns_of_no_key (hkey : e.key? .primary = none) :
    e.updateColumns record places withTenant = (record, .error (.missingKey e.table .primary)) := by
  rw [updateColumns, require, hkey]

/-- With a primary key the hook runs, and nothing but its error refuses the update. -/
theorem updateColumns_hookedOnce (hkey : e.key? .primary ≠ none) (record : ρ) (places : List Nat) (withTenant : Bool) :
    HookedOnce record (e.updateColumns record places withTenant) := by
  obtain ⟨key, hkey⟩ := Option.ne_none_iff_exists'.1 hkey
  have hrequire : e.require .primary = .ok key := by rw [require, hkey]
  cases herror : hookError? .before .update record with
  | none =>
    have hhook : runHook .before .update record = (hooked .before .update record, none) := Prod.ext rfl herror
    rw [updateColumns, hrequire, hhook]
    refine .written ?_
    simpa using HookRun.pass [] [] herror (HookRun.done _)
  | some error =>
    have hhook : runHook .before .update record = (hooked .before .update record, some error) := Prod.ext rfl herror
    rw [updateColumns, hrequire, hhook]
    exact .failed (HookRun.stop [] [] herror)

/-- **What is refused before the hook.** The first name under which no column may be changed refuses a partial update, and
a missing primary key refuses all others; the record stays as it is. In all other cases its hook runs once. -/
theorem updates_refuse_first (e : Entity) (record : ρ) (names : List String) (withTenant : Bool) :
    (∀ before name after, names = before ++ name :: after → (∀ other ∈ before, ¬ e.RefusesName other) →
      e.RefusesName name →
      e.partialUpdate record names withTenant = (record, .error (.validation (.notUpdatable name e.table)))) ∧
    (e.key? .primary = none →
      e.updateById record withTenant = (record, .error (.missingKey e.table .primary)) ∧
      ((∀ name ∈ names, ¬ e.RefusesName name) →
        e.partialUpdate record names withTenant = (record, .error (.missingKey e.table .primary)))) ∧
    (e.key? .primary ≠ none →
      HookedOnce record (e.updateById record withTenant) ∧
      ((∀ name ∈ names, ¬ e.RefusesName name) → HookedOnce record (e.partialUpdate record names withTenant))) := by
  refine ⟨?_, fun hkey => ⟨updateColumns_of_no_key hkey, fun hnames => ?_⟩,
    fun hkey => ⟨updateColumns_hookedOnce hkey record _ _, fun hnames => ?_⟩⟩
  · rintro before name after rfl hbefore hname
    have hplaces : e.partialPlaces record (before ++ name :: after) = .error (.validation (.notUpdatable name e.table)) := by
      rw [partialPlaces, if_neg (by simp), mapM_updatablePlace_of_first hbefore hname]
    rw [partialUpdate_eq, hplaces]
  · obtain ⟨places, hplaces⟩ := exists_partialPlaces record hnames
    rw [partialUpdate_eq, hplaces]
    exact updateColumns_of_no_key hkey
  · obtain ⟨places, hplaces⟩ := exists_partialPlaces record hnames
    rw [partialUpdate_eq, hplaces]
    exact updateColumns_hookedOnce hkey record places withTenant

/-- The key among the names refuses the update before the hook; without it the hook runs, and so it does where it fails. -/
theorem updates_refuse_first_key :
    notedUsers.partialUpdate (namelessUser [.assign "note" (.text "y")]) ["note", "id", "missing"] false =
        (namelessUser [.assign "note" (.text "y")], .error (.validation (.notUpdatable "id" "user"))) ∧
      HookedOnce (namelessUser [.assign "note" (.text "y")])
        (notedUsers.partialUpdate (namelessUser [.assign "note" (.text "y")]) ["note"] false) ∧
      HookedOnce (namelessUser [.rejectIfZero "name" "no name"])
        (notedUsers.updateById (namelessUser [.rejectIfZero "name" "no name"]) false) := by
  have hnote : ¬ notedUsers.RefusesName "note" := fun h => refusesName_iff.1 h 2 rfl
  have hkey : notedUsers.key? .primary ≠ none := by decide
  refine ⟨?_, ?_, ?_⟩
  · exact (updates_refuse_first notedUsers _ _ false).1 ["note"] "id" ["missing"] rfl (by simpa using hnote)
      (.inr ⟨0, rfl, .inl rfl⟩)
  · exact ((updates_refuse_first notedUsers _ _ false).2.2 hkey).2 (by simpa using hnote)
  · exact ((updates_refuse_first notedUsers _ [] false).2.2 hkey).1

/-- The hook has run once, and its error is the result. -/
example :
    let result := notedUsers.updateById (namelessUser [.rejectIfZero "name" "no name"]) false
    result.1.calls = [⟨.before, .update⟩] ∧ result.2.toOption.isNone = true :=
  ⟨rfl, rfl⟩

end Entity

end Sql
