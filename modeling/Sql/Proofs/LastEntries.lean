/-
Bindings that are made from a list.

Of entries with one name the last counts (`get?_ofList_eq_some_iff`). Entries that are in order already stay as they
are, and a change of values can be made before or after.
-/
import Sql.Bindings

namespace Sql.Bindings

variable {α β : Type} {name : String} {value : α}

theorem get?_insert (b : Bindings α) (name : String) (value : α) (name' : String) :
    (b.insert name value).get? name' = if name' = name then some value else b.get? name' := by
  by_cases h : name' = name
  · rw [if_pos h, h, get?_insert_self]
  · rw [if_neg h, get?_insert_other b value h]

theorem insertAll_cons (b : Bindings α) (entry : String × α) (entries : List (String × α)) :
    b.insertAll (entry :: entries) = (b.insert entry.1 entry.2).insertAll entries := rfl

/-- A name holds what the last entry with this name says, else what it held before. -/
theorem get?_insertAll (b : Bindings α) (entries : List (String × α)) (name : String) :
    (b.insertAll entries).get? name = (entries.reverse.lookup name).or (b.get? name) := by
  induction entries generalizing b with
  | nil => rfl
  | cons entry entries ih =>
    obtain ⟨name', value⟩ := entry
    rw [insertAll_cons, ih, get?_insert, List.reverse_cons, List.lookup_append, Option.or_assoc]
    congr 1
    by_cases h : name = name'
    · simp [h]
    · have hne : (name == name') = false := by simpa using h
      simp [List.lookup_cons, h, hne]

/-- **Of entries with one name the last counts.** -/
theorem get?_ofList_eq_some_iff {entries : List (String × α)} :
    (ofList entries).get? name = some value ↔
      ∃ before after, entries = before ++ (name, value) :: after ∧ ∀ later ∈ after, later.1 ≠ name := by
  have hempty : (empty : Bindings α).get? name = none := rfl
  have hother (entry : String × α) : (name != entry.1) = true ↔ entry.1 ≠ name := by rw [bne_iff_ne, ne_comm]
  simp only [ofList, get?_insertAll, hempty, Option.or_none, List.lookup_eq_some_iff, hother]
  constructor
  · rintro ⟨after, before, hentries, hafter⟩
    refine ⟨before.reverse, after.reverse, ?_, fun later hlater => hafter later (List.mem_reverse.1 hlater)⟩
    rw [← List.reverse_reverse entries, hentries]
    simp
  · rintro ⟨before, after, rfl, hafter⟩
    exact ⟨after.reverse, before.reverse, by simp, fun later hlater => hafter later (List.mem_reverse.1 hlater)⟩

/-- Bindings with the same entries are the same. -/
theorem ext_of_mem {b b' : Bindings α} (h : ∀ entry, entry ∈ b.entries ↔ entry ∈ b'.entries) : b = b' := by
  have hnodup (b : Bindings α) : b.entries.Nodup :=
    (List.pairwise_map.1 b.names_nodup).imp fun hne heq => hne (congrArg _ heq)
  have hperm : b.entries.Perm b'.entries := (List.perm_ext_iff_of_nodup (hnodup b) (hnodup b')).2 h
  have hentries : b.entries = b'.entries := by
    refine hperm.eq_of_pairwise (fun _ _ _ _ hlt hgt => ?_) b.sorted b'.sorted
    exact absurd (String.lt_trans hlt hgt) (String.lt_irrefl _)
  cases b
  cases b'
  cases hentries
  rfl

theorem mem_of_mem_ofList {entries : List (String × α)} {entry : String × α} (h : entry ∈ (ofList entries).entries) :
    entry ∈ entries := by
  obtain ⟨before, after, rfl, -⟩ := get?_ofList_eq_some_iff.1 (get?_eq_some_iff.2 h)
  exact List.mem_append_right _ List.mem_cons_self

/-- No name is lost. -/
theorem mem_names_ofList {entries : List (String × α)} :
    name ∈ (ofList entries).entries.map (·.1) ↔ name ∈ entries.map (·.1) := by
  constructor
  · intro h
    obtain ⟨entry, hentry, rfl⟩ := List.mem_map.1 h
    exact List.mem_map_of_mem (mem_of_mem_ofList hentry)
  · intro h
    cases hget : (ofList entries).get? name with
    | some value => exact List.mem_map.2 ⟨(name, value), get?_eq_some_iff.1 hget, rfl⟩
    | none =>
      obtain ⟨entry, hentry, rfl⟩ := List.mem_map.1 h
      have hlookup : entries.reverse.lookup entry.1 = none := by
        rw [ofList, get?_insertAll] at hget
        exact (Option.or_eq_none_iff.1 hget).1
      have hother := List.lookup_eq_none_iff.1 hlookup entry (List.mem_reverse.2 hentry)
      exact absurd rfl (bne_iff_ne.1 hother)

theorem entries_ofList_eq_nil_iff {entries : List (String × α)} : (ofList entries).entries = [] ↔ entries = [] := by
  constructor
  · intro hnone
    rcases List.eq_nil_or_concat entries with hnil | ⟨before, last, hlast⟩
    · exact hnil
    · have hget : (ofList entries).get? last.1 = some last.2 :=
        get?_ofList_eq_some_iff.2 ⟨before, [], hlast.trans List.concat_eq_append, List.forall_mem_nil _⟩
      rw [get?_eq_some_iff, hnone] at hget
      exact absurd hget List.not_mem_nil
  · rintro rfl
    rfl

/-- Where each name stands once, every entry counts. -/
theorem mem_entries_ofList {entries : List (String × α)} (hnames : (entries.map (·.1)).Nodup) {entry : String × α} :
    entry ∈ (ofList entries).entries ↔ entry ∈ entries := by
  refine ⟨mem_of_mem_ofList, fun hmem => ?_⟩
  obtain ⟨before, after, rfl⟩ := List.append_of_mem hmem
  refine get?_eq_some_iff.1 (get?_ofList_eq_some_iff.2 ⟨before, after, rfl, fun later hlater hname => ?_⟩)
  rw [List.map_append, List.nodup_append, List.map_cons, List.nodup_cons] at hnames
  exact hnames.2.1.1 (List.mem_map.2 ⟨later, hlater, hname⟩)

/-! ## Entries in order -/

theorem putEntry_last {entries : List (String × α)} (h : ∀ entry ∈ entries, entry.1 < name) :
    putEntry name value entries = entries ++ [(name, value)] := by
  induction entries with
  | nil => rfl
  | cons head rest ih =>
    obtain ⟨hhead, hrest⟩ := List.forall_mem_cons.1 h
    have hlt : ¬ name < head.1 := fun hlt => String.lt_irrefl _ (String.lt_trans hlt hhead)
    have hne : name ≠ head.1 := fun heq => String.lt_irrefl _ (heq ▸ hhead)
    rw [putEntry, if_neg hlt, if_neg hne, ih hrest, List.cons_append]

theorem entries_insertAll {b : Bindings α} {entries : List (String × α)} (hsorted : Sorted (b.entries ++ entries)) :
    (b.insertAll entries).entries = b.entries ++ entries := by
  induction entries generalizing b with
  | nil => simp [insertAll]
  | cons entry entries ih =>
    have hstep : b.entries ++ entry :: entries = b.entries ++ [entry] ++ entries := by simp
    have hlast : (b.insert entry.1 entry.2).entries = b.entries ++ [entry] := by
      refine putEntry_last fun earlier hearlier => ?_
      exact (List.pairwise_append.1 hsorted).2.2 earlier hearlier entry List.mem_cons_self
    rw [hstep, ← hlast] at hsorted
    rw [insertAll_cons, ih hsorted, hlast, hstep]

theorem ofList_entries (b : Bindings α) : ofList b.entries = b := by
  have hentries : (ofList b.entries).entries = b.entries := entries_insertAll b.sorted
  exact ext_of_mem fun entry => by rw [hentries]

theorem insertAll_append (b : Bindings α) (entries entries' : List (String × α)) :
    b.insertAll (entries ++ entries') = (b.insertAll entries).insertAll entries' := List.foldl_append

/-- What bindings hold counts as given before the entries that are put in. -/
theorem insertAll_eq_ofList (b : Bindings α) (entries : List (String × α)) :
    b.insertAll entries = ofList (b.entries ++ entries) := by
  have hheld : empty.insertAll b.entries = b := ofList_entries b
  rw [ofList, insertAll_append, hheld]

/-! ## Other values -/

theorem putEntry_map (f : α → β) (name : String) (value : α) (entries : List (String × α)) :
    putEntry name (f value) (entries.map fun entry => (entry.1, f entry.2)) =
      (putEntry name value entries).map fun entry => (entry.1, f entry.2) := by
  induction entries with
  | nil => rfl
  | cons head rest ih =>
    simp only [List.map_cons, putEntry]
    split
    · rfl
    · split
      · rfl
      · rw [ih, List.map_cons]

theorem entries_ofList_map (f : α → β) (entries : List (String × α)) :
    (ofList (entries.map fun entry => (entry.1, f entry.2))).entries =
      (ofList entries).entries.map fun entry => (entry.1, f entry.2) := by
  have hall (b : Bindings α) (b' : Bindings β) (h : b'.entries = b.entries.map fun entry => (entry.1, f entry.2)) :
      (b'.insertAll (entries.map fun entry => (entry.1, f entry.2))).entries =
        (b.insertAll entries).entries.map fun entry => (entry.1, f entry.2) := by
    induction entries generalizing b b' with
    | nil => exact h
    | cons entry entries ih =>
      rw [List.map_cons, insertAll_cons, insertAll_cons]
      refine ih _ _ ?_
      have hput := putEntry_map f entry.1 entry.2 b.entries
      rwa [← h] at hput
  exact hall empty empty rfl

end Sql.Bindings
