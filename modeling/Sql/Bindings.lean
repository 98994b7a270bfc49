/-
Finite maps from names to values, kept in the order of names.

`get?_insert_self` and `get?_insert_other` say what an insertion does; the order of the entries is part of
the type. Names are compared by code points, which is also the order of their UTF-8 bytes.
-/
namespace Sql

/-- Puts an entry into a list sorted by names, in place of the one with the same name if there is one. -/
def putEntry {α : Type} (name : String) (value : α) : List (String × α) → List (String × α)
  | [] => [(name, value)]
  | (name', value') :: rest =>
    if name < name' then (name, value) :: (name', value') :: rest
    else if name = name' then (name, value) :: rest
    else (name', value') :: putEntry name value rest

theorem mem_putEntry {α : Type} {name : String} {value : α} {entries : List (String × α)}
    {entry : String × α} (h : entry ∈ putEntry name value entries) :
    entry = (name, value) ∨ entry ∈ entries := by
  induction entries with
  | nil => simpa [putEntry] using h
  | cons head rest ih =>
    simp only [putEntry] at h
    split at h
    · simpa using h
    · split at h
      · rcases List.mem_cons.1 h with h | h
        · exact .inl h
        · exact .inr (List.mem_cons_of_mem _ h)
      · rcases List.mem_cons.1 h with h | h
        · exact .inr (h ▸ List.mem_cons_self)
        · exact (ih h).imp id (List.mem_cons_of_mem _)

/-- Entries in the order of their names, each name once. -/
def Sorted {α : Type} (entries : List (String × α)) : Prop :=
  entries.Pairwise fun a b => a.1 < b.1

theorem Sorted.putEntry {α : Type} {name : String} {value : α} {entries : List (String × α)}
    (h : Sorted entries) : Sorted (putEntry name value entries) := by
  induction entries with
  | nil => simp [Sql.putEntry, Sorted]
  | cons head rest ih =>
    obtain ⟨hhead, hrest⟩ := List.pairwise_cons.1 h
    simp only [Sql.putEntry]
    split
    · rename_i hlt
      refine List.pairwise_cons.2 ⟨fun entry he => ?_, h⟩
      rcases List.mem_cons.1 he with rfl | he
      · exact hlt
      · exact String.lt_trans hlt (hhead entry he)
    · split
      · rename_i heq
        exact List.pairwise_cons.2 ⟨fun entry he => heq ▸ hhead entry he, hrest⟩
      · rename_i hge hne
        refine List.pairwise_cons.2 ⟨fun entry he => ?_, ih hrest⟩
        rcases mem_putEntry he with rfl | he
        · grind
        · exact hhead entry he

/-- Names with values, each name once, in the order of names. -/
structure Bindings (α : Type) where
  entries : List (String × α)
  sorted : Sorted entries

namespace Bindings

variable {α : Type}

def empty : Bindings α := ⟨[], List.Pairwise.nil⟩

instance : Inhabited (Bindings α) := ⟨empty⟩

def insert (b : Bindings α) (name : String) (value : α) : Bindings α :=
  ⟨putEntry name value b.entries, b.sorted.putEntry⟩

def get? (b : Bindings α) (name : String) : Option α :=
  b.entries.lookup name

def size (b : Bindings α) : Nat := b.entries.length

def isEmpty (b : Bindings α) : Bool := b.entries.isEmpty

/-- Puts in the entries of a list, a later one in place of an earlier one with its name. -/
def insertAll (b : Bindings α) (entries : List (String × α)) : Bindings α :=
  entries.foldl (fun b entry => b.insert entry.1 entry.2) b

def ofList (entries : List (String × α)) : Bindings α :=
  empty.insertAll entries

theorem get?_insert_self (b : Bindings α) (name : String) (value : α) :
    (b.insert name value).get? name = some value := by
  obtain ⟨entries, sorted⟩ := b
  simp only [insert, get?]
  clear sorted
  induction entries with
  | nil => simp [putEntry]
  | cons head rest ih =>
    simp only [putEntry]
    split
    · simp
    · split
      · simp
      · rename_i hne
        have : (name == head.1) = false := by simpa using hne
        simp only [List.lookup_cons, this, ih]

theorem get?_insert_other (b : Bindings α) {name name' : String} (value : α) (hne : name' ≠ name) :
    (b.insert name value).get? name' = b.get? name' := by
  obtain ⟨entries, sorted⟩ := b
  simp only [insert, get?]
  clear sorted
  have hfalse : (name' == name) = false := by simpa using hne
  induction entries with
  | nil => simp [putEntry, hne]
  | cons head rest ih =>
    obtain ⟨head, value'⟩ := head
    simp only [putEntry]
    split
    · simp only [List.lookup_cons, hfalse]
    · split
      · rename_i heq
        subst heq
        simp only [List.lookup_cons, hfalse]
      · simp only [List.lookup_cons, ih]

theorem names_nodup (b : Bindings α) : (b.entries.map (·.1)).Nodup := by
  refine List.pairwise_map.2 (b.sorted.imp fun {x y} hlt hname => ?_)
  rw [hname] at hlt
  exact String.lt_irrefl _ hlt

/-- What a name holds is its only entry. -/
theorem get?_eq_some_iff {b : Bindings α} {name : String} {value : α} :
    b.get? name = some value ↔ (name, value) ∈ b.entries := by
  obtain ⟨entries, sorted⟩ := b
  simp only [get?]
  induction entries with
  | nil => simp
  | cons head rest ih =>
    obtain ⟨name', value'⟩ := head
    obtain ⟨hfirst, hrest⟩ := List.pairwise_cons.1 sorted
    by_cases hname : name = name'
    · subst hname
      have hother : (name, value) ∉ rest := fun hmem => String.lt_irrefl name (hfirst _ hmem)
      simp [hother, eq_comm]
    · have hne : (name == name') = false := by simpa using hname
      simp [List.lookup_cons, hne, hname, ih hrest]

end Bindings

end Sql
