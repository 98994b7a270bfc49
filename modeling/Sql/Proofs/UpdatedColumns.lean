/-
The columns that a partial update assigns, and those that an update of the whole record assigns.

Without names a partial update chooses among the settable columns. Named columns are looked up one by one, and only
ignored ones and the one that holds the primary key are refused, so a name can mean the tenant key, or another column
that is marked as a primary key, and two names can mean one column. `partialUpdate_within` says when nothing but
settable columns is assigned, and when none is assigned twice.
-/
import Sql.Proofs.PartialUpdate

namespace Sql

namespace Entity

variable {ρ : Type} [Record ρ] {e : Entity} {record : ρ} {name : String} {names : List String} {place : Nat}
  {places : List Nat}

/-! ## Places -/

/-- The places that a partial update assigns: those of the columns that are named, or, if none is, those of the settable
columns that are set. -/
def partialPlaces (e : Entity) (record : ρ) (names : List String) : Except Error (List Nat) :=
  if names.isEmpty then .ok (e.updatePlaces.filter (Record.isSetAt record)) else names.mapM e.updatablePlace

theorem partialUpdate_eq (e : Entity) (record : ρ) (names : List String) (withTenant : Bool) :
    e.partialUpdate record names withTenant =
      match e.partialPlaces record names with
      | .error error => (record, .error error)
      | .ok places => e.updateColumns record places withTenant := by
  unfold partialUpdate partialPlaces
  split <;> rfl

/-- What an update of the whole record assigns: no ignored column, none that is marked as a primary key, and not the
one that holds the tenant key. -/
theorem mem_updatePlaces : place ∈ e.updatePlaces ↔
    ∃ c, e.columns[place]? = some c ∧ c.ignored = false ∧ c.isPrimaryKey = false ∧ e.keys.tenant ≠ some place := by
  simp only [updatePlaces_eq, settable, List.mem_map, List.mem_filter, List.mem_zipIdx_iff_getElem?, Bool.and_eq_true,
    Bool.not_eq_true', bne_iff_ne, ne_eq, Prod.exists, exists_eq_right]
  grind

theorem updatePlaces_nodup (e : Entity) : e.updatePlaces.Nodup := by
  have hplaces : (e.columns.zipIdx.map Prod.snd).Nodup := by
    rw [List.zipIdx_map_snd]
    exact List.nodup_range'
  exact ((List.filter_sublist.map Prod.snd).nodup hplaces).filter _

theorem column?_of_indexOf? (h : e.indexOf? name = some place) :
    ∃ c, e.columns[place]? = some c ∧ e.column? name = some c := by
  obtain ⟨hbound, -, -⟩ := List.findIdx?_eq_some_iff_getElem.1 h
  refine ⟨e.columns[place], List.getElem?_eq_getElem hbound, ?_⟩
  rw [column?, List.find?_eq_bind_findIdx?_getElem?]
  exact Option.bind_eq_some_iff.2 ⟨place, h, List.getElem?_eq_getElem hbound⟩

/-- A name is taken for the first column that answers to it, unless this is ignored or holds the primary key. -/
theorem updatablePlace_eq_ok : e.updatablePlace name = .ok place ↔
    e.indexOf? name = some place ∧ e.keys.primary ≠ some place ∧ ∀ c ∈ e.column? name, c.ignored = false := by
  have hfilter : e.updatablePlace name = .ok place ↔
      (e.indexOf? name).filter (fun place => some place != e.keys.primary && !(e.columns[place]?.any (·.ignored))) =
        some place := by
    dsimp only [updatablePlace]
    split
    · next hfound => simp [hfound]
    · next hnone => simp [hnone]
  rw [hfilter, Option.filter_eq_some_iff]
  refine and_congr_right fun hplace => ?_
  obtain ⟨c, hc, hcolumn⟩ := column?_of_indexOf? hplace
  have hholder : (some place != e.keys.primary) = true ↔ e.keys.primary ≠ some place := by rw [bne_iff_ne, ne_comm]
  simp [hc, hcolumn, hholder]

/-- Places found under names, one for each name. -/
structure Found (e : Entity) (names : List String) (places : List Nat) : Prop where
  indices : names.map e.indexOf? = places.map some
  place : ∀ name ∈ names, ∃ place ∈ places, e.updatablePlace name = .ok place
  name : ∀ place ∈ places, ∃ name ∈ names, e.updatablePlace name = .ok place

theorem Found.cons (hname : e.updatablePlace name = .ok place) (h : e.Found names places) :
    e.Found (name :: names) (place :: places) where
  indices := by rw [List.map_cons, (updatablePlace_eq_ok.1 hname).1, h.indices, List.map_cons]
  place := by
    refine List.forall_mem_cons.2 ⟨⟨place, List.mem_cons_self, hname⟩, fun other hother => ?_⟩
    obtain ⟨found, hfound, hplace⟩ := h.place other hother
    exact ⟨found, List.mem_cons_of_mem _ hfound, hplace⟩
  name := by
    refine List.forall_mem_cons.2 ⟨⟨name, List.mem_cons_self, hname⟩, fun other hother => ?_⟩
    obtain ⟨finder, hfinder, hplace⟩ := h.name other hother
    exact ⟨finder, List.mem_cons_of_mem _ hfinder, hplace⟩

theorem found_of_mapM (h : names.mapM e.updatablePlace = .ok places) : e.Found names places := by
  induction names generalizing places with
  | nil =>
    obtain rfl : [] = places := Except.ok.inj h
    exact ⟨rfl, List.forall_mem_nil _, List.forall_mem_nil _⟩
  | cons name names ih =>
    rw [List.mapM_cons] at h
    cases hname : e.updatablePlace name with
    | error error =>
      rw [hname] at h
      cases h
    | ok place =>
      cases hnames : names.mapM e.updatablePlace with
      | error error =>
        rw [hname, hnames] at h
        cases h
      | ok rest =>
        rw [hname, hnames] at h
        obtain rfl : place :: rest = places := Except.ok.inj h
        exact (ih hnames).cons hname

/-- The two ways in which a partial update comes by its places. -/
theorem partialPlaces_cases (h : e.partialPlaces record names = .ok places) :
    (names = [] ∧ places = e.updatePlaces.filter (Record.isSetAt record)) ∨ e.Found names places := by
  unfold partialPlaces at h
  split at h
  · next hempty => exact .inl ⟨List.isEmpty_iff.1 hempty, (Except.ok.inj h).symm⟩
  · exact .inr (found_of_mapM h)

/-- The places of a partial update are those of columns. -/
theorem exists_column_of_mem_partialPlaces (h : e.partialPlaces record names = .ok places) :
    ∀ place ∈ places, ∃ c, e.columns[place]? = some c := by
  intro place hmem
  rcases partialPlaces_cases h with ⟨-, rfl⟩ | hfound
  · obtain ⟨c, hc, -⟩ := mem_updatePlaces.1 (List.mem_filter.1 hmem).1
    exact ⟨c, hc⟩
  · obtain ⟨name, -, hplace⟩ := hfound.name place hmem
    obtain ⟨c, hc, -⟩ := column?_of_indexOf? (updatablePlace_eq_ok.1 hplace).1
    exact ⟨c, hc⟩

/-! ## Names of settable columns -/

/-- A name means a column that an update may assign. -/
def MeansSettable (e : Entity) (name : String) : Prop :=
  (∀ c ∈ e.column? name, c.isPrimaryKey = false) ∧ e.keys.tenant ≠ e.indexOf? name

instance (e : Entity) (name : String) : Decidable (e.MeansSettable name) := inferInstanceAs (Decidable (_ ∧ _))

theorem mem_updatePlaces_iff_meansSettable (h : e.updatablePlace name = .ok place) :
    place ∈ e.updatePlaces ↔ e.MeansSettable name := by
  obtain ⟨hplace, -, hmapped⟩ := updatablePlace_eq_ok.1 h
  obtain ⟨c, hc, hcolumn⟩ := column?_of_indexOf? hplace
  have hmapped : c.ignored = false := hmapped c hcolumn
  simp [mem_updatePlaces, MeansSettable, hc, hcolumn, hmapped, hplace]

/-- A partial update adds nothing to an update of the whole record if every name means a settable column. -/
theorem subset_updatePlaces_iff (h : e.partialPlaces record names = .ok places) :
    places ⊆ e.updatePlaces ↔ ∀ name ∈ names, e.MeansSettable name := by
  rcases partialPlaces_cases h with ⟨rfl, rfl⟩ | hfound
  · exact iff_of_true List.filter_sublist.subset (List.forall_mem_nil _)
  · constructor
    · intro hsub name hname
      obtain ⟨place, hmem, hplace⟩ := hfound.place name hname
      exact (mem_updatePlaces_iff_meansSettable hplace).1 (hsub hmem)
    · intro hsettable place hmem
      obtain ⟨name, hname, hplace⟩ := hfound.name place hmem
      exact (mem_updatePlaces_iff_meansSettable hplace).2 (hsettable name hname)

theorem partialPlaces_nodup_iff (h : e.partialPlaces record names = .ok places) :
    places.Nodup ↔ names.Pairwise fun a b => e.indexOf? a ≠ e.indexOf? b := by
  rcases partialPlaces_cases h with ⟨rfl, rfl⟩ | hfound
  · exact iff_of_true (e.updatePlaces_nodup.filter _) List.Pairwise.nil
  · have hsome : places.Nodup ↔ (places.map some).Nodup := by simp [List.Nodup, List.pairwise_map]
    rw [hsome, ← hfound.indices, List.Nodup, List.pairwise_map]

/-! ## Assignments -/

/-- Every place of a column is assigned. -/
theorem map_assignAt (record : ρ) (h : ∀ place ∈ places, ∃ c, e.columns[place]? = some c) :
    ((places.filterMap (e.assignAt record)).map Expr.binary).map some =
      places.map fun place => (e.assignAt record place).map .binary := by
  induction places with
  | nil => rfl
  | cons place places ih =>
    obtain ⟨⟨c, hc⟩, hrest⟩ := List.forall_mem_cons.1 h
    have hassign : e.assignAt record place = some (c.assign (Record.valueAt record place)) := by
      rw [assignAt, hc, Option.map_some]
    rw [List.filterMap_cons_some hassign, List.map_cons, List.map_cons, ih hrest, List.map_cons, hassign, Option.map_some]

/-- An update of a record without hooks needs a primary key and nothing else. -/
theorem updateColumns_plain (hplain : Record.hooks? record = none) (withTenant : Bool) :
    e.updateColumns record places withTenant =
      (record, (e.require .primary).map fun _ => e.updateOne record places withTenant) := by
  rw [updateColumns, Record.runHook_plain hplain]
  cases e.require .primary <;> rfl

end Entity

section

variable {ρ : Type} [Record ρ] {e : Entity} {record : ρ} {names : List String} {withTenant : Bool} {u : Update Expr}

/-- **A partial update beside an update of the whole record** without hooks: it assigns nothing that the other does not
assign exactly if every name means a settable column, and no column twice exactly if no two names mean the same one. -/
theorem partialUpdate_within (hplain : Record.hooks? record = none)
    (h : (e.partialUpdate record names withTenant).2 = .ok u) :
    ∃ whole places, (e.updateById record withTenant).2 = .ok whole ∧ e.partialPlaces record names = .ok places ∧
      (u.assignments.map some = places.map fun place => (e.assignAt record place).map .binary) ∧
      (whole.assignments.map some = e.updatePlaces.map fun place => (e.assignAt record place).map .binary) ∧
      (places ⊆ e.updatePlaces ↔ ∀ name ∈ names, e.MeansSettable name) ∧
      (places.Nodup ↔ names.Pairwise fun a b => e.indexOf? a ≠ e.indexOf? b) := by
  rw [Entity.partialUpdate_eq] at h
  cases hplaces : e.partialPlaces record names with
  | error error =>
    rw [hplaces] at h
    cases h
  | ok places =>
    rw [hplaces] at h
    simp only [Entity.updateColumns_plain hplain] at h
    cases hkey : e.require .primary with
    | error error =>
      rw [hkey] at h
      cases h
    | ok key =>
      rw [hkey] at h
      obtain rfl : e.updateOne record places withTenant = u := Except.ok.inj h
      refine ⟨e.updateOne record e.updatePlaces withTenant, places, ?_, rfl,
        Entity.map_assignAt record (Entity.exists_column_of_mem_partialPlaces hplaces),
        Entity.map_assignAt record fun place hmem => ?_, Entity.subset_updatePlaces_iff hplaces,
        Entity.partialPlaces_nodup_iff hplaces⟩
      · rw [Entity.updateById, Entity.updateColumns_plain hplain, hkey]
        rfl
      · obtain ⟨c, hc, -⟩ := Entity.mem_updatePlaces.1 hmem
        exact ⟨c, hc⟩

/-- Users of tenants, of which a code is marked as a second primary key. -/
def codedUsers : Entity :=
  .ofColumns "user" [.ofField "id" {}, .ofField "code" { primaryKey := some true }, .ofField "tenant_id" {},
    .ofField "UserName" {}, .ofField "note" {}]

/-- A user without hooks. -/
def codedUser : RuledRecord where
  entity := codedUsers
  values := [.int 1, .text "a1", .int 7, .text "bob", .null]

/-- A column under the name of its field, and one that is null. -/
theorem partialUpdate_within_nameAndNote :
    ∃ u whole places, (codedUsers.partialUpdate codedUser ["UserName", "note"] true).2 = .ok u ∧
      (codedUsers.updateById codedUser true).2 = .ok whole ∧
      (u.assignments.map some = places.map fun place => (codedUsers.assignAt codedUser place).map .binary) ∧
      (whole.assignments.map some =
        codedUsers.updatePlaces.map fun place => (codedUsers.assignAt codedUser place).map .binary) ∧
      places ⊆ codedUsers.updatePlaces ∧ places.Nodup := by
  have hplain : Record.hooks? codedUser = none := rfl
  have hupdate : ∃ u, (codedUsers.partialUpdate codedUser ["UserName", "note"] true).2 = .ok u := ⟨_, rfl⟩
  obtain ⟨u, hu⟩ := hupdate
  obtain ⟨whole, places, hwhole, -, hassigned, hsettable, hsub, hnodup⟩ := partialUpdate_within hplain hu
  refine ⟨u, whole, places, hu, hwhole, hassigned, hsettable, hsub.2 ?_, hnodup.2 ?_⟩
  · decide
  · decide

/-- The tenant key under its name: the record goes to another tenant, while an update of the whole record leaves it. -/
theorem partialUpdate_namedTenant :
    ∃ u whole, (codedUsers.partialUpdate codedUser ["tenant_id"] false).2 = .ok u ∧
      (codedUsers.updateById codedUser false).2 = .ok whole ∧
      u.assignments = [.binary (Column.assign (.ofField "tenant_id" {}) (.int 7))] ∧
      whole.assignments = [.binary (Column.assign (.ofField "UserName" {}) (.text "bob")),
        .binary (Column.assign (.ofField "note" {}) .null)] :=
  ⟨_, _, rfl, rfl, rfl, rfl⟩

/-- A second primary key, and one column under both of its names. -/
example :
    (codedUsers.partialUpdate codedUser ["code", "UserName", "user_name"] false).2.map (·.assignments) =
      .ok ([Column.assign (.ofField "code" { primaryKey := some true }) (.text "a1"),
        Column.assign (.ofField "UserName" {}) (.text "bob"),
        Column.assign (.ofField "UserName" {}) (.text "bob")].map .binary) :=
  rfl

end

end Sql
