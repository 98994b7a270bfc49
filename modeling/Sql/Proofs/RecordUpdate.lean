/-
What an update of a whole record writes, where, and to which row.

An update assigns the settable columns and tests the keys. All of these are different columns, so where mapped columns
have different names no value takes the name of another. `updateById_renders` says what such an update renders to and
that each value is what the record holds at the place of its column.
-/
import Sql.Proofs.ColumnValues
import Sql.Proofs.EntityKeys
import Sql.Proofs.UpdatedColumns

namespace Sql

namespace Entity

variable {ρ : Type} [Record ρ] {d : Dialect} {style : ParamStyle} {e : Entity} {table : String} {columns : List Column}
  {kind : KeyKind} {entry : Column × Nat} {withTenant : Bool}

/-- The column that holds a key, with its place. -/
def holder? (e : Entity) (kind : KeyKind) : Option (Column × Nat) :=
  (e.keys.get? kind).bind fun place => e.columns[place]?.map fun c => (c, place)

/-- The columns that an update tests: the primary key, and the tenant key if that is asked for. -/
def tested (e : Entity) (withTenant : Bool) : List (Column × Nat) :=
  (e.holder? .primary).toList ++ if withTenant then (e.holder? .tenant).toList else []

/-- `UPDATE table SET column=value, column=value WHERE key=value AND tenant=value` -/
def updateText (d : Dialect) (style : ParamStyle) (e : Entity) (withTenant : Bool) : String :=
  d.keyword "UPDATE" ++ " " ++ d.quote e.table ++ d.spaced "SET" ++
    ", ".intercalate (e.settable.map fun entry => entry.1.assignmentIn d style) ++
    (d.spaced "WHERE" ++
      (d.spaced "AND").intercalate ((e.tested withTenant).map fun entry => entry.1.assignmentIn d style))

/-! ## Columns with their places -/

theorem holder?_eq_some_iff : e.holder? kind = some entry ↔
    e.keys.get? kind = some entry.2 ∧ e.columns[entry.2]? = some entry.1 := by
  obtain ⟨c, place⟩ := entry
  simp only [holder?, Option.bind_eq_some_iff, Option.map_eq_some_iff, Prod.mk.injEq]
  constructor
  · rintro ⟨place', hplace, c', hc, rfl, rfl⟩
    exact ⟨hplace, hc⟩
  · rintro ⟨hplace, hc⟩
    exact ⟨place, hplace, c, hc, rfl, rfl⟩

theorem mem_settable : entry ∈ e.settable ↔
    e.columns[entry.2]? = some entry.1 ∧ entry.1.isValueColumn = true ∧ e.keys.tenant ≠ some entry.2 := by
  rw [settable_eq, valueColumns, List.mem_filter, List.mem_filter, List.mem_zipIdx_iff_getElem?, bne_iff_ne, and_assoc,
    ne_comm]

/-- A column that holds a key is mapped and claims that key. -/
theorem claims_of_holder? (h : (ofColumns table columns).holder? kind = some entry) :
    entry.1.claimsKey kind = true := by
  obtain ⟨hplace, hc⟩ := holder?_eq_some_iff.1 h
  have hkey : (ofColumns table columns).key? kind = some entry.1 := Option.bind_eq_some_iff.2 ⟨entry.2, hplace, hc⟩
  obtain ⟨place', hplace', -, hclaims⟩ := getElem?_of_key hkey
  exact hclaims

theorem mem_tested : entry ∈ e.tested withTenant ↔
    e.holder? .primary = some entry ∨ withTenant = true ∧ e.holder? .tenant = some entry := by
  rw [tested, List.mem_append, Option.mem_toList]
  cases withTenant <;> simp

theorem tested_nodup (hapart : e.keys.tenant ≠ e.keys.primary) (withTenant : Bool) :
    ((e.tested withTenant).map (·.2)).Nodup := by
  unfold tested
  cases hprimary : e.holder? .primary with
  | none => cases withTenant <;> cases e.holder? .tenant <;> simp
  | some key =>
    cases htenant : e.holder? .tenant with
    | none => cases withTenant <;> simp
    | some tenant =>
      have hkey : e.keys.primary = some key.2 := (holder?_eq_some_iff.1 hprimary).1
      have hplace : e.keys.tenant = some tenant.2 := (holder?_eq_some_iff.1 htenant).1
      rw [hkey, hplace] at hapart
      cases withTenant with
      | false => simp
      | true => simpa [eq_comm] using hapart

/-- No column is both assigned and tested. -/
theorem ne_of_settable_of_tested {entry' : Column × Nat} (hset : entry ∈ (ofColumns table columns).settable)
    (htested : entry' ∈ (ofColumns table columns).tested withTenant) : entry.2 ≠ entry'.2 := by
  intro hplace
  obtain ⟨hc, hwritten, htenant⟩ := mem_settable.1 hset
  rcases mem_tested.1 htested with hholder | ⟨-, hholder⟩
  · obtain ⟨-, hc'⟩ := holder?_eq_some_iff.1 hholder
    have hclaims := claims_of_holder? hholder
    have hsame : entry.1 = entry'.1 := Option.some.inj (hc.symm.trans (hplace ▸ hc'))
    rw [← hsame] at hclaims
    -- A primary key is no column that is written.
    simp [Column.claimsKey, Column.isKey, Column.isValueColumn] at hclaims hwritten
    simp [hclaims.2] at hwritten
  · exact htenant ((holder?_eq_some_iff.1 hholder).1.trans (congrArg some hplace.symm))

theorem places_nodup (hapart : (ofColumns table columns).keys.tenant ≠ (ofColumns table columns).keys.primary)
    (withTenant : Bool) :
    (((ofColumns table columns).settable ++ (ofColumns table columns).tested withTenant).map (·.2)).Nodup := by
  have hset : ((ofColumns table columns).settable.map (·.2)).Nodup := updatePlaces_eq _ ▸ updatePlaces_nodup _
  rw [List.map_append, List.nodup_append]
  refine ⟨hset, tested_nodup hapart withTenant, List.forall_mem_map.2 fun entry hset => ?_⟩
  exact List.forall_mem_map.2 fun entry' htested => ne_of_settable_of_tested hset htested

/-- What an update assigns or tests is a mapped column at its place. -/
theorem mapped_of_settable_or_tested
    (h : entry ∈ (ofColumns table columns).settable ++ (ofColumns table columns).tested withTenant) :
    columns[entry.2]? = some entry.1 ∧ entry.1.ignored = false := by
  rcases List.mem_append.1 h with hset | htested
  · obtain ⟨hc, hwritten, -⟩ := mem_settable.1 hset
    rw [Column.isValueColumn, Bool.and_eq_true, Bool.not_eq_true'] at hwritten
    exact ⟨hc, hwritten.1⟩
  · have hholder : ∃ kind, (ofColumns table columns).holder? kind = some entry :=
      (mem_tested.1 htested).elim (fun h => ⟨_, h⟩) fun h => ⟨_, h.2⟩
    obtain ⟨kind, hholder⟩ := hholder
    have hclaims := claims_of_holder? hholder
    rw [Column.claimsKey, Bool.and_eq_true, Bool.not_eq_true'] at hclaims
    exact ⟨(holder?_eq_some_iff.1 hholder).2, hclaims.1⟩

/-- What an update assigns and what it tests are different columns with different names. -/
theorem names_nodup (hnames : ((ofColumns table columns).mappedColumns.map (·.name)).Nodup)
    (hapart : (ofColumns table columns).keys.tenant ≠ (ofColumns table columns).keys.primary) (withTenant : Bool) :
    (((ofColumns table columns).settable ++ (ofColumns table columns).tested withTenant).map (·.1.name)).Nodup := by
  have hplaces := places_nodup hapart withTenant
  rw [List.Nodup, List.pairwise_map] at hplaces ⊢
  refine hplaces.imp_of_mem fun {entry entry'} hentry hentry' hne => ?_
  obtain ⟨hc, hmapped⟩ := mapped_of_settable_or_tested hentry
  obtain ⟨hc', hmapped'⟩ := mapped_of_settable_or_tested hentry'
  exact name_ne_of_place_ne hnames hc hc' hmapped hmapped' hne

/-! ## One statement -/

theorem keyTests_eq (record : ρ) : e.keyTests record withTenant =
    (e.tested withTenant).map fun entry => entry.1.assign (Record.valueAt record entry.2) := by
  have hholder (kind : KeyKind) : ((e.keys.get? kind).bind (e.assignAt record)).toList =
      (e.holder? kind).toList.map fun entry => entry.1.assign (Record.valueAt record entry.2) := by
    rw [holder?]
    cases e.keys.get? kind with
    | none => rfl
    | some place =>
      rw [Option.bind_some, Option.bind_some, assignAt]
      cases e.columns[place]? <;> rfl
  rw [keyTests, tested, List.map_append, ← hholder]
  cases withTenant with
  | false => rfl
  | true => exact congrArg _ (hholder .tenant)

theorem assignments_updatePlaces (record : ρ) :
    e.updatePlaces.filterMap (e.assignAt record) =
      e.settable.map fun entry => entry.1.assign (Record.valueAt record entry.2) := by
  rw [updatePlaces_eq]
  exact filterMap_assignAt record fun _ hentry => hentry

theorem updateOne_eq (record : ρ) (withTenant : Bool) :
    e.updateOne record e.updatePlaces withTenant = {
      table := .name e.table
      assignments := e.settable.map fun entry => .binary (entry.1.assign (Record.valueAt record entry.2))
      condition := some (.allOf ((e.tested withTenant).map fun entry =>
        .binary (entry.1.assign (Record.valueAt record entry.2)))) } := by
  rw [updateOne, assignments_updatePlaces, keyTests_eq, List.map_map, Update.withPairs, List.map_map]
  rfl

theorem spells_updateOne (hsettable : e.settable ≠ []) (htested : e.tested withTenant ≠ []) (record : ρ) :
    (Expr.update (e.updateOne record e.updatePlaces withTenant)).Spells d style (e.updateText d style withTenant) := by
  have hassign (entries : List (Column × Nat)) : ∀ entry ∈ entries,
      (Expr.binary (entry.1.assign (Record.valueAt record entry.2))).Spells d style (entry.1.assignmentIn d style) :=
    fun entry _ => spells_assign entry.1 _
  rw [updateOne_eq]
  exact spells_update e.table (spells_allOf (hassign _)) (isEmptyCondition_allOf htested _) hsettable (hassign _)

theorem parameters_updateOne (p : Pagination) (record : ρ) (withTenant : Bool) :
    (Expr.update (e.updateOne record e.updatePlaces withTenant)).parameters p =
      (Record.columnValues record (e.settable ++ e.tested withTenant)).map .ofEntry := by
  have htests : optionParameters p (some (.allOf ((e.tested withTenant).map fun entry =>
      .binary (entry.1.assign (Record.valueAt record entry.2))))) =
        (Record.columnValues record (e.tested withTenant)).map .ofEntry := by
    rw [← parameters_columnValues p, optionParameters, Expr.allOf, Expr.listOf, Expr.parameters]
    simp only [optionParameters, List.nil_append, List.append_nil]
  rw [updateOne_eq, Expr.parameters, htests, parameters_columnValues, Record.columnValues, Record.columnValues,
    Record.columnValues, List.map_append, List.map_append]
  rfl

/-- **What an update of a whole record writes**: to every settable column what the record holds at its place, where the
primary key, and the tenant key if that is asked for, are what the record holds at theirs. -/
theorem updateById_renders (he : e = ofColumns table columns) (hnames : (e.mappedColumns.map (·.name)).Nodup)
    (hkey : e.key? .primary ≠ none) (hapart : e.keys.tenant ≠ e.keys.primary) (hsettable : e.settable ≠ [])
    {record : ρ} (hplain : Record.hooks? record = none) (withTenant : Bool) :
    ∃ u, e.updateById record withTenant = (record, .ok u) ∧
      ∀ d style, (style = .named → d.supportsNamed = true) →
        ∃ args, (Expr.update u).render d style = .ok ⟨e.updateText d style withTenant, args⟩ ∧
          args.Hold style ((e.settable ++ e.tested withTenant).map fun entry =>
            (entry.1.name, (Record.values record)[entry.2]?.getD .null)) := by
  subst he
  obtain ⟨key, hkey⟩ := Option.ne_none_iff_exists'.1 hkey
  obtain ⟨place, hplace, hc, -⟩ := getElem?_of_key hkey
  have hholder : (ofColumns table columns).holder? .primary = some (key, place) := holder?_eq_some_iff.2 ⟨hplace, hc⟩
  have htested : (ofColumns table columns).tested withTenant ≠ [] := List.ne_nil_of_mem (mem_tested.2 (.inl hholder))
  have hupdate : (ofColumns table columns).updateById record withTenant =
      (record, .ok ((ofColumns table columns).updateOne record (ofColumns table columns).updatePlaces withTenant)) := by
    rw [updateById, updateColumns_plain hplain, require, hkey]
    rfl
  refine ⟨_, hupdate, fun d style hd => ?_⟩
  refine render_of_spells hd (spells_updateOne hsettable htested record) (parameters_updateOne _ record withTenant) ?_
  rw [List.map_map]
  exact names_nodup hnames hapart withTenant

theorem updateById_renders_codedUser :
    ∃ u values, codedUsers.updateById codedUser true = (codedUser, .ok u) ∧
      (Expr.update u).render .sqlServer .named =
        .ok ⟨"UPDATE [user] SET [user_name]=@user_name, [note]=@note WHERE [id]=@id AND [tenant_id]=@tenant_id",
          .named values⟩ ∧
      values.get? "id" = some (.int 1) ∧ values.get? "tenant_id" = some (.int 7) ∧
      values.get? "user_name" = some (.text "bob") ∧ values.get? "code" = none := by
  have hplain : Record.hooks? codedUser = none := rfl
  obtain ⟨u, hu, hrenders⟩ :=
    updateById_renders (e := codedUsers) rfl (by decide) (by decide) (by decide) (by decide) hplain true
  obtain ⟨_, hrender, values, rfl, hvalues⟩ := hrenders .sqlServer .named fun _ => rfl
  have htext : codedUsers.updateText .sqlServer .named true =
      "UPDATE [user] SET [user_name]=@user_name, [note]=@note WHERE [id]=@id AND [tenant_id]=@tenant_id" := by decide
  rw [htext] at hrender
  have hother (value : Value) : values.get? "code" ≠ some value := by
    rw [ne_eq, hvalues]
    intro hmem
    have hname : "code" ∈ (Record.columnValues codedUser (codedUsers.settable ++ codedUsers.tested true)).map (·.1) :=
      List.mem_map_of_mem hmem
    exact absurd hname (by decide)
  have hbound (name : String) (value : Value) := (hvalues name value).2
  refine ⟨u, values, hu, hrender, hbound _ _ (by decide), hbound _ _ (by decide), hbound _ _ (by decide), ?_⟩
  exact Option.eq_none_iff_forall_ne_some.2 hother

end Entity

end Sql
