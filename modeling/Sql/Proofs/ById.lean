/-
Statements by id with parameters by name.

The names of the parameters of ids are made from the name of the key, and columns may have such names too. `finds_iff`
says for any statement by id when that does no harm, and `statements_by_id` says it of the statements of an entity.
-/
import Sql.Proofs.ColumnValues
import Sql.Proofs.EntityKeys

namespace Sql

/-- The tenant column that a statement by id tests; nothing is compared with null. -/
def Entity.testedTenant? (e : Entity) (tenant : Value) : Option Column :=
  if tenant.isNull then none else e.key? .tenant

/-- The text of a condition by id: one parameter for each id, and one for the tenant if that is tested. -/
def idText (d : Dialect) (key : Column) (count : Nat) (tenantKey? : Option Column) : String :=
  d.quote key.name ++ d.spaced "IN" ++
    ("( " ++ ",".intercalate ((List.range count).map fun i => d.namedParameter (listName key.name i)) ++ " )") ++
    match tenantKey? with
    | none => ""
    | some c => d.spaced "AND" ++ (d.quote c.name ++ "=" ++ d.namedParameter c.name)

/-- A rendering that finds rows by id: its text, and every value under its own name. -/
structure FindsById (d : Dialect) (key : Column) (ids : List Value) (tenantKey? : Option Column) (tenant : Value)
    (flag? : Option Column) (front : String) (r : Rendered) : Prop where
  sql : r.sql = front ++ (d.spaced "WHERE" ++ idText d key ids.length tenantKey?)
  ids : ∀ (i : Nat) (h : i < ids.length), r.args.get? (listName key.name i) = some ids[i]
  tenant : ∀ c ∈ tenantKey?, r.args.get? c.name = some tenant
  flag : ∀ c ∈ flag?, r.args.get? c.name = some (.bool true)

/-- A value under a name leaves the ids their names: the name is that of no id, or of one with the same value,
which is not NaN. -/
def Spares (key : Column) (ids : List Value) (name : String) (value : Value) : Prop :=
  ∀ (i : Nat) (h : i < ids.length), name = listName key.name i → ids[i] = value ∧ ids[i].equals value = true

instance (key : Column) (ids : List Value) (name : String) (value : Value) : Decidable (Spares key ids name value) :=
  inferInstanceAs (Decidable (∀ (i : Nat) (h : i < ids.length),
    name = listName key.name i → ids[i] = value ∧ ids[i].equals value = true))

/-- The key has a name, and neither the tenant nor the flag takes the name of an id's parameter. -/
structure NamesApart (key : Column) (ids : List Value) (tenantKey? : Option Column) (tenant : Value)
    (flag? : Option Column) : Prop where
  named : key.name ≠ ""
  tenant : ∀ c ∈ tenantKey?, Spares key ids c.name tenant
  flag : ∀ c ∈ flag?, Spares key ids c.name (.bool true)

/-! ## Conditions by id -/

/-- The test that a key is one of the ids, and that a tenant column, if one is tested, holds the tenant. -/
def idTest (key : Column) (tenantKey? : Option Column) (tenant : Value) (ids : List Value) : Expr :=
  let byId := Expr.isIn (.name key.name) (Expr.listParameters key.name ids)
  match tenantKey? with
  | none => .binary byId
  | some c => .allOf [.binary byId, .binary (c.assign tenant)]

theorem idCondition_eq {e : Entity} {key : Column} (hkey : e.key? .primary = some key) (tenant : Value)
    {ids : List Value} (hids : ids ≠ []) :
    e.idCondition tenant ids = .ok (idTest key (e.testedTenant? tenant) tenant ids) := by
  have hnonempty : ids.isEmpty = false := List.isEmpty_eq_false_iff.2 hids
  unfold Entity.idCondition Entity.require Entity.testedTenant? idTest
  rw [hkey]
  cases e.key? .tenant <;> cases tenant.isNull <;> simp [hnonempty, pure, Except.pure, bind, Except.bind]

theorem isEmptyCondition_idTest (key : Column) (tenantKey? : Option Column) (tenant : Value) (ids : List Value) :
    (idTest key tenantKey? tenant ids).isEmptyCondition = false := by
  cases tenantKey? <;> rfl

section

variable {d : Dialect} {key : Column} {tenantKey? flag? : Option Column} {tenant : Value} {ids : List Value}

/-- The parameter of a value under the name of a column, if there is one. -/
def columnParameter (c? : Option Column) (value : Value) : List Parameter :=
  (c?.map fun c => ⟨some c.name, value⟩).toList

theorem forall_mem_columnParameter {c? : Option Column} {value : Value} {P : Parameter → Prop} :
    (∀ q ∈ columnParameter c? value, P q) ↔ ∀ c ∈ c?, P ⟨some c.name, value⟩ := by
  cases c? <;> simp [columnParameter]

theorem columnParameter_pairwise (R : Parameter → Parameter → Prop) (c? : Option Column) (value : Value) :
    (columnParameter c? value).Pairwise R := by
  cases c? <;> simp [columnParameter]

theorem parameters_idTest (key : Column) (tenantKey? : Option Column) (tenant : Value) (p : Pagination)
    (hids : ids ≠ []) : (idTest key tenantKey? tenant ids).parameters p =
      listedParameters key.name ids ++ columnParameter tenantKey? tenant := by
  have hmembers : (Expr.setOf (Expr.listParameters key.name ids)).isEmptySet = false := by
    rw [isEmptySet_setOf, List.isEmpty_eq_false_iff]
    simpa [Expr.listParameters] using hids
  have hbyId : binaryParameters p (Expr.isIn (.name key.name) (Expr.listParameters key.name ids)) =
      listedParameters key.name ids := by
    rw [← allParameters_listParameters p, Expr.isIn, binaryParameters, if_neg (by simp [hmembers])]
    simp [Expr.name, Expr.setOf, Expr.listOf, Expr.parameters, optionParameters]
  cases tenantKey? with
  | none => simp [idTest, Expr.parameters, hbyId, columnParameter]
  | some c =>
    simp [idTest, Expr.allOf, Expr.listOf, Expr.parameters, allParameters, optionParameters, hbyId, parameters_assign,
      columnParameter]

theorem spells_idTest (hbase : key.name ≠ "") (hids : ids ≠ []) (hvalues : ∀ id ∈ ids, id.isNull = false) :
    (idTest key tenantKey? tenant ids).Spells d .named (idText d key ids.length tenantKey?) := by
  have hitem : ∀ entry ∈ ids.zipIdx, (Expr.listParameter key.name entry.2 entry.1).Spells d .named
      (d.namedParameter (listName key.name entry.2)) := by
    intro entry hentry
    have hname : listName? key.name entry.2 = some (listName key.name entry.2) := by simp [listName?, hbase]
    rw [listParameter_eq _ _ (hvalues _ (List.fst_mem_of_mem_zipIdx hentry)), hname]
    exact .parameter _ _
  have hplaces : ids.zipIdx.map (fun entry => d.namedParameter (listName key.name entry.2)) =
      (List.range ids.length).map fun i => d.namedParameter (listName key.name i) := by
    rw [List.range_eq_range', ← List.zipIdx_map_snd 0 ids, List.map_map]
    rfl
  have hbyId := spells_isIn (spells_name key.name) (by simpa using hids) hitem
  rw [hplaces] at hbyId
  have hlisted : Expr.listParameters key.name ids =
      ids.zipIdx.map fun entry => Expr.listParameter key.name entry.2 entry.1 := List.mapIdx_eq_zipIdx_map
  rw [← hlisted] at hbyId
  cases tenantKey? with
  | none => simpa [idTest, idText] using hbyId
  | some c =>
    have hboth := spells_both hbyId (spells_assign c tenant)
    simpa [idTest, idText, Column.assignmentIn, Dialect.placeholderIn, String.append_assoc] using hboth

/-! ## What is bound -/

theorem id_mem_listedParameters (hvalues : ∀ id ∈ ids, id.isNull = false) (base : String) {i : Nat}
    (hi : i < ids.length) : ⟨listName? base i, ids[i]⟩ ∈ listedParameters base ids :=
  mem_listedParameters.2 ⟨i, hi, hvalues _ (List.getElem_mem hi), rfl⟩

/-- A value under a name is compatible with the parameters of ids exactly if it spares them. -/
theorem compatible_iff_spares (hbase : key.name ≠ "") (hvalues : ∀ id ∈ ids, id.isNull = false) {name : String}
    {value : Value} :
    (∀ q ∈ listedParameters key.name ids, q.Compatible ⟨some name, value⟩) ↔ Spares key ids name value := by
  have hname (i : Nat) : listName? key.name i = some (listName key.name i) := by simp [listName?, hbase]
  constructor
  · intro h i hi hsame
    exact h _ (id_mem_listedParameters hvalues key.name hi) (by rw [hname, hsame])
  · rintro h q hq hsame
    obtain ⟨i, hi, -, rfl⟩ := mem_listedParameters.1 hq
    exact h i hi (Option.some.inj (hsame.symm.trans (hname i)))

/-- The parameters of a statement by id: a flag if one is set, the ids, and the tenant if it is tested. -/
def byIdParameters (key : Column) (ids : List Value) (tenantKey? : Option Column) (tenant : Value)
    (flag? : Option Column) : List Parameter :=
  columnParameter flag? (.bool true) ++ (listedParameters key.name ids ++ columnParameter tenantKey? tenant)

theorem byIdParameters_compatible_iff (hbase : key.name ≠ "") (hvalues : ∀ id ∈ ids, id.isNull = false)
    (hne : ∀ flag ∈ flag?, ∀ c ∈ tenantKey?, flag.name ≠ c.name) :
    (byIdParameters key ids tenantKey? tenant flag?).Pairwise Parameter.Compatible ↔
      (∀ c ∈ tenantKey?, Spares key ids c.name tenant) ∧ ∀ c ∈ flag?, Spares key ids c.name (.bool true) := by
  have hlisted : (listedParameters key.name ids).Pairwise Parameter.Compatible :=
    (listedParameters_pairwise hbase ids).imp fun hab hname => absurd hname hab
  have hflag : (∀ c ∈ flag?, ∀ q ∈ listedParameters key.name ids, Parameter.Compatible ⟨some c.name, .bool true⟩ q) ↔
      ∀ c ∈ flag?, Spares key ids c.name (.bool true) :=
    forall₂_congr fun c _ => by
      rw [← compatible_iff_spares hbase hvalues]
      exact forall₂_congr fun q _ => ⟨.symm, .symm⟩
  have htenant : (∀ q ∈ listedParameters key.name ids, ∀ c ∈ tenantKey?, q.Compatible ⟨some c.name, tenant⟩) ↔
      ∀ c ∈ tenantKey?, Spares key ids c.name tenant := by
    simp only [← compatible_iff_spares hbase hvalues]
    exact ⟨fun h c hc q hq => h q hq c hc, fun h q hq c hc => h c hc q hq⟩
  have happart : ∀ flag ∈ flag?, ∀ c ∈ tenantKey?,
      Parameter.Compatible ⟨some flag.name, .bool true⟩ ⟨some c.name, tenant⟩ :=
    fun flag hf c hc hname => absurd (Option.some.inj hname) (hne flag hf c hc)
  simp only [byIdParameters, List.pairwise_append, columnParameter_pairwise, hlisted, List.forall_mem_append,
    forall_mem_columnParameter, true_and, forall_and, hflag, htenant]
  exact ⟨fun h => ⟨h.1, h.2.1⟩, fun h => ⟨h.1, h.2, happart⟩⟩

/-- A statement by id is right exactly if all its parameters have their own values. -/
theorem findsById_iff (hbase : key.name ≠ "") (hvalues : ∀ id ∈ ids, id.isNull = false) {front : String} {r : Rendered}
    (hsql : r.sql = front ++ (d.spaced "WHERE" ++ idText d key ids.length tenantKey?)) :
    FindsById d key ids tenantKey? tenant flag? front r ↔
      ∀ q ∈ byIdParameters key ids tenantKey? tenant flag?, r.Binds q := by
  have hid (i : Nat) (h : i < ids.length) :
      r.Binds ⟨listName? key.name i, ids[i]⟩ ↔ r.args.get? (listName key.name i) = some ids[i] := by
    simp [binds_named, listName?, hbase]
  simp only [byIdParameters, List.forall_mem_append, forall_mem_columnParameter, binds_named]
  constructor
  · rintro ⟨-, hids, htenant, hflag⟩
    refine ⟨hflag, fun q hq => ?_, htenant⟩
    obtain ⟨i, hi, -, rfl⟩ := mem_listedParameters.1 hq
    exact (hid i hi).2 (hids i hi)
  · rintro ⟨hflag, hids, htenant⟩
    exact ⟨hsql, fun i hi => (hid i hi).1 (hids _ (id_mem_listedParameters hvalues key.name hi)), htenant, hflag⟩

/-- **When a statement by id is right** with parameters by name: its names are apart. -/
theorem finds_iff (hd : d.supportsNamed = true) (hids : ids ≠ []) (hvalues : ∀ id ∈ ids, id.isNull = false)
    (hne : ∀ flag ∈ flag?, ∀ c ∈ tenantKey?, flag.name ≠ c.name) {stmt : Expr} {front : String}
    (hparameters : stmt.parameters d.pagination = byIdParameters key ids tenantKey? tenant flag?)
    (hspells : key.name ≠ "" →
      stmt.Spells d .named (front ++ (d.spaced "WHERE" ++ idText d key ids.length tenantKey?))) :
    (∃ r, stmt.render d .named = .ok r ∧ FindsById d key ids tenantKey? tenant flag? front r) ↔
      NamesApart key ids tenantKey? tenant flag? := by
  have hnames : (∀ q ∈ stmt.parameters d.pagination, q.name.isSome = true) ↔ key.name ≠ "" := by
    simp only [hparameters, byIdParameters, List.forall_mem_append, forall_mem_columnParameter, Option.isSome_some,
      implies_true, true_and, and_true]
    constructor
    · intro h hbase
      have hlength : 0 < ids.length := List.length_pos_iff.2 hids
      have hfirst := h _ (id_mem_listedParameters hvalues key.name hlength)
      simp [listName?, hbase] at hfirst
    · intro hbase q hq
      obtain ⟨i, hi, -, rfl⟩ := mem_listedParameters.1 hq
      simp [listName?, hbase]
  constructor
  · rintro ⟨r, hr, hfinds⟩
    have hfault := (render_ok hr).1
    have hbase := hnames.1 ((renders_named_iff hd hfault).1 ⟨r, hr⟩).1
    have hbinds := (findsById_iff hbase hvalues hfinds.sql).1 hfinds
    rw [← hparameters] at hbinds
    have hcompatible := ((binds_iff hd hfault).1 ⟨r, hr, hbinds⟩).2
    rw [hparameters] at hcompatible
    obtain ⟨htenant, hflag⟩ := (byIdParameters_compatible_iff hbase hvalues hne).1 hcompatible
    exact ⟨hbase, htenant, hflag⟩
  · rintro ⟨hbase, htenant, hflag⟩
    have hcompatible := (byIdParameters_compatible_iff hbase hvalues hne).2 ⟨htenant, hflag⟩
    rw [← hparameters] at hcompatible
    obtain ⟨r, hr, hbinds⟩ := (binds_iff hd (hspells hbase).fault).2 ⟨hnames.2 hbase, hcompatible⟩
    rw [hparameters] at hbinds
    exact ⟨r, hr, (findsById_iff hbase hvalues ((hspells hbase).sql hr)).2 hbinds⟩

/-! ## The statements of an entity -/

/-- What a removal says before its condition. -/
def eraseFront (d : Dialect) (table : String) : String := d.keyword "DELETE FROM" ++ " " ++ d.quote table

/-- What a statement that sets a flag says before its condition. -/
def markFront (d : Dialect) (table : String) (flag : Column) : String :=
  d.keyword "UPDATE" ++ " " ++ d.quote table ++ d.spaced "SET" ++
    (d.quote flag.name ++ "=" ++ d.namedParameter flag.name)

/-- What a deletion says before its condition. -/
def deleteFront (d : Dialect) (table : String) (flag? : Option Column) : String :=
  match flag? with
  | none => eraseFront d table
  | some flag => markFront d table flag

/-- What a query says before its condition. -/
def selectFront (d : Dialect) (table : String) (columns : List Column) : String :=
  d.keyword "SELECT" ++ " " ++ ",".intercalate (columns.map fun c => d.quote c.name) ++ d.spaced "FROM" ++ d.quote table

section

variable (hd : d.supportsNamed = true) (hids : ids ≠ []) (hvalues : ∀ id ∈ ids, id.isNull = false) (table : String)

include hd hids hvalues

theorem erase_finds_iff :
    (∃ r, (Expr.delete ⟨.name table, some (idTest key tenantKey? tenant ids)⟩).render d .named = .ok r ∧
        FindsById d key ids tenantKey? tenant none (eraseFront d table) r) ↔
      NamesApart key ids tenantKey? tenant none := by
  refine finds_iff hd hids hvalues (by simp) ?_ fun hbase => ?_
  · rw [Expr.parameters, optionParameters, parameters_idTest key tenantKey? tenant d.pagination hids]
    rfl
  · exact spells_delete table (spells_idTest hbase hids hvalues) (isEmptyCondition_idTest key tenantKey? tenant ids)

theorem mark_finds_iff {flag : Column} (hne : ∀ c ∈ tenantKey?, flag.name ≠ c.name) :
    (∃ r, (Expr.update ⟨.name table, [flag.assign (.bool true)],
          some (idTest key tenantKey? tenant ids)⟩).render d .named = .ok r ∧
        FindsById d key ids tenantKey? tenant (some flag) (markFront d table flag) r) ↔
      NamesApart key ids tenantKey? tenant (some flag) := by
  refine finds_iff hd hids hvalues (by simpa using hne) ?_ fun hbase => ?_
  · rw [Expr.parameters, optionParameters, parameters_idTest key tenantKey? tenant d.pagination hids]
    rfl
  · have hset : ∀ c ∈ [flag], (Expr.binary (c.assign (.bool true))).Spells d .named (c.assignmentIn d .named) :=
      fun c _ => spells_assign c (.bool true)
    exact spells_update table (spells_idTest hbase hids hvalues) (isEmptyCondition_idTest key tenantKey? tenant ids)
      (List.cons_ne_nil _ _) hset

theorem select_finds_iff {columns : List Column} (hcolumns : columns ≠ []) :
    (∃ r, (Expr.select {
          columns := columns.map fun c => .name c.name
          source := some (.name table)
          condition := some (idTest key tenantKey? tenant ids) }).render d .named = .ok r ∧
        FindsById d key ids tenantKey? tenant none (selectFront d table columns) r) ↔
      NamesApart key ids tenantKey? tenant none := by
  have hlist : columns.map (fun c => Expr.name c.name) = (columns.map (·.name)).map .name := by simp
  have hnonempty : columns.map (·.name) ≠ [] := by simpa using hcolumns
  refine finds_iff hd hids hvalues (by simp) ?_ fun hbase => ?_
  · simp only [Expr.parameters, optionParameters, allParameters_names, Pagination.parameters_none, allParameters,
      List.append_nil, parameters_idTest key tenantKey? tenant d.pagination hids]
    rfl
  · have htest : (idTest key tenantKey? tenant ids).Spells d .named (idText d key ids.length tenantKey?) :=
      spells_idTest hbase hids hvalues
    have hspells := spells_select table htest (isEmptyCondition_idTest key tenantKey? tenant ids) hnonempty
    rw [← hlist, List.map_map] at hspells
    exact hspells

end

/-- **The statements by id of an entity** are right with parameters by name exactly if the key has a name and neither
the tenant nor the flag takes the name of an id's parameter. -/
theorem statements_by_id (tenant : Value) (hd : d.supportsNamed = true) {table : String} {columns : List Column}
    {e : Entity} (he : e = .ofColumns table columns) (hnames : (e.mappedColumns.map (·.name)).Nodup)
    (hkeys : e.keys.Distinct) (hkey : e.key? .primary = some key) (hids : ids ≠ [])
    (hvalues : ∀ id ∈ ids, id.isNull = false) :
    (∃ s, e.selectById tenant ids = .ok s ∧
      ((∃ r, (Expr.select s).render d .named = .ok r ∧
          FindsById d key ids (e.testedTenant? tenant) tenant none (selectFront d e.table e.mappedColumns) r) ↔
        NamesApart key ids (e.testedTenant? tenant) tenant none)) ∧
    (∃ x, e.eraseById tenant ids = .ok x ∧
      ((∃ r, x.render d .named = .ok r ∧
          FindsById d key ids (e.testedTenant? tenant) tenant none (eraseFront d e.table) r) ↔
        NamesApart key ids (e.testedTenant? tenant) tenant none)) ∧
    (∃ x, e.deleteById tenant ids = .ok x ∧
      ((∃ r, x.render d .named = .ok r ∧
          FindsById d key ids (e.testedTenant? tenant) tenant (e.key? .softDelete)
            (deleteFront d e.table (e.key? .softDelete)) r) ↔
        NamesApart key ids (e.testedTenant? tenant) tenant (e.key? .softDelete))) := by
  have hcondition := idCondition_eq hkey tenant hids
  have hselect : e.selectById tenant ids =
      .ok {
        columns := e.selectColumns
        source := some e.tableName
        condition := some (idTest key (e.testedTenant? tenant) tenant ids) } := by
    rw [Entity.selectById, hcondition]
    rfl
  have herase : e.eraseById tenant ids =
      .ok (.delete ⟨e.tableName, some (idTest key (e.testedTenant? tenant) tenant ids)⟩) := by
    rw [Entity.eraseById, hcondition]
    rfl
  refine ⟨⟨_, hselect, ?_⟩, ⟨_, herase, erase_finds_iff hd hids hvalues e.table⟩, ?_⟩
  · have hmapped : e.mappedColumns ≠ [] := by
      subst he
      exact List.ne_nil_of_mem (Entity.mem_mappedColumns_of_key hkey)
    exact select_finds_iff hd hids hvalues e.table hmapped
  · cases hflag : e.key? .softDelete with
    | none =>
      refine ⟨_, ?_, erase_finds_iff hd hids hvalues e.table⟩
      rw [Entity.deleteById, hflag]
      exact herase
    | some flag =>
      have hdelete : e.deleteById tenant ids =
          .ok (.update ⟨e.tableName, [flag.assign (.bool true)],
            some (idTest key (e.testedTenant? tenant) tenant ids)⟩) := by
        rw [Entity.deleteById, hflag, hcondition]
        rfl
      refine ⟨_, hdelete, mark_finds_iff hd hids hvalues e.table fun c hc => ?_⟩
      have htenant : e.key? .tenant = some c := by
        unfold Entity.testedTenant? at hc
        split at hc
        · cases hc
        · exact hc
      subst he
      exact Entity.key_name_ne hnames hkeys hflag htenant (by decide)

/-- Rows of a tenant that are marked when they are deleted. -/
def tenantRows : Entity :=
  .ofColumns "user" [.ofField "id" {}, .ofField "tenant_id" {}, .ofField "is_deleted" {}]

theorem statements_by_id_tenantRows :
    ∃ x r, tenantRows.deleteById (.int 7) [.int 1, .int 2] = .ok x ∧ x.render .sqlServer .named = .ok r ∧
      r.sql = "UPDATE [user] SET [is_deleted]=@is_deleted WHERE [id] IN ( @id_0,@id_1 ) AND [tenant_id]=@tenant_id" ∧
      r.args.get? "id_1" = some (.int 2) ∧ r.args.get? "tenant_id" = some (.int 7) ∧
      r.args.get? "is_deleted" = some (.bool true) := by
  have hkey : tenantRows.key? .primary = some (.ofField "id" {}) := by decide
  have htenant : tenantRows.testedTenant? (.int 7) = some (.ofField "tenant_id" {}) := by decide
  have hflag : tenantRows.key? .softDelete = some (.ofField "is_deleted" {}) := by decide
  obtain ⟨-, -, x, hx, hright⟩ := statements_by_id (d := .sqlServer) (.int 7) rfl (e := tenantRows) rfl (by decide)
    (by decide) hkey (List.cons_ne_nil (.int 1) [.int 2]) (by decide)
  rw [htenant, hflag] at hright
  obtain ⟨r, hr, hfinds⟩ := hright.2 ⟨by decide, by rintro c ⟨⟩; decide, by rintro c ⟨⟩; decide⟩
  exact ⟨x, r, hx, hr, hfinds.sql.trans (by decide), hfinds.ids 1 (by decide), hfinds.tenant _ rfl, hfinds.flag _ rfl⟩

/-- The tenant column has the name of the first id's parameter. -/
def takenName : Entity :=
  .ofColumns "t" [.ofField "id" {}, .ofField "id_0" { tenantKey := some true }]

theorem selectById_takenName :
    (takenName.mappedColumns.map (·.name)).Nodup ∧ takenName.keys.Distinct ∧
      ∃ s, takenName.selectById (.int 7) [.int 1] = .ok s ∧
        (Expr.select s).render .mysql .named = .error (.conflictingParameter "id_0") :=
  ⟨by decide, by decide, _, rfl, rfl⟩

end

end Sql
