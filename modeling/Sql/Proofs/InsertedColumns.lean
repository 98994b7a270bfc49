/-
What an insertion writes, and where.

The columns of an INSERT statement are the value columns of the entity, and each gets what the record holds at the place
of the column among all columns, ignored ones and keys included. `insert_renders` says so of the text, which is that of
the fragments for hand-written statements, and of the arguments in both styles.
-/
import Sql.Fragment
import Sql.Proofs.ColumnValues
import Sql.Record.Rules

namespace Sql

namespace Entity

variable {ρ : Type} [Record ρ] {d : Dialect} {style : ParamStyle} {e : Entity}

/-- `INSERT INTO table ( columns ) VALUES ( values )` -/
def insertText (d : Dialect) (e : Entity) (values : String) : String :=
  d.keyword "INSERT INTO" ++ " " ++ d.quote e.table ++ " " ++ ("( " ++ Fragment.columns d e.columns ++ " )") ++
    d.spaced "VALUES" ++ ("( " ++ values ++ " )")

/-! ## Value columns with their places -/

theorem mem_valueColumns {c : Column} {place : Nat} :
    (c, place) ∈ e.valueColumns ↔ e.columns[place]? = some c ∧ c.isValueColumn = true := by
  rw [valueColumns, List.mem_filter, List.mem_zipIdx_iff_getElem?]

theorem map_fst_valueColumns (e : Entity) : e.valueColumns.map (·.1) = e.columns.filter (·.isValueColumn) := by
  have hcolumns : e.columns.zipIdx.map (·.1) = e.columns := List.zipIdx_map_fst 0 e.columns
  rw [valueColumns, ← hcolumns, List.filter_map, hcolumns]
  rfl

/-- What is said of value columns without their places. -/
theorem map_valueColumns (e : Entity) (f : Column → α) :
    e.valueColumns.map (fun entry => f entry.1) = (e.columns.filter (·.isValueColumn)).map f := by
  rw [← map_fst_valueColumns, List.map_map]
  rfl

/-- What an insertion binds: each value column has what the record holds at the place of the column. -/
theorem mem_columnValues_valueColumns {record : ρ} {name : String} {value : Value} :
    (name, value) ∈ Record.columnValues record e.valueColumns ↔
      ∃ (place : Nat) (c : Column), e.columns[place]? = some c ∧ (c.ignored = false ∧ c.isPrimaryKey = false) ∧ c.name = name ∧
        (Record.values record)[place]?.getD .null = value := by
  simp only [Record.columnValues, List.mem_map, Prod.exists, Prod.mk.injEq]
  constructor
  · rintro ⟨c, place, hmem, hname, hvalue⟩
    obtain ⟨hc, hwritten⟩ := mem_valueColumns.1 hmem
    exact ⟨place, c, hc, Column.isValueColumn_iff.1 hwritten, hname, hvalue⟩
  · rintro ⟨place, c, hc, hflags, hname, hvalue⟩
    exact ⟨c, place, mem_valueColumns.2 ⟨hc, Column.isValueColumn_iff.2 hflags⟩, hname, hvalue⟩

/-! ## One statement -/

theorem insertOne_eq (record : ρ) :
    e.insertOne record = ⟨.name e.table, e.valueColumns.map fun entry => .name entry.1.name,
      e.valueColumns.map fun entry => .var entry.1.name (Record.valueAt record entry.2)⟩ := by
  simp only [insertOne, Insert.withPairs, List.map_map]
  rfl

theorem spells_insertOne (hcolumns : e.valueColumns ≠ []) (record : ρ) :
    (Expr.insert (e.insertOne record)).Spells d style
      (e.insertText d (Fragment.commaJoined (e.valueColumns.map fun entry => d.placeholderIn style entry.1.name))) := by
  have hspells : Expr.Spells d style (.insert ⟨.name e.table, _, _⟩) _ :=
    spells_insert e.table hcolumns (fun entry _ => spells_name entry.1.name)
      fun entry _ => spells_var entry.1.name (Record.valueAt record entry.2)
  rw [map_valueColumns e fun c => d.quote c.name] at hspells
  rw [insertOne_eq]
  exact hspells

theorem parameters_insertOne (p : Pagination) (record : ρ) :
    (Expr.insert (e.insertOne record)).parameters p = (Record.columnValues record e.valueColumns).map .ofEntry := by
  rw [insertOne_eq, Expr.parameters, allParameters_names, allParameters_eq, List.flatMap_map, Record.columnValues,
    List.map_map, List.map_eq_flatMap]
  rfl

theorem names_columnValues (record : ρ) :
    (Record.columnValues record e.valueColumns).map (·.1) = (e.columns.filter (·.isValueColumn)).map (·.name) := by
  rw [Record.columnValues, List.map_map, ← map_valueColumns e (·.name)]
  rfl

theorem render_insertOne (hd : style = .named → d.supportsNamed = true)
    (hcolumns : e.columns.filter (·.isValueColumn) ≠ [])
    (hnames : ((e.columns.filter (·.isValueColumn)).map (·.name)).Nodup) (record : ρ) :
    ∃ args, (Expr.insert (e.insertOne record)).render d style =
        .ok ⟨e.insertText d (Fragment.commaJoined
          ((e.columns.filter (·.isValueColumn)).map fun c => d.placeholderIn style c.name)), args⟩ ∧
      args.Hold style (Record.columnValues record e.valueColumns) := by
  have hsome : e.valueColumns ≠ [] := by
    intro hnone
    rw [← map_fst_valueColumns, hnone] at hcolumns
    exact hcolumns rfl
  have hspells : Expr.Spells d style _ _ := spells_insertOne hsome record
  rw [map_valueColumns e fun c => d.placeholderIn style c.name] at hspells
  rw [← names_columnValues record] at hnames
  exact render_of_spells hd hspells (parameters_insertOne d.pagination record) hnames

/-! ## All statements -/

/-- **What an insertion writes**: one statement for each record, and in each, for every value column, what the record
holds at the place of that column. The text is that of the fragments for the columns and for their parameters. -/
theorem insert_renders (hcolumns : e.columns.filter (fun c => !c.ignored && !c.isPrimaryKey) ≠ [])
    (hnames : ((e.columns.filter fun c => !c.ignored && !c.isPrimaryKey).map (·.name)).Nodup) {records : List ρ}
    (hsome : records ≠ []) (hplain : ∀ record ∈ records, Record.hooks? record = none) :
    e.insert records = (records, .ok (records.map e.insertOne)) ∧
    ∀ record ∈ records, ∀ d : Dialect,
      (d.supportsNamed = true → ∃ values,
        (Expr.insert (e.insertOne record)).render d .named =
          .ok ⟨e.insertText d (Fragment.parameters d e.columns), .named values⟩ ∧
        ∀ name value, values.get? name = some value ↔
          ∃ (place : Nat) (c : Column), e.columns[place]? = some c ∧ (c.ignored = false ∧ c.isPrimaryKey = false) ∧
            c.name = name ∧ (Record.values record)[place]?.getD .null = value) ∧
      (Expr.insert (e.insertOne record)).render d .positional =
        .ok ⟨e.insertText d (Fragment.commaJoined
            ((e.columns.filter fun c => !c.ignored && !c.isPrimaryKey).map fun _ => d.placeholder)),
          .positional ((e.columns.zipIdx.filter fun entry => !entry.1.ignored && !entry.1.isPrimaryKey).map fun entry =>
            (Record.values record)[entry.2]?.getD .null)⟩ := by
  refine ⟨?_, fun record hrecord d => ⟨fun hd => ?_, ?_⟩⟩
  · rw [insert, if_neg (by simpa using hsome), Record.runHooks_plain hplain]
  · have hstyle : ParamStyle.named = .named → d.supportsNamed = true := fun _ => hd
    obtain ⟨_, hrender, values, rfl, hvalues⟩ := render_insertOne hstyle hcolumns hnames record
    exact ⟨values, hrender, fun name value => (hvalues name value).trans mem_columnValues_valueColumns⟩
  · have hstyle : ParamStyle.positional = .named → d.supportsNamed = true := fun h => by cases h
    obtain ⟨_, hrender, rfl⟩ := render_insertOne hstyle hcolumns hnames record
    rw [Record.columnValues, List.map_map] at hrender
    exact hrender

/-- Users with a column that is not in the table, before their names and notes. -/
def scoredUsers : Entity :=
  .ofColumns "user" [.ofField "score" { ignored := true }, .ofField "id" {}, .ofField "UserName" {}, .ofField "note" {}]

/-- A user with fewer values than columns, and one with more. -/
def scoredRecords : List RuledRecord :=
  [{ entity := scoredUsers, values := [.int 9, .int 1, .text "ann"] },
    { entity := scoredUsers, values := [.int 8, .null, .text "bob", .text "x", .int 5] }]

/-- The first user has no note. -/
theorem insert_renders_scoredRecords :
    ∃ first second held held', scoredUsers.insert scoredRecords = (scoredRecords, .ok [first, second]) ∧
      (Expr.insert first).render .sqlServer .named =
        .ok ⟨"INSERT INTO [user] ( [user_name],[note] ) VALUES ( @user_name,@note )", .named held⟩ ∧
      held.get? "user_name" = some (.text "ann") ∧ held.get? "note" = some .null ∧
      (Expr.insert second).render .sqlServer .named =
        .ok ⟨"INSERT INTO [user] ( [user_name],[note] ) VALUES ( @user_name,@note )", .named held'⟩ ∧
      held'.get? "user_name" = some (.text "bob") ∧ held'.get? "note" = some (.text "x") := by
  have hsome : scoredRecords ≠ [] := List.cons_ne_nil _ _
  obtain ⟨hinsert, hrenders⟩ := insert_renders (e := scoredUsers) (by decide) (by decide) hsome (by decide)
  have htext : scoredUsers.insertText .sqlServer (Fragment.parameters .sqlServer scoredUsers.columns) =
      "INSERT INTO [user] ( [user_name],[note] ) VALUES ( @user_name,@note )" := by decide
  have hname : scoredUsers.columns[2]? = some (.ofField "UserName" {}) := by decide
  have hnote : scoredUsers.columns[3]? = some (.ofField "note" {}) := by decide
  obtain ⟨held, hrender, hheld⟩ := (hrenders _ (List.mem_cons_self) .sqlServer).1 rfl
  obtain ⟨held', hrender', hheld'⟩ := (hrenders _ (List.mem_cons_of_mem _ List.mem_cons_self) .sqlServer).1 rfl
  rw [htext] at hrender hrender'
  exact ⟨_, _, held, held', hinsert, hrender, (hheld _ _).2 ⟨2, _, hname, ⟨rfl, rfl⟩, by decide, rfl⟩,
    (hheld _ _).2 ⟨3, _, hnote, ⟨rfl, rfl⟩, rfl, rfl⟩, hrender',
    (hheld' _ _).2 ⟨2, _, hname, ⟨rfl, rfl⟩, by decide, rfl⟩, (hheld' _ _).2 ⟨3, _, hnote, ⟨rfl, rfl⟩, rfl, rfl⟩⟩

end Entity

end Sql
