/-
Queries for the rows that agree with a record.

A record gives one test for each of its mapped columns that is set. The tests are made by zipping columns with values,
so they stand on what the record holds at the places of the columns. `selectByExample_tests` says which these are, and
what the query and its count render to.
-/
import Sql.Proofs.ById
import Sql.Proofs.CriteriaSteps
import Sql.Proofs.ExampleConditions
import Sql.Record.Rules

namespace Sql

variable {ρ : Type} [Record ρ] {d : Dialect} {style : ParamStyle} {e : Entity} {record : ρ}

/-- The zero of each kind of values; that of floating-point numbers has either sign. -/
inductive Value.IsZero : Value → Prop where
  | bool : IsZero (.bool false)
  | int : IsZero (.int 0)
  | uint : IsZero (.uint 0)
  | float {x : Number.Double} (h : x.word = 0) : IsZero (.float x)
  | text : IsZero (.text "")
  | other : IsZero (.other "")
  | bytes : IsZero (.bytes [])
  | numeric {s : String} {x : Number.Double} (hread : Number.Double.read? s = some x) (h : x.word = 0) : IsZero (.numeric s)

/-- What rows have to agree with: in the order of names, the mapped columns that are neither null nor zero in a record,
with what it holds at their places. -/
structure Entity.ExampleTests (e : Entity) (record : ρ) (tests : List (String × Value)) : Prop where
  sorted : Sorted tests
  mem_iff : ∀ name value, (name, value) ∈ tests ↔
    ∃ (place : Nat) (c : Column), e.columns[place]? = some c ∧ c.ignored = false ∧ c.name = name ∧
      (Record.values record)[place]?.getD .null = value ∧ value ≠ .null ∧ ¬ value.IsZero

/-- What the query for a number of rows says before its condition. -/
def countFront (d : Dialect) (table : String) : String :=
  d.keyword "SELECT" ++ " " ++ (d.keyword "COUNT" ++ "(1)") ++ d.spaced "FROM" ++ d.quote table

/-! ## The tests of a record -/

theorem Value.isZero_iff {value : Value} : value.isZero = true ↔ value.IsZero := by
  constructor
  · intro h
    cases value with
    | null | timestamp => cases h
    | bool b =>
      cases b with
      | false => exact .bool
      | true => cases h
    | int n => exact (beq_iff_eq.1 h) ▸ .int
    | uint n => exact (beq_iff_eq.1 h) ▸ .uint
    | float x => exact .float (beq_iff_eq.1 h)
    | text s => exact (String.isEmpty_iff.1 h) ▸ .text
    | other s => exact (String.isEmpty_iff.1 h) ▸ .other
    | bytes bs => exact (List.isEmpty_iff.1 h) ▸ .bytes
    | numeric s =>
      rw [isZero] at h
      cases hread : Number.Double.read? s with
      | none =>
        rw [hread] at h
        cases h
      | some x =>
        rw [hread, Option.any_some] at h
        exact .numeric hread (beq_iff_eq.1 h)
  · intro h
    cases h with
    | bool | int | uint | text | other | bytes => rfl
    | float h => exact beq_iff_eq.2 h
    | numeric hread h =>
      rw [isZero, hread, Option.any_some]
      exact beq_iff_eq.2 h

theorem Value.isNull_eq_false_iff {value : Value} : value.isNull = false ↔ value ≠ .null := by
  cases value <;> simp [isNull]

theorem isUnset_eq_false_iff {value : Value} : Criteria.isUnset value = false ↔ value ≠ .null ∧ ¬ value.IsZero := by
  rw [Criteria.isUnset, Bool.or_eq_false_iff, Value.isNull_eq_false_iff, ← Value.isZero_iff, Bool.not_eq_true]

theorem mem_zip_iff {as : List α} {bs : List β} {a : α} {b : β} :
    (a, b) ∈ as.zip bs ↔ ∃ place : Nat, as[place]? = some a ∧ bs[place]? = some b := by
  simp only [List.mem_iff_getElem?, List.getElem?_zip_eq_some]

/-- A value that is set stands at its place, and what stands at no place is null. -/
theorem valueAt_eq_iff {place : Nat} {value : Value} (h : Criteria.isUnset value = false) :
    (Record.values record)[place]?.getD .null = value ↔ (Record.values record)[place]? = some value := by
  cases (Record.values record)[place]? with
  | some value' => simp
  | none =>
    have hnull : Value.null ≠ value := fun heq => by
      rw [← heq] at h
      cases h
    simp [hnull]

namespace Criteria

/-- The columns that a list of values sets, with what it sets them to. -/
def setColumns (columns : List Column) (values : List Value) : List (Column × Value) :=
  (columns.zip values).filter fun (column, value) => !column.ignored && !isUnset value

theorem setColumns_sublist (columns : List Column) (values : List Value) :
    ((setColumns columns values).map (·.1)).Sublist (columns.filter (!·.ignored)) := by
  induction columns generalizing values with
  | nil => exact List.nil_sublist _
  | cons c columns ih =>
    cases values with
    | nil => exact List.nil_sublist _
    | cons value values =>
      have hrest := ih values
      unfold setColumns at hrest ⊢
      cases hignored : c.ignored <;> cases hunset : isUnset value <;> simp [hignored, hunset, hrest]

theorem mem_setColumns {c : Column} {value : Value} : (c, value) ∈ setColumns e.columns (Record.values record) ↔
    ∃ place : Nat, e.columns[place]? = some c ∧ c.ignored = false ∧
      (Record.values record)[place]?.getD .null = value ∧ isUnset value = false := by
  simp only [setColumns, List.mem_filter, mem_zip_iff, Bool.and_eq_true, Bool.not_eq_true']
  constructor
  · rintro ⟨⟨place, hc, hvalue⟩, hmapped, hset⟩
    exact ⟨place, hc, hmapped, (valueAt_eq_iff hset).2 hvalue, hset⟩
  · rintro ⟨place, hc, hmapped, hvalue, hset⟩
    exact ⟨⟨place, hc, (valueAt_eq_iff hset).1 hvalue⟩, hmapped, hset⟩

/-- The conditions of a record are its tests. -/
theorem exampleTests_ofRecord (hnames : (e.mappedColumns.map (·.name)).Nodup) (record : ρ) :
    e.ExampleTests record (ofRecord e (Record.values record)).conditions.entries := by
  have hset :
      (((setColumns e.columns (Record.values record)).map fun entry => (entry.1.name, entry.2)).map (·.1)).Nodup := by
    have hsub := (setColumns_sublist e.columns (Record.values record)).map (·.name)
    rw [List.map_map] at hsub ⊢
    exact hsub.nodup hnames
  refine ⟨Bindings.sorted _, fun name value => ?_⟩
  have hentries : (name, value) ∈ (ofRecord e (Record.values record)).conditions.entries ↔
      (name, value) ∈ (setColumns e.columns (Record.values record)).map fun entry => (entry.1.name, entry.2) :=
    Bindings.mem_entries_ofList hset
  rw [hentries]
  simp only [List.mem_map, Prod.exists, Prod.mk.injEq, mem_setColumns, isUnset_eq_false_iff]
  constructor
  · rintro ⟨c, _, ⟨place, hc, hmapped, hvalue, hset⟩, hname, rfl⟩
    exact ⟨place, c, hc, hmapped, hname, hvalue, hset⟩
  · rintro ⟨place, c, hc, hmapped, hname, hvalue, hset⟩
    exact ⟨c, value, ⟨place, hc, hmapped, hvalue, hset⟩, hname, rfl⟩

/-! ## Queries with conditions only -/

/-- Tests of values that are not null compare with LIKE where the value is a pattern, and else for equality. -/
theorem whereText_eq_testsText (d : Dialect) (style : ParamStyle) {entries : List (String × Value)}
    (hnull : ∀ entry ∈ entries, entry.2.isNull = false) : whereText d style entries = testsText d style entries := by
  have htests : entries.map (fun entry => testText d style entry.1 entry.2) = entries.map (columnText d style) := by
    refine List.map_congr_left fun entry hentry => ?_
    obtain ⟨column, value⟩ := entry
    cases value with
    | null => cases hnull _ hentry
    | text s => simp [testText, Fragment.test, columnText, isPattern_text]
    | bool | int | uint | float | bytes | timestamp | numeric | other => rfl
  rw [whereText, testsText, htests]

variable {b : Bindings Value}

theorem spells_toSelect (table : String) {es : List α} {f : α → Expr} {g : α → String} (hes : es ≠ [])
    (h : ∀ e ∈ es, (f e).Spells d style (g e)) (hnull : ∀ entry ∈ b.entries, entry.2.isNull = false) :
    (Expr.select (({ conditions := b } : Criteria).toSelect (.name table) (es.map f))).Spells d style
      (d.keyword "SELECT" ++ " " ++ ",".intercalate (es.map g) ++ d.spaced "FROM" ++ d.quote table ++
        whereText d style b.entries) := by
  have hsome : (es.map f).isEmpty = false := List.isEmpty_eq_false_iff.2 (by simpa using hes)
  rw [Expr.Spells, script_toSelect, frontScript, hsome]
  exact (((((spells_word "SELECT").append (.literal " ")).append (spells_commas h)).append
    (spells_spacedWord "FROM")).append (spells_name table)).append (spells_where d style hnull)

/-- Where no value is null, every condition has a parameter. -/
theorem conditionParameters_eq {entries : List (String × Value)} (hnull : ∀ entry ∈ entries, entry.2.isNull = false) :
    conditionParameters entries = entries.map .ofEntry := by
  have hkept : (entries.filter fun entry => !entry.2.isNull) = entries :=
    List.filter_eq_self.2 fun entry hentry => by rw [hnull entry hentry, Bool.not_false]
  rw [conditionParameters, hkept]
  rfl

theorem parameters_conditions (p : Pagination) {table : Expr} (htable : table.isIdentifier = true) {columns : List Expr}
    (hcolumns : allParameters p columns = []) (hnull : ∀ entry ∈ b.entries, entry.2.isNull = false) :
    (Expr.select (({ conditions := b } : Criteria).toSelect table columns)).parameters p = b.entries.map .ofEntry := by
  have hall := conditionParameters_eq hnull
  have hcondition := parameters_condition (c := { conditions := b }) p
  have htable := parameters_identifier htable p
  have hzero : ¬ (0 : UInt64) < 0 := by decide
  simp only [toSelect, Expr.parameters, hcolumns, hcondition, htable, hall, hzero, if_false, Pagination.parameters_none,
    optionParameters, List.isEmpty_nil, if_true, allParameters, List.nil_append, List.append_nil]

theorem render_toSelect (hd : style = .named → d.supportsNamed = true) (table : String) {es : List α} {f : α → Expr}
    {g : α → String} (hes : es ≠ []) (h : ∀ e ∈ es, (f e).Spells d style (g e))
    (hparameters : allParameters d.pagination (es.map f) = []) (hnull : ∀ entry ∈ b.entries, entry.2.isNull = false) :
    ∃ args, (Expr.select (({ conditions := b } : Criteria).toSelect (.name table) (es.map f))).render d style =
        .ok ⟨d.keyword "SELECT" ++ " " ++ ",".intercalate (es.map g) ++ d.spaced "FROM" ++ d.quote table ++
          whereText d style b.entries, args⟩ ∧
      args.Hold style b.entries :=
  render_of_spells hd (spells_toSelect table hes h hnull) (parameters_conditions _ rfl hparameters hnull) b.names_nodup

end Criteria

/-! ## Queries by example -/

/-- **What a query by example asks for**: the mapped columns of the rows that agree with the record in all that it sets,
and their number under the same condition with the same arguments. -/
theorem selectByExample_tests (hd : style = .named → d.supportsNamed = true) (hmapped : e.mappedColumns ≠ [])
    (hnames : (e.mappedColumns.map (·.name)).Nodup) (record : ρ) :
    ∃ tests args, e.ExampleTests record tests ∧ args.Hold style tests ∧
      (Expr.select (e.selectByExample record)).render d style =
        .ok ⟨selectFront d e.table e.mappedColumns ++ Criteria.testsText d style tests, args⟩ ∧
      (Expr.select (e.countByExample record)).render d style =
        .ok ⟨countFront d e.table ++ Criteria.testsText d style tests, args⟩ := by
  have htests := Criteria.exampleTests_ofRecord hnames record
  have hnull : ∀ entry ∈ (Criteria.ofRecord e (Record.values record)).conditions.entries, entry.2.isNull = false := by
    rintro ⟨name, value⟩ hmem
    obtain ⟨_, _, -, -, -, -, hnull, -⟩ := (htests.mem_iff name value).1 hmem
    exact Value.isNull_eq_false_iff.2 hnull
  obtain ⟨args, hselect, hargs⟩ := Criteria.render_toSelect hd e.table hmapped (fun c _ => spells_name c.name)
    (allParameters_names _ _ _) hnull
  have hcount : ∀ item ∈ [Expr.countOne], item.Spells d style (d.keyword "COUNT" ++ "(1)") :=
    List.forall_mem_singleton.2 spells_countOne
  obtain ⟨args', hrender, hargs'⟩ := Criteria.render_toSelect hd e.table (List.cons_ne_nil _ _) hcount rfl hnull
  obtain rfl := hargs.eq hargs'
  rw [Criteria.whereText_eq_testsText d style hnull] at hselect hrender
  -- The count of what criteria select is what they select for one column.
  exact ⟨_, args, htests, hargs, hselect, hrender⟩

/-- Users with a rating that is not in the table. -/
def ratedUsers : Entity :=
  .ofColumns "user" [.ofField "rating" { ignored := true }, .ofField "name" {}, .ofField "id" {}, .ofField "age" {},
    .ofField "note" {}]

/-- A name that is a pattern, no id, an age, and nothing for the note. -/
def ratedExample : RuledRecord where
  entity := ratedUsers
  values := [.int 5, .text "gn%", .int 0, .int 18]

theorem selectByExample_tests_ratedExample :
    ∃ tests values, ratedUsers.ExampleTests ratedExample tests ∧
      (∀ name value, values.get? name = some value ↔ (name, value) ∈ tests) ∧
      (Expr.select (ratedUsers.selectByExample ratedExample)).render .sqlServer .named =
        .ok ⟨"SELECT [name],[id],[age],[note] FROM [user] WHERE [age]=@age AND [name] LIKE @name", .named values⟩ ∧
      (Expr.select (ratedUsers.countByExample ratedExample)).render .sqlServer .named =
        .ok ⟨"SELECT COUNT(1) FROM [user] WHERE [age]=@age AND [name] LIKE @name", .named values⟩ := by
  have hstyle : ParamStyle.named = .named → Dialect.sqlServer.supportsNamed = true := fun _ => rfl
  obtain ⟨tests, _, htests, ⟨values, rfl, hvalues⟩, hselect, hcount⟩ :=
    selectByExample_tests (e := ratedUsers) hstyle (by decide) (by decide) ratedExample
  obtain ⟨args, hselected⟩ : ∃ args, (Expr.select (ratedUsers.selectByExample ratedExample)).render .sqlServer .named =
      .ok ⟨"SELECT [name],[id],[age],[note] FROM [user] WHERE [age]=@age AND [name] LIKE @name", args⟩ :=
    ⟨_, (Expr.render_eq _ _ _).trans rfl⟩
  obtain ⟨args', hcounted⟩ : ∃ args, (Expr.select (ratedUsers.countByExample ratedExample)).render .sqlServer .named =
      .ok ⟨"SELECT COUNT(1) FROM [user] WHERE [age]=@age AND [name] LIKE @name", args⟩ :=
    ⟨_, (Expr.render_eq _ _ _).trans rfl⟩
  obtain ⟨-, rfl⟩ := Rendered.mk.inj (Except.ok.inj (hselect.symm.trans hselected))
  obtain ⟨-, rfl⟩ := Rendered.mk.inj (Except.ok.inj (hcount.symm.trans hcounted))
  exact ⟨tests, values, htests, hvalues, hselected, hcounted⟩

end Sql
