/-
The conditions that a filter gives.

A field of a filter means a column, and it tests this column unless it is ignored. Criteria have one condition for each
name of a column, so of several fields that mean columns of one name the last counts: `ofFilter_tests` says which tests
a query has, and that a filter is refused only for a field that means no column.
-/
import Sql.Proofs.CriteriaParameters
import Sql.Proofs.LastEntries

namespace Sql

namespace Criteria

/-! ## Tests -/

/-- One of the tests of the WHERE clause. -/
def HasTest (c : Criteria) (b : Binary Expr) : Prop :=
  ∃ tests, c.condition? = some (.allOf tests) ∧ Expr.binary b ∈ tests

/-- The WHERE clause compares a column with a value. -/
def Tests (c : Criteria) (column : String) (value : Value) : Prop :=
  c.HasTest ⟨.name column, testOp value, testOperand column value⟩

/-- There is a test for each condition. -/
theorem hasTest_iff {c : Criteria} {b : Binary Expr} :
    c.HasTest b ↔ ∃ entry ∈ c.conditions.entries, ⟨.name entry.1, testOp entry.2, testOperand entry.1 entry.2⟩ = b := by
  by_cases hsome : c.conditions.entries = []
  · simp [HasTest, condition?_eq_none hsome, hsome]
  · simp [HasTest, condition?_eq hsome, Expr.allOf, Expr.listOf]

theorem testOperand_injective {column : String} {value value' : Value}
    (h : testOperand column value = testOperand column value') : value = value' := by
  have hnull {v : Value} (hv : v.isNull = true) : v = .null := by cases v <;> simp [Value.isNull] at hv ⊢
  unfold testOperand at h
  split at h <;> split at h
  · next hleft hright => rw [hnull hleft, hnull hright]
  · cases h
  · cases h
  · injection h

/-- The tests of criteria are their conditions. -/
theorem tests_iff {c : Criteria} {column : String} {value : Value} :
    c.Tests column value ↔ c.conditions.get? column = some value := by
  rw [Bindings.get?_eq_some_iff, Tests, hasTest_iff]
  constructor
  · rintro ⟨⟨column', value'⟩, hmem, htest⟩
    injection htest with hcolumn _ hoperand
    injection hcolumn with _ hcolumn
    obtain rfl : column' = column := hcolumn
    rwa [← testOperand_injective hoperand]
  · exact fun hmem => ⟨_, hmem, rfl⟩

/-! ## Fields of a filter -/

/-- No column has a name, nor its field. -/
def Unnamed (e : Entity) (name : String) : Prop := ∀ c ∈ e.columns, c.name ≠ name ∧ c.field ≠ name

/-- The first column that has a name, or whose field has it. -/
def FirstNamed (e : Entity) (name : String) (c : Column) : Prop :=
  (c.name = name ∨ c.field = name) ∧
    ∃ before after, e.columns = before ++ c :: after ∧ ∀ other ∈ before, other.name ≠ name ∧ other.field ≠ name

/-- The column that a field of a filter means: the first that has its name, or the first that has this name in snake case if
there is none. -/
def Means (e : Entity) (key : String) (c : Column) : Prop :=
  FirstNamed e key c ∨ Unnamed e key ∧ FirstNamed e (Text.snake key) c

/-- A field tests the column that it means under the name of the column, unless the column is ignored. -/
def FieldTests (e : Entity) (key column : String) : Prop :=
  ∃ c, Means e key c ∧ c.ignored = false ∧ c.name = column

theorem column?_eq_none_iff {e : Entity} {name : String} : e.column? name = none ↔ Unnamed e name := by
  simp [Entity.column?, Column.answersTo, Unnamed]

theorem column?_eq_some_iff {e : Entity} {name : String} {c : Column} :
    e.column? name = some c ↔ FirstNamed e name c := by
  simp [Entity.column?, List.find?_eq_some_iff_append, Column.answersTo, FirstNamed]

/-- The column that a field means: the first that answers to its name, else the first that answers to this name in snake
case. -/
def meantColumn? (e : Entity) (key : String) : Option Column :=
  e.column? key <|> e.column? (Text.snake key)

/-- The name of the column that a field tests; a field that means an ignored column tests nothing. -/
def testedName? (e : Entity) (key : String) : Option String :=
  ((meantColumn? e key).filter (!·.ignored)).map (·.name)

theorem meantColumn?_eq_none {e : Entity} {key : String} :
    meantColumn? e key = none ↔ Unnamed e key ∧ Unnamed e (Text.snake key) := by
  simp [meantColumn?, column?_eq_none_iff]

theorem meantColumn?_eq_some_iff {e : Entity} {key : String} {c : Column} :
    meantColumn? e key = some c ↔ Means e key c := by
  rw [meantColumn?, Means, ← column?_eq_some_iff, ← column?_eq_some_iff, ← column?_eq_none_iff]
  cases e.column? key <;> simp

theorem testedName?_eq_some_iff {e : Entity} {key column : String} :
    testedName? e key = some column ↔ FieldTests e key column := by
  simp only [testedName?, FieldTests, ← meantColumn?_eq_some_iff, Option.map_eq_some_iff, Option.filter_eq_some_iff,
    Bool.not_eq_true', and_assoc]

theorem filterColumn_eq (e : Entity) (key : String) :
    filterColumn e key =
      match meantColumn? e key with
      | some column => .ok column
      | none => .error (.validation (.notAColumn key e.table)) := rfl

/-- The fields of a filter are taken in order, up to the first that means no column. -/
theorem filterConditions_eq (e : Entity) (fields : List (String × Value)) :
    filterConditions e fields =
      match fields.find? fun field => (meantColumn? e field.1).isNone with
      | some field => .error (.validation (.notAColumn field.1 e.table))
      | none => .ok (fields.filterMap fun field => (testedName? e field.1).map fun name => (name, field.2)) := by
  induction fields with
  | nil => rfl
  | cons field fields ih =>
    obtain ⟨key, value⟩ := field
    rw [filterConditions, filterColumn_eq, List.find?_cons, ih]
    cases hcolumn : meantColumn? e key with
    | none => rfl
    | some column =>
      simp only [Option.isNone_some]
      cases fields.find? fun field => (meantColumn? e field.1).isNone with
      | some field => rfl
      | none =>
        cases hignored : column.ignored <;>
          simp [testedName?, hcolumn, hignored, Option.filter, bind, Except.bind, pure, Except.pure]

theorem ofFilter_eq {e : Entity} {x : Example} {fields : List (String × Value)} (hfields : x.fields = .ok fields) :
    ofFilter e x = (filterConditions e fields).map fun conditions => { conditions := .ofList conditions } := by
  have hstep : ofFilter e x =
      filterConditions e fields >>= fun conditions => pure { conditions := .ofList conditions } := by
    rw [ofFilter, hfields]
    rfl
  rw [hstep]
  cases filterConditions e fields <;> rfl

/-- An example without fields is refused as data, and not for its names. -/
theorem fields_error {x : Example} {error : Error} (h : x.fields = .error error) :
    ∃ fault, error = .serialization fault := by
  unfold Example.fields at h
  cases hdata : x.toJson >>= Example.dataFields with
  | ok fields =>
    rw [hdata] at h
    cases h
  | error fault =>
    rw [hdata] at h
    exact ⟨fault, (Except.error.inj h).symm⟩

/-- A filter is refused for its names exactly if a field means no column. -/
theorem ofFilter_refused_iff {e : Entity} {x : Example} :
    (∃ fault, ofFilter e x = .error (.validation fault)) ↔
      ∃ fields, x.fields = .ok fields ∧ ∃ field ∈ fields, meantColumn? e field.1 = none := by
  cases hfields : x.fields with
  | error error =>
    obtain ⟨fault, rfl⟩ := fields_error hfields
    have hrefused : ofFilter e x = .error (.serialization fault) := by
      rw [ofFilter, hfields]
      rfl
    simp [hrefused]
  | ok fields =>
    rw [ofFilter_eq hfields, filterConditions_eq]
    cases hfind : fields.find? fun field => (meantColumn? e field.1).isNone with
    | some field =>
      have hnone : meantColumn? e field.1 = none := by simpa using List.find?_some hfind
      exact iff_of_true ⟨_, rfl⟩ ⟨fields, rfl, field, List.mem_of_find?_eq_some hfind, hnone⟩
    | none =>
      refine iff_of_false (by simp [Except.map]) ?_
      rintro ⟨fields', hfields', field, hmem, hnone⟩
      obtain rfl := Except.ok.inj hfields'
      simpa [hnone] using List.find?_eq_none.1 hfind field hmem

/-- The last field that tests a column of a name. -/
def LastTested (e : Entity) (fields : List (String × Value)) (column : String) (value : Value) : Prop :=
  ∃ before key after, fields = before ++ (key, value) :: after ∧ FieldTests e key column ∧
    ∀ later ∈ after, ¬ FieldTests e later.1 column

theorem mem_filterMap_tested {e : Entity} {fields : List (String × Value)} {entry : String × Value} :
    entry ∈ fields.filterMap (fun field => (testedName? e field.1).map fun name => (name, field.2)) ↔
      ∃ key, (key, entry.2) ∈ fields ∧ testedName? e key = some entry.1 := by
  obtain ⟨name, value⟩ := entry
  simp only [List.mem_filterMap, Option.map_eq_some_iff, Prod.mk.injEq, Prod.exists]
  constructor
  · rintro ⟨key, _, hmem, _, hname, rfl, rfl⟩
    exact ⟨key, hmem, hname⟩
  · rintro ⟨key, hmem, hname⟩
    exact ⟨key, value, hmem, name, hname, rfl, rfl⟩

theorem lastTested_iff {e : Entity} {fields : List (String × Value)} {column : String} {value : Value} :
    LastTested e fields column value ↔
      (Bindings.ofList (fields.filterMap fun field => (testedName? e field.1).map fun name => (name, field.2))).get?
        column = some value := by
  rw [Bindings.get?_ofList_eq_some_iff]
  simp only [LastTested, ← testedName?_eq_some_iff]
  constructor
  · rintro ⟨before, key, after, rfl, hname, hlast⟩
    rw [List.filterMap_append, List.filterMap_cons_some (by rw [hname]; rfl)]
    refine ⟨_, _, rfl, fun later hlater hcolumn => ?_⟩
    obtain ⟨key', hmem, hname'⟩ := mem_filterMap_tested.1 hlater
    exact hlast _ hmem (hname'.trans (congrArg some hcolumn))
  · rintro ⟨before, after, hentries, hlast⟩
    obtain ⟨front, back, rfl, -, hback⟩ := List.filterMap_eq_append_iff.1 hentries
    obtain ⟨silent, field, rest, rfl, -, hfield, rfl⟩ := List.filterMap_eq_cons_iff.1 hback
    obtain ⟨name, hname, hentry⟩ := Option.map_eq_some_iff.1 hfield
    obtain ⟨rfl, rfl⟩ := Prod.mk.inj hentry
    refine ⟨front ++ silent, field.1, rest, by simp, hname, fun later hlater hcolumn => ?_⟩
    exact hlast (name, later.2) (mem_filterMap_tested.2 ⟨later.1, hlater, hcolumn⟩) rfl

/-- **The tests of a filter**: a filter is refused for its names exactly if a field means no column, as it stands or in
snake case, and what is tested under the name of a column is the value of the last field that tests such a column. -/
theorem ofFilter_tests (e : Entity) (x : Example) :
    ((∃ fault, ofFilter e x = .error (.validation fault)) ↔
      ∃ fields, x.fields = .ok fields ∧
        ∃ field ∈ fields, Unnamed e field.1 ∧ Unnamed e (Text.snake field.1)) ∧
    ∀ c, ofFilter e x = .ok c →
      ∃ fields, x.fields = .ok fields ∧ ∀ column value, c.Tests column value ↔ LastTested e fields column value := by
  refine ⟨by simpa only [meantColumn?_eq_none] using ofFilter_refused_iff, fun c hc => ?_⟩
  cases hfields : x.fields with
  | error error =>
    rw [ofFilter, hfields] at hc
    cases hc
  | ok fields =>
    rw [ofFilter_eq hfields, filterConditions_eq] at hc
    cases hfind : fields.find? fun field => (meantColumn? e field.1).isNone with
    | some field =>
      rw [hfind] at hc
      cases hc
    | none =>
      rw [hfind] at hc
      obtain rfl := Except.ok.inj hc
      exact ⟨fields, rfl, fun column value => tests_iff.trans lastTested_iff.symm⟩

/-- Users with a name and a nickname; what is kept about the nickname in a second field is no column. -/
def namedUsers : Entity :=
  .ofColumns "user" [.ofField "id" {}, .ofField "nick" { ignored := true, column := some "cache" },
    .ofField "UserName" {}, .ofField "alias" { column := some "nick" }]

/-- A field in another case, behind one that is ignored. -/
theorem ofFilter_tests_ignoredAndName :
    ∃ c, ofFilter namedUsers (.data (.ofFields [("cache", .text "x"), ("userName", .text "ann")])) = .ok c ∧
      c.Tests "user_name" (.text "ann") := by
  obtain ⟨fields, hfields, htests⟩ :=
    (ofFilter_tests namedUsers (.data (.ofFields [("cache", .text "x"), ("userName", .text "ann")]))).2 _ rfl
  obtain rfl : [("cache", .text "x"), ("userName", .text "ann")] = fields := Except.ok.inj hfields
  have hname : FieldTests namedUsers "userName" "user_name" := testedName?_eq_some_iff.1 rfl
  exact ⟨_, rfl, (htests _ _).2 ⟨[("cache", .text "x")], "userName", [], rfl, hname, List.forall_mem_nil _⟩⟩

/-- Two ways to lose a test: one column under both of its names, of which the second test takes the place of the first,
and the name of a column that is the field of an ignored one before it. -/
theorem ofFilter_lostTests :
    (∃ c, ofFilter namedUsers (.data (.ofFields [("UserName", .text "ann"), ("user_name", .text "bob")])) = .ok c ∧
      namedUsers.mappedColumns.filter (·.answersTo "UserName") = [.ofField "UserName" {}] ∧
      c.Tests "user_name" (.text "bob") ∧ ¬ c.Tests "user_name" (.text "ann")) ∧
    ∃ c, ofFilter namedUsers (.data (.ofFields [("nick", .text "bo")])) = .ok c ∧
      namedUsers.mappedColumns.filter (·.answersTo "nick") = [.ofField "alias" { column := some "nick" }] ∧
      ¬ c.Tests "nick" (.text "bo") :=
  ⟨⟨_, rfl, by decide, tests_iff.2 rfl, mt tests_iff.1 (by decide)⟩, ⟨_, rfl, by decide, mt tests_iff.1 (by decide)⟩⟩

end Criteria

end Sql
