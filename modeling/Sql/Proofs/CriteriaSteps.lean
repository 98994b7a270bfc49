/-
Criteria that are built step by step.

Steps give values to columns, one at a time or several at once, and say how rows are ordered and cut off. Of the values
only the last one of each column counts: `run_tests` says which condition the steps make, that they make the same
statements as any other steps with the same last values, and what a query and its count have in common.
-/
import Sql.Proofs.CountQuery
import Sql.Proofs.CriteriaParameters
import Sql.Proofs.LastEntries
import Sql.Proofs.PatternConditions
import Sql.Proofs.Utf8Text

namespace Sql

/-! ## Steps -/

/-- A step in the making of criteria. -/
inductive CriteriaStep where
  | give (column : String) (value : Value)
  | giveAll (entries : List (String × Value))
  | order (columns : List String)
  | sort (direction : Direction) (columns : List String)
  | limit (n : UInt64)
  | offset (n : UInt64)

namespace CriteriaStep

def apply (c : Criteria) : CriteriaStep → Criteria
  | .give column value => c.withValue column value
  | .giveAll entries => c.withValues entries
  | .order columns => c.orderBy columns
  | .sort direction columns => c.sorted direction columns
  | .limit n => { c with limit := n }
  | .offset n => { c with offset := n }

/-- The values that a step gives to columns. -/
def given : CriteriaStep → List (String × Value)
  | .give column value => [(column, value)]
  | .giveAll entries => entries
  | .order _ | .sort _ _ | .limit _ | .offset _ => []

theorem conditions_apply (c : Criteria) (step : CriteriaStep) :
    (step.apply c).conditions = c.conditions.insertAll step.given := by
  cases step <;> rfl

end CriteriaStep

/-- What is given last to a column. -/
def LastGiven (given : List (String × Value)) (column : String) (value : Value) : Prop :=
  ∃ before after, given = before ++ (column, value) :: after ∧ ∀ later ∈ after, later.1 ≠ column

/-- In the order of their bytes, the columns that are given values, each once with what it is given last. -/
structure LastValues (given tests : List (String × Value)) : Prop where
  ordered : tests.Pairwise fun a b => List.Lex (· < ·) (Text.Utf8.encode a.1.toList) (Text.Utf8.encode b.1.toList)
  last : ∀ column value, (column, value) ∈ tests ↔ LastGiven given column value

namespace Criteria

/-- Criteria after steps. -/
def run (c : Criteria) (steps : List CriteriaStep) : Criteria := steps.foldl CriteriaStep.apply c

/-- The values that columns have at first, and those that steps give to them. -/
def given (c : Criteria) (steps : List CriteriaStep) : List (String × Value) :=
  c.conditions.entries ++ steps.flatMap CriteriaStep.given

/-- How rows are ordered and cut off. -/
def view (c : Criteria) : List String × Direction × UInt64 × UInt64 := (c.sortColumns, c.direction, c.limit, c.offset)

theorem eq_of_view {c c' : Criteria} (hview : c.view = c'.view) (hconditions : c.conditions = c'.conditions) : c = c' := by
  obtain ⟨conditions, sortColumns, direction, limit, offset⟩ := c
  simp only [view, Prod.mk.injEq] at hview
  obtain ⟨rfl, rfl, rfl, rfl⟩ := hview
  obtain rfl := hconditions
  rfl

theorem conditions_run (c : Criteria) (steps : List CriteriaStep) : (c.run steps).conditions = .ofList (c.given steps) := by
  rw [given, ← Bindings.insertAll_eq_ofList]
  induction steps generalizing c with
  | nil => rfl
  | cons step steps ih =>
    rw [run, List.foldl_cons, ← run, ih, CriteriaStep.conditions_apply, List.flatMap_cons, Bindings.insertAll_append]

theorem mem_conditions_run {c : Criteria} {steps : List CriteriaStep} {column : String} {value : Value} :
    (column, value) ∈ (c.run steps).conditions.entries ↔ LastGiven (c.given steps) column value := by
  rw [conditions_run, ← Bindings.get?_eq_some_iff, Bindings.get?_ofList_eq_some_iff, LastGiven]

/-- What is left after steps are the last values. -/
theorem lastValues_run (c : Criteria) (steps : List CriteriaStep) :
    LastValues (c.given steps) (c.run steps).conditions.entries where
  ordered := (c.run steps).conditions.sorted.imp fun hlt => Text.Utf8.encode_lt hlt
  last _ _ := mem_conditions_run

/-! ## Tests -/

/-- A text with a character that stands for others in a pattern. -/
def HasWildcard (s : String) : Prop := '%' ∈ s.toList ∨ '?' ∈ s.toList ∨ '.' ∈ s.toList

instance (s : String) : Decidable (HasWildcard s) := inferInstanceAs (Decidable (_ ∨ _ ∨ _))

/-- The test of a column: against NULL, against a pattern, or for equality, with the name of the column for the parameter. -/
def columnTest : String × Value → Binary Expr
  | (column, .null) => ⟨.name column, .is, .null⟩
  | (column, .text s) => ⟨.name column, if HasWildcard s then .like else .eq, .var column (.text s)⟩
  | (column, value) => ⟨.name column, .eq, .var column value⟩

/-- All tests hold; without tests there is no condition. -/
def conditionOf (tests : List (String × Value)) : Option Expr :=
  if tests.isEmpty then none else some (.allOf (tests.map fun test => .binary (columnTest test)))

/-- The test of a column as text. -/
def columnText (d : Dialect) (style : ParamStyle) : String × Value → String
  | (column, .null) => d.quote column ++ d.spaced "IS" ++ d.keyword "NULL"
  | (column, .text s) =>
    d.quote column ++ (if HasWildcard s then d.spaced "LIKE" else "=") ++ d.placeholderIn style column
  | (column, _) => d.quote column ++ "=" ++ d.placeholderIn style column

/-- The WHERE clause of tests as text. -/
def testsText (d : Dialect) (style : ParamStyle) (tests : List (String × Value)) : String :=
  if tests.isEmpty then "" else d.spaced "WHERE" ++ (d.spaced "AND").intercalate (tests.map (columnText d style))

theorem isPattern_text (s : String) : (Value.text s).isPattern = decide (HasWildcard s) := by
  rw [Bool.eq_iff_iff, Value.isPattern_iff, decide_eq_true_iff]
  simp [HasWildcard]

theorem columnTest_eq (test : String × Value) :
    columnTest test = ⟨.name test.1, testOp test.2, testOperand test.1 test.2⟩ := by
  obtain ⟨column, value⟩ := test
  cases value with
  | text s => simp [columnTest, testOp, testOperand, isPattern_text, Value.isNull]
  | null | bool | int | uint | float | bytes | timestamp | numeric | other => rfl

theorem condition?_eq_conditionOf (c : Criteria) : c.condition? = conditionOf c.conditions.entries := by
  unfold conditionOf
  cases hentries : c.conditions.entries with
  | nil => rw [condition?_eq_none hentries]; rfl
  | cons entry entries =>
    rw [condition?_eq (by simp [hentries]), hentries]
    simp [columnTest_eq]

theorem spells_columnTest (d : Dialect) (style : ParamStyle) (test : String × Value) :
    (Expr.binary (columnTest test)).Spells d style (columnText d style test) := by
  obtain ⟨column, value⟩ := test
  have hequal (value : Value) : (Expr.binary ⟨.name column, .eq, .var column value⟩).Spells d style
      (d.quote column ++ "=" ++ d.placeholderIn style column) :=
    spells_binary (spells_name column) (spells_var column value) rfl
  cases value with
  | null =>
    have hnull : Expr.null.Spells d style (d.keyword "NULL") := .literal _
    have htest : (Expr.binary ⟨.name column, .is, .null⟩).Spells d style _ := spells_binary (spells_name column) hnull rfl
    exact htest
  | text s =>
    have hlike : (Expr.binary ⟨.name column, .like, .var column (.text s)⟩).Spells d style
        (d.quote column ++ d.spaced "LIKE" ++ d.placeholderIn style column) :=
      spells_binary (spells_name column) (spells_var column (.text s)) rfl
    unfold columnTest columnText
    by_cases hs : HasWildcard s
    · simpa only [hs, if_true] using hlike
    · simpa only [hs, if_false] using hequal (.text s)
  | bool | int | uint | float | bytes | timestamp | numeric | other => exact hequal _

theorem clauseText_conditionOf (d : Dialect) (style : ParamStyle) (tests : List (String × Value)) :
    clauseText d style "WHERE" (saying? (conditionOf tests)) = testsText d style tests := by
  by_cases hnone : tests = []
  · rw [hnone]
    rfl
  have hsome : tests.isEmpty = false := List.isEmpty_eq_false_iff.2 hnone
  have htests := spells_allOf fun test (_ : test ∈ tests) => spells_columnTest d style test
  have hsaying : saying? (conditionOf tests) = some (.allOf (tests.map fun test => .binary (columnTest test))) := by
    rw [conditionOf, hsome, if_neg Bool.false_ne_true, saying?, Option.filter, isEmptyCondition_allOf hnone]
    rfl
  rw [hsaying, clauseText, Expr.textIn, htests.text, testsText, hsome, if_neg Bool.false_ne_true]

/-! ## Queries and counts -/

/-- A query and its count say the same of the rows, with the same arguments; the query has those of its columns before and
those of its page behind them. -/
structure CountedBy (c : Criteria) (tests : List (String × Value)) (d : Dialect) (style : ParamStyle) (table : Expr)
    (columns : List Expr) (r n : Rendered) : Prop where
  query : r.sql = d.keyword "SELECT" ++ " " ++ (if columns.isEmpty then "*" else commaText d style columns) ++
    (d.spaced "FROM" ++ table.textIn d style ++ testsText d style tests) ++ (c.toSelect table columns).endText d style
  count : n.sql = d.keyword "SELECT" ++ " " ++ (d.keyword "COUNT" ++ "(1)") ++
    (d.spaced "FROM" ++ table.textIn d style ++ testsText d style tests)
  positional : style = .positional → ∃ values,
    values = (table.parameters d.pagination ++ conditionParameters tests).map (·.value) ∧ n.args = .positional values ∧
      r.args = .positional ((allParameters d.pagination columns).map (·.value) ++ values ++
        (c.pageParameters d.pagination).map (·.value))
  named : style = .named → ∀ name value, n.args.get? name = some value →
    ∃ held, r.args.get? name = some held ∧ (held = value ∨ held.equals value = true)

section

variable {c : Criteria} {d : Dialect} {style : ParamStyle} {table : Expr} {columns : List Expr}

theorem count_toSelect (c : Criteria) (table : Expr) (columns : List Expr) :
    (c.toSelect table columns).count = c.toCount table := rfl

/-- The count is the query for one column, without order and page. -/
theorem toCount_eq (c : Criteria) (table : Expr) :
    c.toCount table = { c with sortColumns := [], limit := 0, offset := 0 }.toSelect table [.countOne] := by
  have hzero : ¬ (0 : UInt64) < 0 := by decide
  simp only [toCount, toSelect, Select.count, List.isEmpty_nil, hzero, if_true, if_false]
  rfl

theorem rowsText_toSelect : (c.toSelect table columns).rowsText d style =
    d.spaced "FROM" ++ table.textIn d style ++ testsText d style c.conditions.entries := by
  rw [← clauseText_conditionOf, ← condition?_eq_conditionOf, toSelect, Select.rowsText]
  simp only [clauseText, saying?, Option.filter, String.append_empty]

theorem rowParameters_toSelect (p : Pagination) : (c.toSelect table columns).rowParameters p =
    table.parameters p ++ conditionParameters c.conditions.entries := by
  rw [← parameters_condition (c := c) p, toSelect, Select.rowParameters]
  simp only [optionParameters, List.append_nil]

theorem countedBy_of_render {r : Rendered} (hr : (Expr.select (c.toSelect table columns)).render d style = .ok r) :
    ∃ n, (Expr.select (c.toCount table)).render d style = .ok n ∧
      c.CountedBy c.conditions.entries d style table columns r n := by
  have hfault := (render_ok hr).1
  have hparameters := Select.parameters_select d.pagination (c.toSelect table columns)
  have hcount := Select.parameters_count d.pagination (c.toSelect table columns)
  rw [rowParameters_toSelect] at hparameters hcount
  have horder := parameters_orderBy (c := c) d.pagination table columns
  rw [horder, List.nil_append] at hparameters
  have hsub : ((Expr.select (c.toSelect table columns).count).parameters d.pagination).Sublist
      ((Expr.select (c.toSelect table columns)).parameters d.pagination) := by
    rw [hcount, hparameters]
    exact (List.sublist_append_right _ _).trans (List.sublist_append_left _ _)
  obtain ⟨n, hn, hsql⟩ := render_of_sublist hr (Select.fault_count hfault) hsub
  refine ⟨n, hn, ?_, ?_, ?_, ?_⟩
  · rw [(spells_query hfault).sql hr, rowsText_toSelect]
    rfl
  · rw [hsql, Select.textIn_count hfault, rowsText_toSelect]
  · rintro rfl
    refine ⟨_, rfl, ?_, ?_⟩
    · rw [args_of_render hn, hcount]
    · rw [args_of_render hr, hparameters, List.map_append, List.map_append]
      rfl
  · rintro rfl name value hvalue
    exact get?_args_of_sublist hr hn hsub hvalue

/-- The count of rows of a table by its name has the arguments of its tests. -/
theorem render_toCount (htable : table.isIdentifier = true) (hd : style = .named → d.supportsNamed = true) :
    ∃ args, (Expr.select (c.toCount table)).render d style =
        .ok ⟨d.keyword "SELECT" ++ " " ++ (d.keyword "COUNT" ++ "(1)") ++
          (d.spaced "FROM" ++ table.textIn d style ++ testsText d style c.conditions.entries), args⟩ ∧
      args.Hold style (c.conditions.entries.filter fun test => !test.2.isNull) := by
  have hfault : ((Expr.select (c.toSelect table [])).script d).fault = none :=
    fault_toSelect (List.forall_mem_singleton.2 htable) d
  have hspells : (Expr.select (c.toCount table)).Spells d style _ :=
    ⟨Select.fault_count hfault, Select.textIn_count hfault⟩
  rw [rowsText_toSelect] at hspells
  refine render_of_spells hd hspells ?_ ((List.filter_sublist.map _).nodup c.conditions.names_nodup)
  rw [← count_toSelect c table [], Select.parameters_count, rowParameters_toSelect, parameters_identifier htable]
  rfl

end

/-! ## Runs -/

/-- **Criteria that are made by steps** test the columns in order, each for the last value that it is given. Nothing else of
the values shows in their query or its count, and the count has the WHERE clause of the query with its arguments. -/
theorem run_tests (c : Criteria) (steps : List CriteriaStep) :
    ∃ tests, LastValues (c.given steps) tests ∧ (c.run steps).condition? = conditionOf tests ∧
      (∀ (c' : Criteria) steps', LastValues (c'.given steps') tests → (c'.run steps').view = (c.run steps).view →
        ∀ table columns, (c'.run steps').toSelect table columns = (c.run steps).toSelect table columns ∧
          (c'.run steps').toCount table = (c.run steps).toCount table) ∧
      (∀ table, (c.run steps).toCount table =
        { c.run steps with sortColumns := [], limit := 0, offset := 0 }.toSelect table [.countOne]) ∧
      ∀ d style table,
        (∀ columns r, (Expr.select ((c.run steps).toSelect table columns)).render d style = .ok r →
          ∃ n, (Expr.select ((c.run steps).toCount table)).render d style = .ok n ∧
            (c.run steps).CountedBy tests d style table columns r n) ∧
        (table.isIdentifier = true → (style = .named → d.supportsNamed = true) →
          ∃ args, (Expr.select ((c.run steps).toCount table)).render d style =
              .ok ⟨d.keyword "SELECT" ++ " " ++ (d.keyword "COUNT" ++ "(1)") ++
                (d.spaced "FROM" ++ table.textIn d style ++ testsText d style tests), args⟩ ∧
            args.Hold style (tests.filter fun test => !test.2.isNull)) := by
  refine ⟨(c.run steps).conditions.entries, lastValues_run c steps, condition?_eq_conditionOf _, ?_, fun table => ?_,
    fun d style table => ⟨fun columns r hr => countedBy_of_render hr, fun htable hd => render_toCount htable hd⟩⟩
  · intro c' steps' hlast hview table columns
    have hconditions : (c'.run steps').conditions = (c.run steps).conditions := by
      refine Bindings.ext_of_mem ?_
      rintro ⟨column, value⟩
      rw [hlast.last, mem_conditions_run]
    rw [eq_of_view hview hconditions]
    exact ⟨rfl, rfl⟩
  · exact toCount_eq (c.run steps) table

/-- A column whose value is taken back, a pattern, and a page. -/
def takenBack : List CriteriaStep :=
  [.give "plan" (.int 3), .sort .descending ["id"], .giveAll [("name", .text "gn%"), ("plan", .null)], .limit 10,
    .give "age" (.int 18)]

theorem run_tests_takenBack :
    ∃ values, (Expr.select ((run {} takenBack).toCount (.name "user"))).render .mysql .named =
        .ok ⟨"SELECT COUNT(1) FROM \x60user\x60 WHERE \x60age\x60=:age AND \x60name\x60 LIKE :name AND \x60plan\x60 IS NULL",
          .named values⟩ ∧
      values.get? "name" = some (.text "gn%") := by
  obtain ⟨tests, hlast, -, -, -, hrenders⟩ := run_tests {} takenBack
  obtain ⟨_, hrender, values, rfl, hvalues⟩ := (hrenders .mysql .named (.name "user")).2 rfl fun _ => rfl
  obtain ⟨args, hcount⟩ : ∃ args, (Expr.select ((run {} takenBack).toCount (.name "user"))).render .mysql .named =
      .ok ⟨"SELECT COUNT(1) FROM \x60user\x60 WHERE \x60age\x60=:age AND \x60name\x60 LIKE :name AND \x60plan\x60 IS NULL",
        args⟩ := ⟨_, (Expr.render_eq _ _ _).trans rfl⟩
  obtain ⟨-, rfl⟩ := Rendered.mk.inj (Except.ok.inj (hrender.symm.trans hcount))
  refine ⟨values, hcount, (hvalues "name" (.text "gn%")).2 (List.mem_filter.2 ⟨?_, rfl⟩)⟩
  exact (hlast.last "name" (.text "gn%")).2 ⟨[("plan", .int 3)], [("plan", .null), ("age", .int 18)], rfl, by decide⟩

end Criteria

end Sql
