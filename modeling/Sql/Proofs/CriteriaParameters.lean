/-
Criteria with parameters by name.

A condition has the name of its column, and the numbers of rows have the names `limit` and `offset`; nothing keeps a
column from having one of these. `toSelect_by_name` says when that does no harm.
-/
import Sql.Criteria
import Sql.Proofs.NamedParameters
import Sql.Proofs.Spelling

namespace Sql

/-- A column or a table by its name. -/
def Expr.isIdentifier : Expr → Bool
  | .identifier _ _ => true
  | _ => false

namespace Criteria

/-! ## Conditions -/

/-- How a column is compared with a value: patterns with LIKE, null with IS. -/
def testOp (value : Value) : BinaryOp :=
  if value.isNull then .is else if value.isPattern then .like else .eq

/-- The value of a test, under the name of its column; null is inlined. -/
def testOperand (column : String) (value : Value) : Expr :=
  if value.isNull then .null else .var column value

theorem fuzzy_test (column : String) (value : Value) :
    (test column value).fuzzy = ⟨.name column, testOp value, testOperand column value⟩ := by
  unfold test testOp testOperand
  cases hnull : value.isNull with
  | true => rfl
  | false =>
    have htest : Expr.compare (.name column) .eq (.var column value) = ⟨.name column, .eq, .var column value⟩ := rfl
    have hpattern : (Expr.var column value).isPattern = value.isPattern := rfl
    simp only [Bool.false_eq_true, if_false, htest, Binary.fuzzy, hpattern, true_and]
    cases value.isPattern <;> rfl

variable {c : Criteria}

theorem condition?_eq_none (hnone : c.conditions.entries = []) : c.condition? = none := by
  simp [condition?, Bindings.isEmpty, hnone]

/-- The WHERE clause tests the columns in their order. -/
theorem condition?_eq (hsome : c.conditions.entries ≠ []) :
    c.condition? = some (.allOf (c.conditions.entries.map fun entry =>
      .binary ⟨.name entry.1, testOp entry.2, testOperand entry.1 entry.2⟩)) := by
  have hnonempty : c.conditions.isEmpty = false := List.isEmpty_eq_false_iff.2 hsome
  rw [condition?, if_neg (by simp [hnonempty]), Expr.allOf, Expr.listOf, Expr.fuzzy, fuzzyItems_eq, List.map_map]
  congr 4
  funext entry
  rw [Function.comp_apply, Expr.fuzzy, fuzzy_test]

/-- The parameters of conditions: the values that are not null, under their columns. -/
def conditionParameters (entries : List (String × Value)) : List Parameter :=
  (entries.filter fun entry => !entry.2.isNull).map fun entry => ⟨some entry.1, entry.2⟩

theorem parameters_test (p : Pagination) (column : String) (value : Value) :
    binaryParameters p ⟨.name column, testOp value, testOperand column value⟩ =
      if value.isNull then [] else [⟨some column, value⟩] := by
  have hmembership : (testOp value).isMembership = false := by
    unfold testOp
    cases value.isNull <;> cases value.isPattern <;> rfl
  rw [binaryParameters, hmembership, testOperand]
  cases value.isNull <;> rfl

theorem fault_test (d : Dialect) (column : String) (value : Value) :
    ((Expr.binary ⟨.name column, testOp value, testOperand column value⟩).script d).fault = none := by
  have hoperand : ((testOperand column value).script d).fault = none := by
    unfold testOperand
    cases value.isNull <;> rfl
  rw [Expr.script, binaryScript]
  split
  · rfl
  · exact Script.fault_append_eq_none.2 ⟨rfl, hoperand⟩

theorem parameters_condition (p : Pagination) :
    optionParameters p c.condition? = conditionParameters c.conditions.entries := by
  by_cases hsome : c.conditions.entries = []
  · rw [condition?_eq_none hsome, hsome]
    rfl
  · simp only [condition?_eq hsome, Expr.allOf, Expr.listOf, optionParameters, Expr.parameters, allParameters_eq,
      List.nil_append, List.append_nil, conditionParameters]
    induction c.conditions.entries with
    | nil => rfl
    | cons entry entries ih =>
      rw [List.map_cons, List.flatMap_cons, ih, Expr.parameters, parameters_test]
      cases hnull : entry.2.isNull <;> simp [hnull]

/-! ## Queries -/

theorem parameters_identifier {e : Expr} (h : e.isIdentifier = true) (p : Pagination) : e.parameters p = [] := by
  cases e <;> first | rfl | cases h

theorem fault_identifier {e : Expr} (h : e.isIdentifier = true) (d : Dialect) : (e.script d).fault = none := by
  cases e <;> first | rfl | cases h

/-- The order of a query has no parameters. -/
theorem parameters_orderBy (p : Pagination) (table : Expr) (columns : List Expr) :
    allParameters p (c.toSelect table columns).orderBy = [] := by
  rw [toSelect]
  split
  · rfl
  · simp only [Expr.sortedBy, Expr.listOf, allParameters, Expr.parameters, optionParameters, allParameters_eq,
      List.flatMap_map, List.append_nil, List.nil_append, List.flatMap_eq_nil_iff]
    exact fun column _ => rfl

theorem fault_orderBy (d : Dialect) (table : Expr) (columns : List Expr) :
    ∀ s ∈ scripts d (c.toSelect table columns).orderBy, s.fault = none := by
  rw [toSelect]
  split
  · simp [scripts]
  · rw [scripts_eq, List.map_singleton, List.forall_mem_singleton, Expr.sortedBy, Expr.listOf]
    refine fault_list d fun item hitem => ?_
    obtain ⟨e, he, rfl⟩ := List.mem_map.1 hitem
    obtain ⟨column, -, rfl⟩ := List.mem_map.1 he
    rfl

theorem fault_condition (d : Dialect) : (optionScript d c.condition?).fault = none := by
  by_cases hsome : c.conditions.entries = []
  · rw [condition?_eq_none hsome]
    rfl
  · rw [condition?_eq hsome, optionScript, Expr.allOf, Expr.listOf]
    refine fault_list d fun item hitem => ?_
    obtain ⟨⟨column, value⟩, -, rfl⟩ := List.mem_map.1 hitem
    exact fault_test d column value

section

variable {table : Expr} {columns : List Expr} (hnames : ∀ e ∈ table :: columns, e.isIdentifier = true)

include hnames

theorem parameters_toSelect (p : Pagination) : (Expr.select (c.toSelect table columns)).parameters p =
    conditionParameters c.conditions.entries ++
      p.parameters (if 0 < c.limit then some c.limit else none) (if 0 < c.offset then some c.offset else none) := by
  obtain ⟨htable, hcolumns⟩ := List.forall_mem_cons.1 hnames
  have hnone : allParameters p columns = [] := by
    rw [allParameters_eq, List.flatMap_eq_nil_iff]
    exact fun e he => parameters_identifier (hcolumns e he) p
  have horder := parameters_orderBy (c := c) p table columns
  rw [← parameters_condition (c := c) p]
  simp only [toSelect] at horder ⊢
  simp only [Expr.parameters, hnone, optionParameters, parameters_identifier htable p, horder, List.nil_append,
    List.append_nil]

theorem fault_toSelect (d : Dialect) : ((Expr.select (c.toSelect table columns)).script d).fault = none := by
  obtain ⟨htable, hcolumns⟩ := List.forall_mem_cons.1 hnames
  have hprojection :
      (if columns.isEmpty then .text "*" else Script.join (.text ",") (scripts d columns)).fault = none := by
    split
    · rfl
    · rw [Script.fault_join rfl, scripts_eq, List.forall_mem_map]
      exact fun e he => fault_identifier (hcolumns e he) d
  have horder := (Script.fault_join (Script.fault_text ",")).2 (fault_orderBy (c := c) d table columns)
  simp only [toSelect] at horder ⊢
  simp only [Expr.script, Option.isNone_some, Bool.false_eq_true, if_false, Script.fault_append_eq_none, fault_word,
    Script.fault_text, fault_spacedWord, fault_clause, fault_page, hprojection, optionScript, fault_identifier htable d,
    fault_condition d, horder, Script.fault_nil, ite_self, and_self]

end

/-! ## Names of columns and of numbers of rows -/

/-- A column with this name does not take it from a number of rows: it is not tested, or it is null, or it is that
number. -/
def Leaves (c : Criteria) (name : String) (n : UInt64) : Prop :=
  c.conditions.get? name ∈ [none, some .null, some (.uint n)]

instance (c : Criteria) (name : String) (n : UInt64) : Decidable (c.Leaves name n) :=
  inferInstanceAs (Decidable (_ ∈ [_, _, _]))

theorem leaves_iff {name : String} {n : UInt64} :
    c.Leaves name n ↔ ∀ value, c.conditions.get? name = some value → value ≠ .null → value = .uint n := by
  unfold Leaves
  cases c.conditions.get? name with
  | none => simp
  | some value => by_cases hnull : value = .null <;> simp [hnull]

/-- The names of columns and of numbers of rows are apart. Where OFFSET comes first, a limit alone brings an offset
of 0. -/
structure PageApart (c : Criteria) (p : Pagination) : Prop where
  limit : 0 < c.limit → c.Leaves "limit" c.limit
  offset : 0 < c.offset ∨ p = .offsetFetch ∧ 0 < c.limit → c.Leaves "offset" c.offset

/-- Every value of criteria is bound under its own name. -/
structure BoundIn (c : Criteria) (r : Rendered) : Prop where
  condition : ∀ column value, c.conditions.get? column = some value → value ≠ .null → r.args.get? column = some value
  limit : 0 < c.limit → r.args.get? "limit" = some (.uint c.limit)
  offset : 0 < c.offset → r.args.get? "offset" = some (.uint c.offset)

/-- The parameters of the number of rows. -/
def pageParameters (c : Criteria) (p : Pagination) : List Parameter :=
  p.parameters (if 0 < c.limit then some c.limit else none) (if 0 < c.offset then some c.offset else none)

theorem forall_mem_pageParameters {p : Pagination} {P : Parameter → Prop} :
    (∀ q ∈ c.pageParameters p, P q) ↔ (0 < c.limit → P (.rows "limit" c.limit)) ∧
      (0 < c.offset ∨ p = .offsetFetch ∧ 0 < c.limit → P (.rows "offset" c.offset)) := by
  unfold pageParameters Pagination.parameters
  by_cases hoffset : 0 < c.offset
  · by_cases hlimit : 0 < c.limit <;> cases p <;> simp [hlimit, hoffset, and_comm]
  · have hzero : c.offset = 0 := by simpa [UInt64.pos_iff_ne_zero] using hoffset
    by_cases hlimit : 0 < c.limit <;> cases p <;> simp [hlimit, hzero, and_comm]

/-- The two numbers of rows have different names. -/
theorem pageParameters_pairwise (c : Criteria) (p : Pagination) :
    (c.pageParameters p).Pairwise fun a b => a.name ≠ b.name := by
  unfold pageParameters Pagination.parameters
  by_cases hlimit : 0 < c.limit <;> by_cases hoffset : 0 < c.offset <;> cases p <;>
    simp [hlimit, hoffset, Parameter.rows]

theorem forall_mem_conditionParameters {P : Parameter → Prop} :
    (∀ q ∈ conditionParameters c.conditions.entries, P q) ↔
      ∀ column value, c.conditions.get? column = some value → value ≠ .null → P ⟨some column, value⟩ := by
  have hnull (value : Value) : (!value.isNull) = true ↔ value ≠ .null := by cases value <;> simp [Value.isNull]
  simp only [conditionParameters, List.forall_mem_map, List.mem_filter, hnull, and_imp, Prod.forall,
    Bindings.get?_eq_some_iff]

/-- Criteria have one condition for each column. -/
theorem conditionParameters_pairwise (c : Criteria) :
    (conditionParameters c.conditions.entries).Pairwise fun a b => a.name ≠ b.name := by
  have hnames := (List.pairwise_map.1 c.conditions.names_nodup).filter fun entry => !entry.2.isNull
  exact List.pairwise_map.2 (hnames.imp fun hne hname => hne (Option.some.inj hname))

/-- The parameters of criteria are related to each other exactly if the names are apart, where what has different names
is related, and a condition is related to a number of rows under its name if it has that value. -/
theorem pairwise_iff {R : Parameter → Parameter → Prop} (hne : ∀ a b : Parameter, a.name ≠ b.name → R a b)
    (hrows : ∀ name value n, R ⟨some name, value⟩ (.rows name n) ↔ value = .uint n) (p : Pagination) :
    (conditionParameters c.conditions.entries ++ c.pageParameters p).Pairwise R ↔ c.PageApart p := by
  have hconditions := (conditionParameters_pairwise c).imp fun {a b} => hne a b
  have hpage := (c.pageParameters_pairwise p).imp fun {a b} => hne a b
  have hleaves (name : String) (n : UInt64) :
      (∀ q ∈ conditionParameters c.conditions.entries, R q (.rows name n)) ↔ c.Leaves name n := by
    rw [forall_mem_conditionParameters, leaves_iff]
    constructor
    · exact fun h value hvalue hnull => (hrows name value n).1 (h name value hvalue hnull)
    · intro h column value hvalue hnull
      by_cases hname : column = name
      · subst hname
        exact (hrows column value n).2 (h value hvalue hnull)
      · exact hne _ _ (by simpa [Parameter.rows] using hname)
  rw [List.pairwise_append, and_iff_right hconditions, and_iff_right hpage]
  have hswap : (∀ a ∈ conditionParameters c.conditions.entries, ∀ b ∈ c.pageParameters p, R a b) ↔
      ∀ b ∈ c.pageParameters p, ∀ a ∈ conditionParameters c.conditions.entries, R a b :=
    ⟨fun h b hb a ha => h a ha b hb, fun h a ha b hb => h b hb a ha⟩
  rw [hswap, forall_mem_pageParameters, hleaves, hleaves]
  exact ⟨fun h => ⟨h.1, h.2⟩, fun h => ⟨h.limit, h.offset⟩⟩

/-- **Criteria with parameters by name**: if the names of columns and of numbers of rows are apart, the query renders
and binds every value under its own name, and if not, it is refused. -/
theorem toSelect_by_name {d : Dialect} (hd : d.supportsNamed = true) (c : Criteria) {table : Expr} {columns : List Expr}
    (hnames : ∀ e ∈ table :: columns, e.isIdentifier = true) :
    (c.PageApart d.pagination →
      ∃ r, (Expr.select (c.toSelect table columns)).render d .named = .ok r ∧ c.BoundIn r) ∧
    (¬ c.PageApart d.pagination →
      ∃ name, (Expr.select (c.toSelect table columns)).render d .named = .error (.conflictingParameter name)) := by
  have hfault := fault_toSelect (c := c) hnames d
  have hparameters : (Expr.select (c.toSelect table columns)).parameters d.pagination =
      conditionParameters c.conditions.entries ++ c.pageParameters d.pagination := parameters_toSelect hnames _
  have hnamed : ∀ q ∈ (Expr.select (c.toSelect table columns)).parameters d.pagination, q.name.isSome = true := by
    rw [hparameters, List.forall_mem_append, forall_mem_conditionParameters, forall_mem_pageParameters]
    exact ⟨fun _ _ _ _ => rfl, fun _ => rfl, fun _ => rfl⟩
  have hequals (value : Value) (n : UInt64) : value.equals (.uint n) = true ↔ value = .uint n := by
    cases value <;> simp [Value.equals]
  constructor
  · intro hapart
    have hcompatible := (pairwise_iff (R := Parameter.Compatible) (fun a b hne hname => absurd hname hne)
      (by simp [Parameter.Compatible, Parameter.rows, hequals]) d.pagination).2 hapart
    rw [← hparameters] at hcompatible
    obtain ⟨r, hr, hbinds⟩ := (binds_iff hd hfault).2 ⟨hnamed, hcompatible⟩
    rw [hparameters, List.forall_mem_append, forall_mem_conditionParameters, forall_mem_pageParameters] at hbinds
    obtain ⟨hconditions, hlimit, hoffset⟩ := hbinds
    exact ⟨r, hr, fun column value hvalue hnull => binds_named.1 (hconditions column value hvalue hnull),
      fun h => binds_named.1 (hlimit h), fun h => binds_named.1 (hoffset (.inl h))⟩
  · intro hapart
    refine (renders_or_conflicts hd hfault hnamed).resolve_left fun hrenders => hapart ?_
    have hagree := ((renders_named_iff hd hfault).1 hrenders).2
    rw [hparameters] at hagree
    exact (pairwise_iff (fun a b hne hname => absurd hname hne) (by simp [Parameter.Agree, Parameter.rows, hequals])
      d.pagination).1 hagree

/-- At most ten users of one plan. -/
def tenOfPlan : Criteria := { conditions := .ofList [("plan", .int 5)], limit := 10 }

theorem toSelect_by_name_tenOfPlan :
    ∃ r, (Expr.select (tenOfPlan.toSelect (.name "user") [.name "id"])).render .sqlServer .named = .ok r ∧
      r.args.get? "plan" = some (.int 5) ∧ r.args.get? "limit" = some (.uint 10) := by
  have hnames : ∀ e ∈ [Expr.name "user", .name "id"], e.isIdentifier = true := by decide
  obtain ⟨r, hr, hbound⟩ := (toSelect_by_name (d := .sqlServer) rfl tenOfPlan hnames).1
    ⟨by decide, by decide⟩
  exact ⟨r, hr, hbound.condition "plan" (.int 5) rfl (by decide), hbound.limit (by decide)⟩

/-- A column with the name of the number of rows. -/
def limitColumn : Criteria := { conditions := .ofList [("limit", .int 5)], limit := 10 }

theorem toSelect_limitColumn :
    (Expr.select (limitColumn.toSelect (.name "plan") [])).render .mysql .named =
      .error (.conflictingParameter "limit") := rfl

end Criteria

end Sql
