/-
The WHERE clauses of fragments.

A fragment is put together from texts, while a query writes the script of a tree. `conditions_clauses` says that the two
agree: a WHERE clause of a fragment is the tree of its tests as it renders.
-/
import Sql.Fragment
import Sql.Proofs.CriteriaParameters
import Sql.Proofs.LastEntries

namespace Sql

/-! ## Values of examples -/

/-- Data that is not null is no null value. -/
theorem Value.isNull_ofJson {json : Json} (h : json.isNull = false) : (Value.ofJson json).isNull = false := by
  cases json with
  | null => cases h
  | integer n =>
    rw [Value.ofJson]
    split <;> rfl
  | bool | float | text | array | object => rfl

/-- The fields of an example are those of its data. -/
theorem Example.dataFields_of_fields {x : Example} {fields : List (String × Value)} (h : x.fields = .ok fields) :
    ∃ json, dataFields json = .ok fields := by
  cases hjson : x.toJson with
  | error fault =>
    rw [Example.fields, hjson] at h
    cases h
  | ok json =>
    have hfields : x.fields = (dataFields json).mapError .serialization := by rw [Example.fields, hjson]; rfl
    rw [hfields] at h
    cases hdata : dataFields json with
    | error fault =>
      rw [hdata] at h
      cases h
    | ok data =>
      rw [hdata] at h
      exact ⟨json, hdata.trans (congrArg Except.ok (Except.ok.inj h))⟩

/-- Fields that say something have values. -/
theorem Example.isNull_of_mem_fields {x : Example} {fields : List (String × Value)} (hfields : x.fields = .ok fields) :
    ∀ field ∈ fields, field.2.isNull = false := by
  obtain ⟨json, hdata⟩ := dataFields_of_fields hfields
  cases json with
  | object entries =>
    obtain rfl := Except.ok.inj hdata
    intro field hfield
    obtain ⟨⟨name, json⟩, -, hsome⟩ := List.mem_filterMap.1 hfield
    cases hnull : json.isNull with
    | true => simp [hnull] at hsome
    | false =>
      obtain rfl : (name, Value.ofJson json) = field := by simpa [hnull] using hsome
      exact Value.isNull_ofJson hnull
  | null =>
    obtain rfl := Except.ok.inj hdata
    exact List.forall_mem_nil _
  | bool | integer | float | text | array => cases hdata

namespace Criteria

variable {x : Example} {c : Criteria} {fields : List (String × Value)}

theorem ofExample_eq (hfields : x.fields = .ok fields) :
    ofExample x = .ok { conditions := .ofList (fields.map fun field => (Text.snake field.1, field.2)) } := by
  rw [ofExample, Example.columnFields, hfields]
  rfl

theorem isNull_of_mem_ofExample (hc : ofExample x = .ok c) :
    ∀ entry ∈ c.conditions.entries, entry.2.isNull = false := by
  cases hfields : x.fields with
  | error error =>
    rw [ofExample, Example.columnFields, hfields] at hc
    cases hc
  | ok fields =>
    rw [ofExample_eq hfields] at hc
    obtain rfl := Except.ok.inj hc
    rintro ⟨name, value⟩ hentry
    have hmem : (name, value) ∈ fields.map fun field => (Text.snake field.1, field.2) :=
      Bindings.mem_of_mem_ofList hentry
    obtain ⟨field, hfield, hpair⟩ := List.mem_map.1 hmem
    obtain ⟨-, rfl⟩ := Prod.mk.inj hpair
    exact Example.isNull_of_mem_fields hfields field hfield

end Criteria

namespace Fragment

variable {d : Dialect} {style : ParamStyle} {x : Example} {c : Criteria}

/-! ## Tests -/

/-- The tests of columns for equality, with their values as operands. -/
def equalities (operand : String → Value → Expr) (conditions : Bindings Value) : List Expr :=
  conditions.entries.map fun (column, value) => .binary (Expr.compare (.name column) .eq (operand column value))

/-- The tests against inlined values. -/
def inlined (conditions : Bindings Value) : List Expr := equalities (fun _ value => .constant value) conditions

/-- The operand for a value stands for it, and is written as the value is shown. -/
structure Shows (d : Dialect) (style : ParamStyle) (operand : String → Value → Expr) (shown : String → Value → String)
    (column : String) (value : Value) : Prop where
  spells : (operand column value).Spells d style (shown column value)
  notNull : (operand column value).isNullConstant = false
  pattern : (operand column value).isPattern = value.isPattern

theorem shows_constant (d : Dialect) (column : String) {value : Value} (h : value.isNull = false) :
    Shows d .positional (fun _ value => .constant value) (fun _ value => value.literal d) column value where
  spells := .literal _
  notNull := by cases value <;> first | rfl | cases h
  pattern := rfl

theorem shows_parameter (d : Dialect) (style : ParamStyle) (column : String) {value : Value}
    (h : value.isNull = false) :
    Shows d style Criteria.testOperand (fun column value => (Piece.parameter (some column) value).textIn d style) column
      value := by
  have hoperand : Criteria.testOperand column value = .var column value := by simp [Criteria.testOperand, h]
  constructor <;> rw [hoperand]
  · exact .parameter _ _
  · rfl
  · rfl

theorem condition?_eq_equalities (hsome : c.conditions.entries ≠ []) :
    c.condition? = some (Expr.listOf .and (equalities Criteria.testOperand c.conditions)).fuzzy := by
  have hnonempty : c.conditions.isEmpty = false := List.isEmpty_eq_false_iff.2 hsome
  rw [Criteria.condition?, if_neg (by simp [hnonempty])]
  rfl

section

variable {separator : Separator} {joiner : String} (hseparator : d.separator separator = d.spacedWord joiner)
  {operand : String → Value → Expr} {shown : String → Value → String}

theorem spells_test {column : String} {value : Value} (h : Shows d style operand shown column value) :
    (Expr.binary (Expr.compare (.name column) .eq (operand column value))).fuzzy.Spells d style
      (test d shown column value) := by
  have hcompare : Expr.compare (.name column) .eq (operand column value) =
      ⟨.name column, .eq, operand column value⟩ := by
    simp [Expr.compare, h.notNull]
  rw [hcompare, Expr.fuzzy, Binary.fuzzy, h.pattern, test]
  cases value.isPattern with
  | true => exact spells_binary (spells_name column) h.spells rfl
  | false => exact spells_binary (spells_name column) h.spells rfl

include hseparator

theorem spells_equalities {conditions : Bindings Value}
    (h : ∀ entry ∈ conditions.entries, Shows d style operand shown entry.1 entry.2) :
    (Expr.listOf separator (equalities operand conditions)).fuzzy.Spells d style
      ((d.spaced joiner).intercalate (conditions.entries.map fun (column, value) => test d shown column value)) := by
  have hspaced : (d.separator separator).Spells d style (d.spaced joiner) := hseparator ▸ spells_spacedWord joiner
  rw [Expr.listOf, Expr.fuzzy, fuzzyItems_eq, equalities, List.map_map]
  exact spells_listOf hspaced (fun entry hentry => spells_test (h entry hentry))
    (fun _ _ => Bool.and_false _) fun _ _ => rfl

end

/-! ## Clauses -/

/-- A WHERE clause between blanks, with a tree as it renders. -/
def IsClause (d : Dialect) (style : ParamStyle) (e : Expr) (text : String) : Prop :=
  ∃ r, e.render d style = .ok r ∧ text = d.spaced "WHERE" ++ r.sql ++ " "

/-- A fragment is refused as its example is. -/
theorem conditions_eq (d : Dialect) (joiner : String) (shown : String → Value → String) (x : Example) :
    conditions d joiner shown x = (Criteria.ofExample x).map fun c =>
      if c.conditions.isEmpty then ""
      else d.spaced "WHERE" ++ (d.spaced joiner).intercalate
        (c.conditions.entries.map fun (column, value) => test d shown column value) ++ " " := by
  rw [conditions, Criteria.ofExample]
  cases x.columnFields <;> rfl

theorem conditions_error_iff (joiner : String) (shown : String → Value → String) (error : Error) :
    conditions d joiner shown x = .error error ↔ Criteria.ofExample x = .error error := by
  rw [conditions_eq]
  cases Criteria.ofExample x <;> simp [Except.map]

section

variable {separator : Separator} {joiner : String} (hseparator : d.separator separator = d.spacedWord joiner)
  (hc : Criteria.ofExample x = .ok c) (hsome : c.conditions.entries ≠ [])

include hseparator hc hsome

theorem conditions_isClause {operand : String → Value → Expr} {shown : String → Value → String}
    (h : ∀ entry ∈ c.conditions.entries, Shows d style operand shown entry.1 entry.2)
    (hrenders : ∃ r, (Expr.listOf separator (equalities operand c.conditions)).fuzzy.render d style = .ok r) :
    ∃ text, conditions d joiner shown x = .ok text ∧
      IsClause d style (Expr.listOf separator (equalities operand c.conditions)).fuzzy text := by
  have hnonempty : c.conditions.isEmpty = false := List.isEmpty_eq_false_iff.2 hsome
  obtain ⟨r, hr⟩ := hrenders
  have hsql := (spells_equalities hseparator h).sql hr
  refine ⟨d.spaced "WHERE" ++ r.sql ++ " ", ?_, r, hr, rfl⟩
  rw [conditions_eq, hc, Except.map, if_neg (by simp [hnonempty]), hsql]

theorem inlined_isClause :
    ∃ text, conditions d joiner (fun _ value => value.literal d) x = .ok text ∧
      IsClause d .positional (Expr.listOf separator (inlined c.conditions)).fuzzy text := by
  have hshows := fun entry hentry => shows_constant d entry.1 (Criteria.isNull_of_mem_ofExample hc entry hentry)
  exact conditions_isClause hseparator hc hsome hshows
    (renders_positional_iff.2 (spells_equalities hseparator hshows).fault)

end

/-- The condition of criteria renders by name: it has one parameter for each column. -/
theorem condition_renders_named (hd : d.supportsNamed = true) {e : Expr} (he : c.condition? = some e) :
    ∃ r, e.render d .named = .ok r := by
  have hfault : (e.script d).fault = none := by simpa [he, optionScript] using c.fault_condition d
  have hparameters : e.parameters d.pagination = Criteria.conditionParameters c.conditions.entries := by
    rw [← Criteria.parameters_condition (c := c) d.pagination, he, optionParameters]
  -- Each column has one condition, so no two parameters share a name.
  rw [renders_named_iff hd hfault, hparameters]
  refine ⟨Criteria.forall_mem_conditionParameters.2 fun _ _ _ _ => rfl, ?_⟩
  exact c.conditionParameters_pairwise.imp fun hne hname => absurd hname hne

theorem named_isClause (hd : d.supportsNamed = true) (hc : Criteria.ofExample x = .ok c)
    (hsome : c.conditions.entries ≠ []) :
    ∃ text e, conditionsNamed d x = .ok text ∧ c.condition? = some e ∧ IsClause d .named e text := by
  have hcondition := condition?_eq_equalities hsome
  have hshows := fun entry hentry => shows_parameter d .named entry.1 (Criteria.isNull_of_mem_ofExample hc entry hentry)
  obtain ⟨text, htext, hclause⟩ := conditions_isClause rfl hc hsome hshows (condition_renders_named hd hcondition)
  exact ⟨text, _, htext, hcondition, hclause⟩

/-- **The WHERE clauses of fragments**: they are refused exactly as the criteria of the example are, they are empty for
an example without fields that say something, and else they are the trees of the tests as they render. -/
theorem conditions_clauses (d : Dialect) (x : Example) :
    (∀ error, (conditionsAll d x = .error error ↔ Criteria.ofExample x = .error error) ∧
      (conditionsAny d x = .error error ↔ Criteria.ofExample x = .error error) ∧
      (conditionsNamed d x = .error error ↔ Criteria.ofExample x = .error error)) ∧
    (x.fields = .ok [] → conditionsAll d x = .ok "" ∧ conditionsAny d x = .ok "" ∧ conditionsNamed d x = .ok "") ∧
    ∀ field fields, x.fields = .ok (field :: fields) → ∃ c, Criteria.ofExample x = .ok c ∧
      (∃ text, conditionsAll d x = .ok text ∧
        IsClause d .positional (Expr.allOf (inlined c.conditions)).fuzzy text) ∧
      (∃ text, conditionsAny d x = .ok text ∧
        IsClause d .positional (Expr.anyOf (inlined c.conditions)).fuzzy text) ∧
      (d.supportsNamed = true →
        ∃ text e, conditionsNamed d x = .ok text ∧ c.condition? = some e ∧ IsClause d .named e text) := by
  refine ⟨fun error => ⟨conditions_error_iff _ _ _, conditions_error_iff _ _ _, conditions_error_iff _ _ _⟩, ?_, ?_⟩
  · intro hnone
    have hempty (joiner : String) (shown : String → Value → String) : conditions d joiner shown x = .ok "" := by
      rw [conditions_eq, Criteria.ofExample_eq hnone]
      rfl
    exact ⟨hempty _ _, hempty _ _, hempty _ _⟩
  · intro field fields hfields
    have hc := Criteria.ofExample_eq hfields
    have hsome : (Bindings.ofList ((field :: fields).map fun field => (Text.snake field.1, field.2))).entries ≠ [] :=
      mt Bindings.entries_ofList_eq_nil_iff.1 (List.cons_ne_nil _ _)
    exact ⟨_, hc, inlined_isClause rfl hc hsome, inlined_isClause rfl hc hsome, fun hd => named_isClause hd hc hsome⟩

/-- A pattern, a number, and a field that says nothing. -/
def patternAndNumber : Example := .data (.ofFields [("Name", .text "gn%"), ("age", .integer 18), ("gone", .null)])

theorem conditions_clauses_patternAndNumber :
    ∃ c text, Criteria.ofExample patternAndNumber = .ok c ∧ conditionsAny .mysql patternAndNumber = .ok text ∧
      IsClause .mysql .positional (Expr.anyOf (inlined c.conditions)).fuzzy text ∧
      text = " WHERE \x60age\x60=18 OR \x60name\x60 LIKE 'gn%' " := by
  obtain ⟨c, hc, -, ⟨text, htext, hclause⟩, -⟩ := (conditions_clauses .mysql patternAndNumber).2.2 _ _ rfl
  exact ⟨c, text, hc, htext, hclause, Except.ok.inj (htext.symm.trans rfl)⟩

end Fragment

end Sql
