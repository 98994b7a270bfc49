/-
The texts of queries and updates, clause by clause.

`Expr.textIn` is the text of a tree wherever it stands. `spells_query` and `spells_assigning` put the text of a statement
together from those of its clauses, whatever trees these hold.
-/
import Sql.Proofs.ColumnValues
import Sql.Proofs.WriteGuard

namespace Sql

/-- The text of a tree in a style. -/
def Expr.textIn (d : Dialect) (style : ParamStyle) (e : Expr) : String := (e.script d).textIn d style

/-- The texts of several trees with commas. -/
def commaText (d : Dialect) (style : ParamStyle) (es : List Expr) : String := ",".intercalate (es.map (·.textIn d style))

/-- A clause after its keyword, if there is one. -/
def clauseText (d : Dialect) (style : ParamStyle) (keyword : String) : Option Expr → String
  | none => ""
  | some e => d.spaced keyword ++ e.textIn d style

/-- A condition, unless it tests nothing. -/
def saying? (condition : Option Expr) : Option Expr := condition.filter (!·.isEmptyCondition)

/-- The end of a query. Where OFFSET comes first, it is written for a limit alone too. -/
def pageText (d : Dialect) (style : ParamStyle) (limit offset : Option UInt64) : String :=
  match d.pagination with
  | .limitOffset =>
    (if limit.isSome then d.spaced "LIMIT" ++ d.placeholderIn style "limit" else "") ++
      if offset.isSome then d.spaced "OFFSET" ++ d.placeholderIn style "offset" else ""
  | .offsetFetch =>
    if limit.isNone && offset.isNone then ""
    else d.spaced "OFFSET" ++ d.placeholderIn style "offset" ++ " " ++ d.keyword "ROWS" ++
      if limit.isSome then
        d.spaced "FETCH NEXT" ++ d.placeholderIn style "limit" ++ " " ++ d.keyword "ROWS ONLY"
      else ""

namespace Select

/-- The columns of a query. -/
def projectionText (d : Dialect) (style : ParamStyle) (s : Select Expr) : String :=
  if s.columns.isEmpty then "*" else commaText d style s.columns

/-- The clauses that say which rows a query has: FROM, WHERE, GROUP BY and HAVING. -/
def rowsText (d : Dialect) (style : ParamStyle) (s : Select Expr) : String :=
  clauseText d style "FROM" s.source ++ clauseText d style "WHERE" (saying? s.condition) ++
    clauseText d style "GROUP BY" s.groupBy ++ clauseText d style "HAVING" (saying? s.having)

/-- The order of the rows, and the page. -/
def endText (d : Dialect) (style : ParamStyle) (s : Select Expr) : String :=
  (if s.orderBy.isEmpty then "" else d.spaced "ORDER BY" ++ commaText d style s.orderBy) ++
    pageText d style s.limit s.offset

end Select

/-- An update with the texts of its assignments. -/
def assigningText (d : Dialect) (style : ParamStyle) (table : Expr) (items : List String) (condition : Option Expr) : String :=
  d.keyword "UPDATE" ++ " " ++ table.textIn d style ++ d.spaced "SET" ++ ", ".intercalate items ++
    clauseText d style "WHERE" condition

section

variable {d : Dialect} {style : ParamStyle}

/-! ## Trees and clauses -/

theorem spells_textIn {e : Expr} (hfault : (e.script d).fault = none) : e.Spells d style (e.textIn d style) := ⟨hfault, rfl⟩

theorem sql_of_render {e : Expr} {r : Rendered} (hr : e.render d style = .ok r) : r.sql = e.textIn d style :=
  (render_ok hr).2

theorem fault_commas {es : List Expr} :
    (Script.join (.text ",") (scripts d es)).fault = none ↔ ∀ e ∈ es, (e.script d).fault = none := by
  rw [Script.fault_join (Script.fault_text ","), scripts_eq, List.forall_mem_map]

theorem spells_commaText {es : List Expr} (hfault : ∀ e ∈ es, (e.script d).fault = none) :
    (Script.join (.text ",") (scripts d es)).Spells d style (commaText d style es) := by
  have hall : ∀ e ∈ es, e.Spells d style (e.textIn d style) := fun e he => spells_textIn (hfault e he)
  have hspells := spells_commas (f := fun e => e) hall
  rw [List.map_id'] at hspells
  exact hspells

theorem fault_optionClause (keyword : String) (e? : Option Expr) :
    (d.clause keyword e?.isNone (optionScript d e?)).fault = none ↔ ∀ e ∈ e?, (e.script d).fault = none := by
  cases e? <;> simp [fault_clause, optionScript]

theorem spells_optionClause (keyword : String) {e? : Option Expr} (hfault : ∀ e ∈ e?, (e.script d).fault = none) :
    (d.clause keyword e?.isNone (optionScript d e?)).Spells d style (clauseText d style keyword e?) := by
  cases e? with
  | none => exact .nil
  | some e => exact (spells_spacedWord keyword).append (spells_textIn (hfault e rfl))

/-- The clause of a condition is that of a condition that says something. -/
theorem clause_saying (keyword : String) (condition : Option Expr) :
    d.clause keyword (saysNothing condition) (optionScript d condition) =
      d.clause keyword (saying? condition).isNone (optionScript d (saying? condition)) := by
  cases condition with
  | none => rfl
  | some e =>
    cases hempty : e.isEmptyCondition with
    | true =>
      have hsaying : saying? (some e) = none := by simp [saying?, hempty]
      rw [hsaying, saysNothing, hempty]
      rfl
    | false =>
      have hsaying : saying? (some e) = some e := by simp [saying?, hempty]
      rw [hsaying, saysNothing, hempty]
      rfl

/-- A guarded condition is never left out. -/
theorem spells_guarded {verb : WriteVerb} {condition : Option Expr}
    (hfault : (d.guard verb condition (optionScript d condition)).fault = none) :
    (d.guard verb condition (optionScript d condition)).Spells d style (clauseText d style "WHERE" condition) := by
  cases condition with
  | none => exact .nil
  | some e =>
    cases hempty : e.isEmptyCondition with
    | true =>
      rw [Dialect.guard, if_pos hempty] at hfault
      cases hfault
    | false =>
      rw [Dialect.guard, if_neg (by simp [hempty])] at hfault
      exact spells_guard (spells_textIn (Script.fault_append_eq_none.1 hfault).2) hempty verb

theorem spells_rowCount (name : String) (n : UInt64) :
    (Script.rowCount name n).Spells d style (d.placeholderIn style name) := spells_var name (.uint n)

theorem spells_page (limit offset : Option UInt64) :
    (d.page limit offset).Spells d style (pageText d style limit offset) := by
  have hfetch (n : UInt64) : (d.spacedWord "FETCH NEXT" ++ .rowCount "limit" n ++ .text " " ++ d.word "ROWS ONLY").Spells d
      style (d.spaced "FETCH NEXT" ++ d.placeholderIn style "limit" ++ " " ++ d.keyword "ROWS ONLY") :=
    (((spells_spacedWord "FETCH NEXT").append (spells_rowCount "limit" n)).append (.literal " ")).append
      (spells_word "ROWS ONLY")
  have hrows (n : UInt64) : (d.spacedWord "OFFSET" ++ .rowCount "offset" n ++ .text " " ++ d.word "ROWS").Spells d style
      (d.spaced "OFFSET" ++ d.placeholderIn style "offset" ++ " " ++ d.keyword "ROWS") :=
    (((spells_spacedWord "OFFSET").append (spells_rowCount "offset" n)).append (.literal " ")).append (spells_word "ROWS")
  unfold Dialect.page pageText
  cases d.pagination with
  | limitOffset =>
    refine .append ?_ ?_
    · cases limit with
      | none => exact .nil
      | some n => exact (spells_spacedWord "LIMIT").append (spells_rowCount "limit" n)
    · cases offset with
      | none => exact .nil
      | some n => exact (spells_spacedWord "OFFSET").append (spells_rowCount "offset" n)
  | offsetFetch =>
    cases limit with
    | none =>
      cases offset with
      | none => exact .nil
      | some n => exact (hrows n).append .nil
    | some m => exact (hrows (offset.getD 0)).append (hfetch m)

/-! ## Trees that are not refused -/

theorem script_unary {op : UnaryOp} {operand : Expr} (hfault : ((Expr.unary op operand).script d).fault = none) :
    (Expr.unary op operand).script d =
      d.word op.text ++ .text " " ++ .parenIf operand.needsGroup (operand.script d) := by
  rw [Expr.script] at hfault ⊢
  split at hfault
  · cases hfault
  · next hsome => rw [if_neg hsome]

theorem script_insert {i : Insert Expr} (hfault : ((Expr.insert i).script d).fault = none) :
    (Expr.insert i).script d =
      d.word "INSERT INTO" ++ .text " " ++ i.table.script d ++ .text " " ++
        (Script.join (.text ",") (scripts d i.columns)).paren ++ d.spacedWord "VALUES" ++
        (Script.join (.text ",") (scripts d i.values)).paren := by
  rw [Expr.script] at hfault ⊢
  split at hfault
  · cases hfault
  · next hsome =>
    split at hfault
    · cases hfault
    · next heven => rw [if_neg hsome, if_neg heven]

theorem script_update {u : Update Expr} (hfault : ((Expr.update u).script d).fault = none) :
    (Expr.update u).script d =
      d.word "UPDATE" ++ .text " " ++ u.table.script d ++ d.spacedWord "SET" ++
        .join (.text ", ") (scripts d u.assignments) ++
        d.guard .update u.condition (optionScript d u.condition) := by
  rw [Expr.script] at hfault ⊢
  split at hfault
  · cases hfault
  · next hsome => rw [if_neg hsome]

/-! ## Statements -/

/-- A query with a source is at fault if one of the trees is that are written. -/
theorem fault_query {s : Select Expr} (hsource : s.source.isSome = true) :
    ((Expr.select s).script d).fault = none ↔
      (∀ e ∈ s.columns, (e.script d).fault = none) ∧ (∀ e ∈ s.source, (e.script d).fault = none) ∧
      (∀ e ∈ saying? s.condition, (e.script d).fault = none) ∧ (∀ e ∈ s.groupBy, (e.script d).fault = none) ∧
      (∀ e ∈ saying? s.having, (e.script d).fault = none) ∧ ∀ e ∈ s.orderBy, (e.script d).fault = none := by
  have hcolumns : (if s.columns.isEmpty then Script.text "*" else .join (.text ",") (scripts d s.columns)).fault = none ↔
      ∀ e ∈ s.columns, (e.script d).fault = none := by
    rw [← fault_commas]
    split
    · next hempty => simp [List.isEmpty_iff.1 hempty, scripts, Script.join]
    · rfl
  have horder : (d.clause "ORDER BY" s.orderBy.isEmpty (.join (.text ",") (scripts d s.orderBy))).fault = none ↔
      ∀ e ∈ s.orderBy, (e.script d).fault = none := by
    rw [← fault_commas, fault_clause]
    split
    · next hempty => simp [List.isEmpty_iff.1 hempty, scripts, Script.join]
    · rfl
  have hfrom : (optionScript d s.source).fault = none ↔ ∀ e ∈ s.source, (e.script d).fault = none := by
    cases s.source <;> simp [optionScript]
  rw [script_select s hsource, clause_saying, clause_saying]
  simp only [Select.head, Select.tail, Script.fault_append_eq_none, fault_word, Script.fault_text, fault_spacedWord,
    fault_page, fault_optionClause, hcolumns, horder, hfrom, true_and, and_true, and_assoc]

/-- A query is its columns, the clauses that say which rows it has, and its end. -/
theorem spells_query {s : Select Expr} (hfault : ((Expr.select s).script d).fault = none) :
    (Expr.select s).Spells d style
      (d.keyword "SELECT" ++ " " ++ s.projectionText d style ++ s.rowsText d style ++ s.endText d style) := by
  have hsource : s.source.isSome = true := isSome_source (renders_positional_iff.2 hfault)
  obtain ⟨hcolumns, hfrom, hcondition, hgroupBy, hhaving, horderBy⟩ := (fault_query hsource).1 hfault
  obtain ⟨source, hsome⟩ := Option.isSome_iff_exists.1 hsource
  have hprojection : (if s.columns.isEmpty then Script.text "*" else .join (.text ",") (scripts d s.columns)).Spells d
      style (s.projectionText d style) := by
    unfold Select.projectionText
    split
    · exact .literal "*"
    · exact spells_commaText hcolumns
  have horder : (d.clause "ORDER BY" s.orderBy.isEmpty (.join (.text ",") (scripts d s.orderBy))).Spells d style
      (if s.orderBy.isEmpty then "" else d.spaced "ORDER BY" ++ commaText d style s.orderBy) := by
    unfold Dialect.clause
    split
    · exact .nil
    · exact (spells_spacedWord "ORDER BY").append (spells_commaText horderBy)
  have hhead : (s.head d).Spells d style
      (d.keyword "SELECT" ++ " " ++ s.projectionText d style ++ d.spaced "FROM" ++ source.textIn d style) := by
    rw [Select.head, hsome]
    exact ((((spells_word "SELECT").append (.literal " ")).append hprojection).append
      (spells_spacedWord "FROM")).append (spells_textIn (hfrom source hsome))
  have hall := (((hhead.append (spells_optionClause "WHERE" hcondition)).append
    (spells_optionClause "GROUP BY" hgroupBy)).append (spells_optionClause "HAVING" hhaving)).append
    (horder.append (spells_page s.limit s.offset))
  rw [Expr.Spells, script_select s hsource, clause_saying, clause_saying, Select.tail]
  simpa only [Select.rowsText, Select.endText, hsome, clauseText, String.append_assoc] using hall

/-- An update is its table, its assignments and its condition. -/
theorem spells_assigning {u : Update Expr} (hfault : ((Expr.update u).script d).fault = none) :
    (Expr.update u).Spells d style
      (assigningText d style u.table (u.assignments.map (·.textIn d style)) u.condition) := by
  have hscript := script_update hfault
  rw [hscript] at hfault
  simp only [Script.fault_append_eq_none] at hfault
  obtain ⟨⟨⟨⟨-, htable⟩, -⟩, hassignments⟩, hguard⟩ := hfault
  rw [Script.fault_join (Script.fault_text ", "), scripts_eq, List.forall_mem_map] at hassignments
  have hitems : ∀ e ∈ u.assignments, (e.script d).Spells d style (e.textIn d style) :=
    fun e he => spells_textIn (hassignments e he)
  have hjoin := Script.Spells.join (.literal ", ") hitems
  rw [Expr.Spells, hscript, scripts_eq]
  exact (((((spells_word "UPDATE").append (.literal " ")).append (spells_textIn htable)).append
    (spells_spacedWord "SET")).append hjoin).append (spells_guarded hguard)

end

end Sql
