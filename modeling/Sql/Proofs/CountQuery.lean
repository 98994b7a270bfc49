/-
The query for the number of rows.

A query and its count share the clauses that say which rows there are. `count_renders` says that the count renders
wherever the query does, that both have the same text between their columns and their ends, and that the arguments of the
count are those that the query has for these clauses.
-/
import Sql.Proofs.StatementTexts

namespace Sql

variable {d : Dialect} {style : ParamStyle}

/-! ## Parts of what renders -/

/-- A tree whose parameters are among those of a tree that renders does so too, on its own. -/
theorem render_of_sublist {e part : Expr} {r : Rendered} (hr : e.render d style = .ok r)
    (hfault : (part.script d).fault = none)
    (hsub : (part.parameters d.pagination).Sublist (e.parameters d.pagination)) :
    ∃ r', part.render d style = .ok r' ∧ r'.sql = part.textIn d style := by
  suffices ∃ r', part.render d style = .ok r' by
    obtain ⟨r', hr'⟩ := this
    exact ⟨r', hr', sql_of_render hr'⟩
  cases style with
  | positional => exact renders_positional_iff.2 hfault
  | named =>
    have hd := supportsNamed_of_render hr
    obtain ⟨hnames, hagree⟩ := (renders_named_iff hd (render_ok hr).1).1 ⟨r, hr⟩
    exact (renders_named_iff hd hfault).2 ⟨fun q hq => hnames q (hsub.subset hq), hagree.sublist hsub⟩

/-- By name, what a part binds is bound in the whole, to the same value or to an equal one. -/
theorem get?_args_of_sublist {e part : Expr} {r r' : Rendered} (hr : e.render d .named = .ok r)
    (hr' : part.render d .named = .ok r')
    (hsub : (part.parameters d.pagination).Sublist (e.parameters d.pagination)) {name : String} {value : Value}
    (hvalue : r'.args.get? name = some value) :
    ∃ held, r.args.get? name = some held ∧ (held = value ∨ held.equals value = true) := by
  have hd := supportsNamed_of_render hr
  obtain ⟨-, hagree⟩ := (renders_named_iff hd (render_ok hr).1).1 ⟨r, hr⟩
  rw [get?_args hd hr'] at hvalue
  obtain ⟨q, hq, rfl⟩ := Option.map_eq_some_iff.1 hvalue
  have hqname : q.name = some name := by simpa using List.find?_some hq
  have hmem : q ∈ e.parameters d.pagination := hsub.subset (List.mem_of_find?_eq_some hq)
  obtain ⟨f, hf, hfname, -, hrelated⟩ := Parameter.first?_related hagree hmem hqname
  refine ⟨f.value, by rw [get?_args hd hr, hf, Option.map_some], ?_⟩
  exact hrelated.imp (congrArg Parameter.value) fun hagrees => hagrees (hfname.trans hqname.symm)

/-! ## The clauses of a query -/

namespace Select

variable {s : Select Expr}

/-- The parameters of the clauses that say which rows a query has. -/
def rowParameters (p : Pagination) (s : Select Expr) : List Parameter :=
  optionParameters p s.source ++ optionParameters p s.condition ++ optionParameters p s.groupBy ++
    optionParameters p s.having

theorem parameters_select (p : Pagination) (s : Select Expr) :
    (Expr.select s).parameters p =
      allParameters p s.columns ++ s.rowParameters p ++ (allParameters p s.orderBy ++ p.parameters s.limit s.offset) := by
  simp only [Expr.parameters, rowParameters, List.append_assoc]

theorem parameters_count (p : Pagination) (s : Select Expr) :
    (Expr.select s.count).parameters p = s.rowParameters p := by
  rw [parameters_select]
  simp [count, rowParameters, allParameters, Pagination.parameters_none, Expr.countOne]

theorem fault_count (hfault : ((Expr.select s).script d).fault = none) :
    ((Expr.select s.count).script d).fault = none := by
  have hsource : s.source.isSome = true := isSome_source (renders_positional_iff.2 hfault)
  obtain ⟨-, hfrom, hcondition, hgroupBy, hhaving, -⟩ := (fault_query hsource).1 hfault
  exact (fault_query (s := s.count) hsource).2
    ⟨List.forall_mem_singleton.2 rfl, hfrom, hcondition, hgroupBy, hhaving, List.forall_mem_nil _⟩

theorem textIn_count (hfault : ((Expr.select s).script d).fault = none) :
    (Expr.select s.count).textIn d style =
      d.keyword "SELECT" ++ " " ++ (d.keyword "COUNT" ++ "(1)") ++ s.rowsText d style := by
  have hcolumn : s.count.projectionText d style = d.keyword "COUNT" ++ "(1)" := spells_countOne.text
  have hend : s.count.endText d style = "" := by
    unfold endText pageText
    cases d.pagination <;> rfl
  have hspells : (Expr.select s.count).Spells d style _ := spells_query (fault_count hfault)
  have htext := hspells.text
  rw [hcolumn, hend, String.append_empty] at htext
  exact htext

theorem sublist_allParameters (p : Pagination) {es : List Expr} {e : Expr} (he : e ∈ es) :
    (e.parameters p).Sublist (allParameters p es) := by
  obtain ⟨before, after, rfl⟩ := List.append_of_mem he
  rw [allParameters_eq, List.flatMap_append, List.flatMap_cons]
  exact (List.sublist_append_left _ _).trans (List.sublist_append_right _ _)

/-- What stands among the columns of a query or in its order renders on its own. -/
theorem renders_of_mem {r : Rendered} (hr : (Expr.select s).render d style = .ok r) {e : Expr}
    (he : e ∈ s.columns ++ s.orderBy) :
    ∃ part, e.render d style = .ok part ∧ part.sql = e.textIn d style ∧
      (style = .positional → part.args = .positional ((e.parameters d.pagination).map (·.value))) := by
  have hfault := (render_ok hr).1
  have hsource : s.source.isSome = true := isSome_source (renders_positional_iff.2 hfault)
  obtain ⟨hcolumns, -, -, -, -, horderBy⟩ := (fault_query hsource).1 hfault
  obtain ⟨part, hpart, hsql⟩ : ∃ part, e.render d style = .ok part ∧ part.sql = e.textIn d style := by
    rcases List.mem_append.1 he with hcolumn | hitem
    · refine render_of_sublist hr (hcolumns e hcolumn) ?_
      rw [parameters_select]
      exact ((sublist_allParameters _ hcolumn).trans (List.sublist_append_left _ _)).trans (List.sublist_append_left _ _)
    · refine render_of_sublist hr (horderBy e hitem) ?_
      rw [parameters_select]
      exact ((sublist_allParameters _ hitem).trans (List.sublist_append_left _ _)).trans (List.sublist_append_right _ _)
  refine ⟨part, hpart, hsql, ?_⟩
  rintro rfl
  exact args_of_render hpart

/-- **A query and its count**: the count renders wherever the query does, with the text of the same clauses. By position the
query has the arguments of the count between those of its columns and those of its end; by name it binds what the count
binds, to equal values. -/
theorem count_renders {r : Rendered} (hr : (Expr.select s).render d style = .ok r) :
    ∃ n, (Expr.select s.count).render d style = .ok n ∧
      r.sql = d.keyword "SELECT" ++ " " ++ s.projectionText d style ++ s.rowsText d style ++ s.endText d style ∧
      n.sql = d.keyword "SELECT" ++ " " ++ (d.keyword "COUNT" ++ "(1)") ++ s.rowsText d style ∧
      (∀ e ∈ s.columns ++ s.orderBy, ∃ part, e.render d style = .ok part ∧ part.sql = e.textIn d style ∧
        (style = .positional → part.args = .positional ((e.parameters d.pagination).map (·.value)))) ∧
      (style = .positional → ∃ values, n.args = .positional values ∧
        r.args = .positional ((allParameters d.pagination s.columns).map (·.value) ++ values ++
          (allParameters d.pagination s.orderBy ++ d.pagination.parameters s.limit s.offset).map (·.value))) ∧
      (style = .named → ∀ name value, n.args.get? name = some value →
        ∃ held, r.args.get? name = some held ∧ (held = value ∨ held.equals value = true)) := by
  have hfault := (render_ok hr).1
  have hsub : ((Expr.select s.count).parameters d.pagination).Sublist ((Expr.select s).parameters d.pagination) := by
    rw [parameters_count, parameters_select]
    exact (List.sublist_append_right _ _).trans (List.sublist_append_left _ _)
  obtain ⟨n, hn, hsql⟩ := render_of_sublist hr (fault_count hfault) hsub
  refine ⟨n, hn, (spells_query hfault).sql hr, hsql.trans (textIn_count hfault), fun e he => renders_of_mem hr he, ?_, ?_⟩
  · rintro rfl
    refine ⟨(s.rowParameters d.pagination).map (·.value), ?_, ?_⟩
    · rw [args_of_render hn, parameters_count]
    · rw [args_of_render hr, parameters_select, List.map_append, List.map_append]
  · rintro rfl name value hvalue
    exact get?_args_of_sublist hr hn hsub hvalue

/-- Rows of a page whose columns and condition name the two zeros alike. -/
def zerosPage : Select Expr where
  columns := [.var "zero" (.float ⟨0⟩), .name "id"]
  source := some (.name "t")
  condition := some (.binary ⟨.name "balance", .eq, .var "zero" (.float ⟨0x8000000000000000⟩)⟩)
  orderBy := [.name "id"]
  limit := some 10

/-- The count binds the zero of the condition, the query that of its columns. -/
theorem count_renders_zerosPage :
    ∃ r, (Expr.select zerosPage).render .sqlServer .named = .ok r ∧ ∃ n,
      (Expr.select zerosPage.count).render .sqlServer .named = .ok n ∧
      n.sql = "SELECT COUNT(1) FROM [t] WHERE [balance]=@zero" ∧
      r.args.get? "zero" = some (.float ⟨0⟩) ∧ n.args.get? "zero" = some (.float ⟨0x8000000000000000⟩) := by
  have hfault : ((Expr.select zerosPage).script .sqlServer).fault = none := rfl
  obtain ⟨r, hr⟩ := (renders_named_iff rfl hfault).2 (by decide)
  obtain ⟨n, hn, -, hsql, -⟩ := count_renders hr
  refine ⟨r, hr, n, hn, hsql, ?_, ?_⟩
  · rw [get?_args rfl hr]
    rfl
  · rw [get?_args rfl hn]
    rfl

end Select

end Sql
