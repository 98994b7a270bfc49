/-
Conditions that are given are not lost.

An UPDATE or DELETE with a condition is written with all atoms of the condition behind WHERE, or it is
refused; a query leaves out the clause of a condition only if the condition has neither an atom nor a NOT.

Each statement is a front, the clause and a back. `GuardsWrite.of_script` and `ShowsCondition.of_script` say what
follows from that, so that the statements only have to name their fronts and backs.
-/
import Sql.Proofs.ConditionTree

namespace Sql

variable {α : Type} {expr : α → Expr} {d : Dialect} {c : Condition α}

/-- A write that is guarded by a condition. -/
structure GuardsWrite (expr : α → Expr) (d : Dialect) (c : Condition α) (write : Option Expr → Expr) : Prop where
  renders_iff : (∃ r, (write (some (c.toExpr expr))).render d .positional = .ok r) ↔
    c.atoms ≠ [] ∧ c.hasBareNot = false
  refused : ¬ (c.atoms ≠ [] ∧ c.hasBareNot = false) →
    ∃ fault, (write (some (c.toExpr expr))).render d .positional = .error (.invalidQuery fault)
  sql : ∀ r, (write (some (c.toExpr expr))).render d .positional = .ok r →
    ∃ front, (write none).render d .positional = .ok front ∧
      r.sql = front.sql ++ d.spaced "WHERE" ++ ConditionToken.spell expr d .positional (c.tokens expr)

/-- A query with a condition behind a keyword, which is left out only if there is nothing to say. -/
structure ShowsCondition (expr : α → Expr) (d : Dialect) (c : Condition α) (keyword : String)
    (query : Option Expr → Expr) : Prop where
  omitted_iff : (query (some (c.toExpr expr))).render d .positional = (query none).render d .positional ↔
    c.atoms = [] ∧ c.hasNot = false
  renders_iff : ¬ (c.atoms = [] ∧ c.hasNot = false) →
    ((∃ r, (query (some (c.toExpr expr))).render d .positional = .ok r) ↔ c.atoms ≠ [] ∧ c.hasBareNot = false)
  refused : c.hasBareNot = true →
    ∃ fault, (query (some (c.toExpr expr))).render d .positional = .error (.invalidQuery fault)
  sql : c.atoms ≠ [] → ∀ r, (query (some (c.toExpr expr))).render d .positional = .ok r →
    ∃ rest front back, (query none).render d .positional = .ok rest ∧ rest.sql = front ++ back ∧
      r.sql = front ++ d.spaced keyword ++ ConditionToken.spell expr d .positional (c.tokens expr) ++ back

/-! ## Renderings by position -/

theorem fault_of_renders {e : Expr} (h : ∃ r, e.render d .positional = .ok r) : (e.script d).fault = none :=
  renders_positional_iff.1 h

theorem refused_of_fault {e : Expr} (h : (e.script d).fault ≠ none) :
    ∃ fault, e.render d .positional = .error (.invalidQuery fault) := by
  rw [render_positional]
  cases hfault : (e.script d).fault with
  | none => exact absurd hfault h
  | some fault => exact ⟨fault, rfl⟩

/-- A condition that says something, and has no bare NOT, has an atom. -/
theorem Condition.atoms_ne_nil (h : ¬ (c.atoms = [] ∧ c.hasNot = false)) (hbare : c.hasBareNot = false) :
    c.atoms ≠ [] :=
  fun hnone => h ⟨hnone, Condition.hasNot_eq_false hnone hbare⟩

section

variable (hatomic : ∀ a, (expr a).isConnective = false)

include hatomic

theorem isEmptyCondition_atomic : (c.toExpr expr).isEmptyCondition = true ↔ c.atoms = [] ∧ c.hasNot = false :=
  Condition.isEmptyCondition_toExpr (fun a => isEmptyCondition_of_atomic (hatomic a)) c

variable (hatoms : ∀ a ∈ c.atoms, ∃ r, (expr a).render d .positional = .ok r)

include hatoms

theorem fault_condition : ((c.toExpr expr).script d).fault = none ↔ c.hasBareNot = false := by
  rw [Condition.fault_toExpr (fun a => isEmptyCondition_of_atomic (hatomic a))]
  exact ⟨And.left, fun h => ⟨h, fun a ha => fault_of_renders (hatoms a ha)⟩⟩

theorem textIn_condition (hsome : c.atoms ≠ []) (hbare : c.hasBareNot = false) :
    ((c.toExpr expr).script d).textIn d .positional =
      ConditionToken.spell expr d .positional (c.tokens expr) :=
  Condition.textIn_toExpr (fun a => isEmptyCondition_of_atomic (hatomic a)) _ hsome
    ((fault_condition hatomic hatoms).2 hbare)

/-! ## Guards of writes -/

/-- The guard lets a condition pass that has an atom and no bare NOT. -/
theorem fault_guard (verb : WriteVerb) :
    (d.guard verb (some (c.toExpr expr)) ((c.toExpr expr).script d)).fault = none ↔
      c.atoms ≠ [] ∧ c.hasBareNot = false := by
  have hempty := isEmptyCondition_atomic hatomic (c := c)
  by_cases htest : (c.toExpr expr).isEmptyCondition = true
  · rw [Dialect.guard, if_pos htest]
    have hnone := (hempty.1 htest).1
    simp [Script.fail, hnone]
  · rw [Dialect.guard, if_neg htest, Script.fault_append_eq_none, fault_condition hatomic hatoms]
    constructor
    · rintro ⟨-, hbare⟩
      exact ⟨Condition.atoms_ne_nil (fun h => htest (hempty.2 h)) hbare, hbare⟩
    · rintro ⟨-, hbare⟩
      exact ⟨rfl, hbare⟩

theorem GuardsWrite.of_script {write : Option Expr → Expr} (verb : WriteVerb) {front : Script}
    (hfront : front.fault = none)
    (hscript : ∀ condition, (write condition).script d = front ++ d.guard verb condition (optionScript d condition)) :
    GuardsWrite expr d c write := by
  have hfault : ((write (some (c.toExpr expr))).script d).fault = none ↔ c.atoms ≠ [] ∧ c.hasBareNot = false := by
    rw [hscript, Script.fault_append_eq_none, optionScript, fault_guard hatomic hatoms]
    exact and_iff_right hfront
  refine ⟨renders_positional_iff.trans hfault, fun h => refused_of_fault fun hnone => h (hfault.1 hnone), ?_⟩
  intro r hr
  obtain ⟨hnone, hsql⟩ := render_ok hr
  obtain ⟨hsome, hbare⟩ := hfault.1 hnone
  have htest : (c.toExpr expr).isEmptyCondition ≠ true := fun h =>
    hsome ((isEmptyCondition_atomic hatomic).1 h).1
  have hwithout : (write none).script d = front := by
    rw [hscript, Dialect.guard, Script.append_nil]
  refine ⟨⟨front.textIn d .positional, .positional front.values⟩, ?_, ?_⟩
  · rw [render_positional, hwithout, hfront]
  · rw [hsql, hscript, Script.textIn_append d _ hfront, optionScript, Dialect.guard, if_neg htest,
      Dialect.spacedWord, Script.textIn_append d _ (Script.fault_text _), Script.textIn_text,
      textIn_condition hatomic hatoms hsome hbare, String.append_assoc]

/-! ## Clauses of queries -/

variable {query : Option Expr → Expr} {keyword : String} {front back : Script}
  (hscript : ∀ condition, (query condition).script d =
    front ++ d.clause keyword (saysNothing condition) (optionScript d condition) ++ back)
  (hfront : front.fault = none) (hback : back.fault = none)
  (htest : (c.toExpr expr).isEmptyCondition ≠ true)

omit hatomic hatoms in
include hscript in
theorem script_without : (query none).script d = front ++ back := by
  rw [hscript, saysNothing, Dialect.clause, if_pos rfl, Script.append_nil]

omit hatomic hatoms in
include hscript htest in
theorem script_shown : (query (some (c.toExpr expr))).script d =
    front ++ (.text (d.spaced keyword) ++ (c.toExpr expr).script d) ++ back := by
  rw [hscript, saysNothing, Dialect.clause, if_neg htest, Dialect.spacedWord, optionScript]

include hscript hfront hback htest

theorem fault_shown : ((query (some (c.toExpr expr))).script d).fault = none ↔ c.hasBareNot = false := by
  rw [script_shown hscript htest, Script.fault_append_eq_none, Script.fault_append_eq_none,
    Script.fault_append_eq_none, fault_condition hatomic hatoms]
  exact ⟨fun h => h.1.2.2, fun h => ⟨⟨hfront, rfl, h⟩, hback⟩⟩

theorem sql_shown {r : Rendered} (hr : (query (some (c.toExpr expr))).render d .positional = .ok r) :
    r.sql = front.textIn d .positional ++ d.spaced keyword ++
      ConditionToken.spell expr d .positional (c.tokens expr) ++ back.textIn d .positional := by
  obtain ⟨hnone, hsql⟩ := render_ok hr
  have hbare := (fault_shown hatomic hatoms hscript hfront hback htest).1 hnone
  have hsome : c.atoms ≠ [] :=
    Condition.atoms_ne_nil (fun h => htest ((isEmptyCondition_atomic hatomic).2 h)) hbare
  have hcond := (fault_condition hatomic hatoms).2 hbare
  have hclause : (front ++ (.text (d.spaced keyword) ++ (c.toExpr expr).script d)).fault = none := by
    rw [Script.fault_append_eq_none, Script.fault_append_eq_none]
    exact ⟨hfront, rfl, hcond⟩
  rw [hsql, script_shown hscript htest, Script.textIn_append d _ hclause, Script.textIn_append d _ hfront,
    Script.textIn_append d _ (Script.fault_text _), Script.textIn_text,
    textIn_condition hatomic hatoms hsome hbare]
  simp only [String.append_assoc]

omit hfront hback htest in
theorem ShowsCondition.of_script (hrest : ∃ r, (query none).render d .positional = .ok r) :
    ShowsCondition expr d c keyword query := by
  have hempty := isEmptyCondition_atomic hatomic (c := c)
  have hwithout := script_without hscript
  have hfaults := fault_of_renders hrest
  rw [hwithout, Script.fault_append_eq_none] at hfaults
  obtain ⟨hfront, hback⟩ := hfaults
  have hrendered : (query none).render d .positional =
      .ok ⟨front.textIn d .positional ++ back.textIn d .positional, .positional (front ++ back).values⟩ := by
    rw [render_positional, hwithout, Script.fault_append_eq_none.2 ⟨hfront, hback⟩, Script.textIn_append d _ hfront]
  have hfault := fault_shown hatomic hatoms hscript hfront hback
  have hsql := fun htest r => sql_shown hatomic hatoms hscript hfront hback htest (r := r)
  refine ⟨⟨fun h => ?_, fun h => ?_⟩, fun h => ?_, fun h => refused_of_fault fun hnone => ?_,
    fun hsome r hr => ?_⟩
  · -- a clause that is written makes the text longer
    rw [← hempty]
    by_cases htest : (c.toExpr expr).isEmptyCondition = true
    · exact htest
    · rw [hrendered] at h
      have hlength := congrArg String.length (hsql htest _ h)
      simp only [String.length_append, Dialect.spaced] at hlength
      have hblank : " ".length = 1 := rfl
      omega
  · rw [render_positional, hscript, saysNothing, hempty.2 h, Dialect.clause, if_pos rfl, Script.append_nil,
      ← hwithout, ← render_positional]
  · have htest : (c.toExpr expr).isEmptyCondition ≠ true := fun he => h (hempty.1 he)
    rw [renders_positional_iff, hfault htest]
    exact ⟨fun hbare => ⟨Condition.atoms_ne_nil h hbare, hbare⟩, And.right⟩
  · have htest : (c.toExpr expr).isEmptyCondition ≠ true := by
      intro he
      rw [Condition.hasBareNot_eq_false (hempty.1 he).2] at h
      cases h
    rw [(hfault htest).1 hnone] at h
    cases h
  · have htest : (c.toExpr expr).isEmptyCondition ≠ true := fun he => hsome (hempty.1 he).1
    exact ⟨_, _, _, hrendered, rfl, hsql htest r hr⟩

end

/-! ## Statements -/

theorem fault_scripts {es : List Expr} (h : ∀ e ∈ es, ∃ r, e.render d .positional = .ok r) :
    ∀ s ∈ scripts d es, s.fault = none := by
  rw [scripts_eq, List.forall_mem_map]
  exact fun e he => fault_of_renders (h e he)

/-- A query up to the end of its source. -/
def Select.head (d : Dialect) (query : Select Expr) : Script :=
  d.word "SELECT" ++ .text " " ++
    (if query.columns.isEmpty then .text "*" else .join (.text ",") (scripts d query.columns)) ++
    d.spacedWord "FROM" ++ optionScript d query.source

/-- What stands behind HAVING. -/
def Select.tail (d : Dialect) (query : Select Expr) : Script :=
  d.clause "ORDER BY" query.orderBy.isEmpty (.join (.text ",") (scripts d query.orderBy)) ++
    d.page query.limit query.offset

theorem isSome_source {query : Select Expr} (h : ∃ r, (Expr.select query).render d .positional = .ok r) :
    query.source.isSome = true := by
  have hfault := fault_of_renders h
  cases hsource : query.source with
  | some source => rfl
  | none =>
    simp only [Expr.script, hsource, Option.isNone_none, if_true] at hfault
    cases hfault

theorem script_select (query : Select Expr) (hsource : query.source.isSome = true) :
    (Expr.select query).script d =
      query.head d ++ d.clause "WHERE" (saysNothing query.condition) (optionScript d query.condition) ++
        d.clause "GROUP BY" query.groupBy.isNone (optionScript d query.groupBy) ++
        d.clause "HAVING" (saysNothing query.having) (optionScript d query.having) ++ query.tail d := by
  have hsome : query.source.isNone = false := by rw [← Option.not_isSome, hsource]; rfl
  simp only [Expr.script, hsome, Bool.false_eq_true, if_false]
  rw [Script.append_assoc _ (d.clause "ORDER BY" _ _)]
  rfl

/-- **A condition that is given is not lost.** Its atoms are written once each and in their order. An UPDATE or
DELETE renders exactly if the condition has an atom and no NOT over a condition without atoms; then its text is
that of the statement without the condition, WHERE, and the condition. A query leaves out the clause exactly
if the condition has neither an atom nor a NOT, and the same holds otherwise. -/
theorem conditions_kept (hatomic : ∀ a, (expr a).isConnective = false)
    (hatoms : ∀ a ∈ c.atoms, ∃ r, (expr a).render d .positional = .ok r) :
    (c.tokens expr).filterMap (·.atom?) = c.atoms ∧
    (∀ table assignments, (∃ r, table.render d .positional = .ok r) → assignments ≠ [] →
      (∀ e ∈ assignments, ∃ r, e.render d .positional = .ok r) →
      GuardsWrite expr d c fun condition => .update ⟨table, assignments, condition⟩) ∧
    (∀ table, (∃ r, table.render d .positional = .ok r) →
      GuardsWrite expr d c fun condition => .delete ⟨table, condition⟩) ∧
    (∀ query : Select Expr, (∃ r, (Expr.select { query with condition := none }).render d .positional = .ok r) →
      ShowsCondition expr d c "WHERE" fun condition => .select { query with condition }) ∧
    (∀ query : Select Expr, (∃ r, (Expr.select { query with having := none }).render d .positional = .ok r) →
      ShowsCondition expr d c "HAVING" fun having => .select { query with having }) := by
  refine ⟨c.atoms_tokens expr, ?_, ?_, ?_, ?_⟩
  · intro table assignments htable hsome hassignments
    have hempty : assignments.isEmpty = false := List.isEmpty_eq_false_iff.2 hsome
    have hset := (Script.fault_join (Script.fault_text ", ")).2 (fault_scripts hassignments)
    have hfront : (d.word "UPDATE" ++ .text " " ++ table.script d ++ d.spacedWord "SET" ++
        .join (.text ", ") (scripts d assignments)).fault = none := by
      simp only [Script.fault_append_eq_none, Dialect.word, Dialect.spacedWord, Script.fault_text,
        fault_of_renders htable, hset, and_self]
    refine GuardsWrite.of_script hatomic hatoms .update hfront fun condition => ?_
    simp only [Expr.script, hempty, Bool.false_eq_true, if_false]
  · intro table htable
    have hfront : (d.word "DELETE FROM" ++ .text " " ++ table.script d).fault = none := by
      simp only [Script.fault_append_eq_none, Dialect.word, Script.fault_text, fault_of_renders htable, and_self]
    refine GuardsWrite.of_script hatomic hatoms .delete hfront fun condition => ?_
    simp only [Expr.script]
  · intro query hrest
    have hsource := isSome_source hrest
    have hscript (condition : Option Expr) : (Expr.select { query with condition }).script d =
        query.head d ++ d.clause "WHERE" (saysNothing condition) (optionScript d condition) ++
          (d.clause "GROUP BY" query.groupBy.isNone (optionScript d query.groupBy) ++
            (d.clause "HAVING" (saysNothing query.having) (optionScript d query.having) ++ query.tail d)) := by
      rw [script_select { query with condition } hsource]
      simp only [Script.append_assoc]
      rfl
    exact ShowsCondition.of_script hatomic hatoms hscript hrest
  · intro query hrest
    have hsource := isSome_source hrest
    have hscript (having : Option Expr) : (Expr.select { query with having }).script d =
        query.head d ++ d.clause "WHERE" (saysNothing query.condition) (optionScript d query.condition) ++
          d.clause "GROUP BY" query.groupBy.isNone (optionScript d query.groupBy) ++
          d.clause "HAVING" (saysNothing having) (optionScript d having) ++ query.tail d := by
      rw [script_select { query with having } hsource]
      rfl
    exact ShowsCondition.of_script hatomic hatoms hscript hrest

/-- A NOT beside an empty list, which drops out. -/
def notDone : Condition String := .join .and [.join .or [], .not (.atom "done")]

theorem conditions_kept_delete :
    (∀ a : String, (Expr.name a).isConnective = false) ∧
      (∀ a ∈ notDone.atoms, ∃ r, (Expr.name a).render .mysql .positional = .ok r) ∧
      ∃ r, (Expr.delete ⟨.name "tasks", some (notDone.toExpr .name)⟩).render .mysql .positional = .ok r :=
  ⟨fun _ => rfl, fun _ _ => ⟨_, rfl⟩,
    ((conditions_kept (fun _ => rfl) fun _ _ => ⟨_, rfl⟩).2.2.1 (.name "tasks") ⟨_, rfl⟩).renders_iff.2
      ⟨by decide, rfl⟩⟩

end Sql
