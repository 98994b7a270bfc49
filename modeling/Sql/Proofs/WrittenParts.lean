/-
The trees that are written in the text of a tree.

What is left out of a text, such as a condition that tests nothing, is not `Expr.shown`. What is shown stands in the text in
one piece, however deep it is: `sql_of_shows` says so of every tree that `Expr.Shows` another one.
-/
import Sql.Proofs.StatementTexts

namespace Sql

/-! ## Parts of scripts -/

/-- A script that is a part of another one. -/
def Script.Within (part whole : Script) : Prop := ∃ before after, whole = before ++ part ++ after

namespace Script.Within

variable {part s t : Script}

theorem refl (s : Script) : s.Within s := ⟨.nil, .nil, by simp⟩

theorem trans (hst : part.Within s) (htu : s.Within t) : part.Within t := by
  obtain ⟨before, after, rfl⟩ := hst
  obtain ⟨before', after', rfl⟩ := htu
  exact ⟨before' ++ before, after ++ after', by simp only [append_assoc]⟩

theorem left (h : part.Within s) (t : Script) : part.Within (s ++ t) := by
  obtain ⟨before, after, rfl⟩ := h
  exact ⟨before, after ++ t, append_assoc _ _ _⟩

theorem right (s : Script) (h : part.Within t) : part.Within (s ++ t) := by
  obtain ⟨before, after, rfl⟩ := h
  exact ⟨s ++ before, after, by simp only [append_assoc]⟩

theorem paren (h : part.Within s) : part.Within s.paren := (h.right _).left _

theorem parenIf (grouped : Bool) (h : part.Within s) : part.Within (Script.parenIf grouped s) := by
  cases grouped with
  | false => exact h
  | true => exact h.paren

theorem join (separator : Script) {ss : List Script} (hs : s ∈ ss) (h : part.Within s) :
    part.Within (Script.join separator ss) := by
  induction ss with
  | nil => exact absurd hs List.not_mem_nil
  | cons t ss ih =>
    cases ss with
    | nil =>
      obtain rfl := List.mem_singleton.1 hs
      exact h
    | cons t' ss =>
      rcases List.mem_cons.1 hs with rfl | hs
      · exact (h.left separator).left _
      · exact (ih hs).right _

/-- A part of a script that is not at fault is not at fault, and its text stands in the text of the script. -/
theorem text (h : part.Within s) (hfault : s.fault = none) (d : Dialect) (style : ParamStyle) :
    part.fault = none ∧ ∃ front back, s.textIn d style = front ++ part.textIn d style ++ back := by
  obtain ⟨before, after, rfl⟩ := h
  obtain ⟨hfront, hafter⟩ := fault_append_eq_none.1 hfault
  obtain ⟨hbefore, hpart⟩ := fault_append_eq_none.1 hfront
  refine ⟨hpart, before.textIn d style, after.textIn d style, ?_⟩
  rw [textIn_append d style hfront, textIn_append d style hbefore]

end Script.Within

/-! ## Parts of trees -/

/-- The sides of a test, unless it tests membership in a set without members. -/
def Binary.shown (b : Binary Expr) : List Expr :=
  if b.op.isMembership && b.right.isEmptySet then [] else [b.left, b.right]

namespace Expr

/-- The trees directly below that are written. -/
def shown : Expr → List Expr
  | binary b => b.shown
  | list l => l.lead.toList ++ l.shownItems ++ l.trail.toList
  | select s =>
    s.columns ++ s.source.toList ++ (saying? s.condition).toList ++ s.groupBy.toList ++ (saying? s.having).toList ++
      s.orderBy
  | e => e.children

theorem shown_listOf (separator : Separator) (items : List Expr) :
    (listOf separator items).shown = items.filter (!separator.drops ·) := by
  simp only [listOf, shown, Listing.shownItems, Option.toList_none, List.nil_append, List.append_nil]

/-- A tree with another one that is written in it, or that is the tree itself. -/
inductive Shows : Expr → Expr → Prop
  | self (e : Expr) : Shows e e
  | through {e c x : Expr} (hc : c ∈ e.shown) (hx : Shows c x) : Shows e x

end Expr

section

variable {d : Dialect} {c : Expr}

theorem within_scripts (separator : Script) {es : List Expr} (hc : c ∈ es) :
    (c.script d).Within (.join separator (scripts d es)) := by
  rw [scripts_eq]
  exact .join separator (List.mem_map_of_mem hc) (.refl _)

theorem within_option {e? : Option Expr} (hc : c ∈ e?) : (c.script d).Within (optionScript d e?) := by
  obtain rfl := hc
  exact .refl _

theorem within_optionClause (keyword : String) {e? : Option Expr} (hc : c ∈ e?) :
    (c.script d).Within (d.clause keyword e?.isNone (optionScript d e?)) := by
  obtain rfl := hc
  exact .right _ (.refl _)

theorem within_binary {b : Binary Expr} (hc : c ∈ b.shown) : (c.script d).Within (binaryScript d b) := by
  obtain ⟨left, op, right⟩ := b
  unfold Binary.shown at hc
  split at hc
  · exact absurd hc List.not_mem_nil
  · next hmembers =>
    rw [binaryScript, if_neg hmembers]
    simp only [List.mem_cons, List.not_mem_nil, or_false] at hc
    rcases hc with rfl | rfl
    · exact ((Script.Within.refl _).left _).left _
    · exact (Script.Within.refl _).right _

theorem within_list {l : Listing Expr} (hc : c ∈ (Expr.list l).shown) : (c.script d).Within ((Expr.list l).script d) := by
  obtain ⟨separator, items, lead, trail⟩ := l
  simp only [Expr.shown, List.mem_append, Option.mem_toList] at hc
  rw [Expr.script]
  rcases hc with (rfl | hc) | rfl
  · exact (((Script.Within.refl _).left _).left _).left _
  · refine ((Script.Within.join _ ?_ ((Script.Within.refl _).parenIf (c.needsGroupIn separator))).right _).left _
    rw [itemScripts_eq_map]
    exact List.mem_map_of_mem hc
  · exact ((Script.Within.refl _).right _).right _

theorem within_select {s : Select Expr} (hsource : s.source.isSome = true) (hc : c ∈ (Expr.select s).shown) :
    (c.script d).Within ((Expr.select s).script d) := by
  simp only [Expr.shown, List.mem_append, Option.mem_toList, or_assoc] at hc
  rw [script_select s hsource, clause_saying, clause_saying, Select.head, Select.tail]
  rcases hc with hc | hc | hc | hc | hc | hc
  · have hcolumns : (c.script d).Within
        (if s.columns.isEmpty then .text "*" else .join (.text ",") (scripts d s.columns)) := by
      rw [if_neg (by simpa using List.ne_nil_of_mem hc)]
      exact within_scripts _ hc
    exact ((((((hcolumns.right _).left _).left _).left _).left _).left _).left _
  · exact (((((within_option hc).right _).left _).left _).left _).left _
  · exact ((((within_optionClause _ hc).right _).left _).left _).left _
  · exact (((within_optionClause _ hc).right _).left _).left _
  · exact ((within_optionClause _ hc).right _).left _
  · have horder : (c.script d).Within
        (d.clause "ORDER BY" s.orderBy.isEmpty (.join (.text ",") (scripts d s.orderBy))) := by
      rw [Dialect.clause, if_neg (by simpa using List.ne_nil_of_mem hc)]
      exact (within_scripts _ hc).right _
    exact (horder.left _).right _

theorem within_guard (verb : WriteVerb) {condition : Option Expr} (hc : c ∈ condition)
    (hfault : (d.guard verb condition (optionScript d condition)).fault = none) :
    (c.script d).Within (d.guard verb condition (optionScript d condition)) := by
  obtain rfl := hc
  rw [Dialect.guard] at hfault ⊢
  split
  · next hempty =>
    rw [if_pos hempty] at hfault
    cases hfault
  · exact (Script.Within.refl _).right _

theorem within_insert {i : Insert Expr} (hfault : ((Expr.insert i).script d).fault = none)
    (hc : c ∈ (Expr.insert i).shown) : (c.script d).Within ((Expr.insert i).script d) := by
  simp only [Expr.shown, Expr.children, List.cons_append, List.mem_cons, List.mem_append] at hc
  rw [script_insert hfault]
  rcases hc with rfl | hc | hc
  · exact (((((Script.Within.refl _).right _).left _).left _).left _).left _
  · exact (((within_scripts _ hc).paren.right _).left _).left _
  · exact (within_scripts _ hc).paren.right _

theorem within_update {u : Update Expr} (hfault : ((Expr.update u).script d).fault = none)
    (hc : c ∈ (Expr.update u).shown) : (c.script d).Within ((Expr.update u).script d) := by
  simp only [Expr.shown, Expr.children, List.cons_append, List.mem_cons, List.mem_append, Option.mem_toList] at hc
  have hscript := script_update hfault
  rw [hscript] at hfault ⊢
  rcases hc with rfl | hc | hc
  · exact ((((Script.Within.refl _).right _).left _).left _).left _
  · exact ((within_scripts _ hc).right _).left _
  · exact (within_guard _ hc (Script.fault_append_eq_none.1 hfault).2).right _

/-- What a tree that can be written shows is a part of what is written. -/
theorem within_of_shown {e : Expr} (hfault : (e.script d).fault = none) (hc : c ∈ e.shown) :
    (c.script d).Within (e.script d) := by
  cases e with
  | identifier | constant | bound | raw => exact absurd hc List.not_mem_nil
  | binary b => exact within_binary hc
  | unary op operand =>
    obtain rfl := List.mem_singleton.1 hc
    rw [script_unary hfault]
    exact ((Script.Within.refl _).parenIf _).right _
  | list l => exact within_list hc
  | call function args => exact ((within_scripts _ hc).right _).left _
  | between operand low high =>
    simp only [Expr.shown, Expr.children, List.mem_cons, List.not_mem_nil, or_false] at hc
    rw [Expr.script]
    rcases hc with rfl | rfl | rfl
    · exact ((((Script.Within.refl _).left _).left _).left _).left _
    · exact (((Script.Within.refl _).right _).left _).left _
    · exact (Script.Within.refl _).right _
  | «alias» e name =>
    obtain rfl := List.mem_singleton.1 hc
    exact ((Script.Within.refl _).left _).left _
  | paren inner =>
    obtain rfl := List.mem_singleton.1 hc
    exact (Script.Within.refl _).paren
  | select s => exact within_select (isSome_source (renders_positional_iff.2 hfault)) hc
  | insert i => exact within_insert hfault hc
  | update u => exact within_update hfault hc
  | delete s =>
    rw [Expr.script] at hfault ⊢
    rcases List.mem_cons.1 hc with rfl | hc
    · exact ((Script.Within.refl _).right _).left _
    · exact (within_guard _ (Option.mem_toList.1 hc) (Script.fault_append_eq_none.1 hfault).2).right _

theorem within_of_shows {e x : Expr} (h : e.Shows x) (hfault : (e.script d).fault = none) :
    (x.script d).Within (e.script d) := by
  induction h with
  | self e => exact .refl _
  | through hc _ ih =>
    have hpart := within_of_shown hfault hc
    exact (ih (hpart.text hfault d .positional).1).trans hpart

/-- **What a tree shows stands in its text**, in one piece. -/
theorem sql_of_shows {e x : Expr} {style : ParamStyle} {r : Rendered} (hr : e.render d style = .ok r) (h : e.Shows x) :
    (x.script d).fault = none ∧ ∃ front back, r.sql = front ++ x.textIn d style ++ back := by
  obtain ⟨hfault, hsql⟩ := render_ok hr
  rw [hsql]
  exact (within_of_shows h hfault).text hfault d style

end

end Sql
