/-
The parameters of a statement are those of its tree, in the order of the text.

`Expr.parameters` lists them by recursion on the tree; of a dialect only the way in which it limits rows matters.
`parameters_script` says that the script of a tree that can be written has these parameters and no others,
and `positional_arguments` that by position their values are the arguments.
-/
import Sql.Expr.Children
import Sql.Proofs.TwoStyles

namespace Sql

/-- A parameter: its name, if it has one, and its value. -/
structure Parameter where
  name : Option String
  value : Value
deriving DecidableEq

namespace Parameter

/-- A number of rows, under the name of its clause. -/
def rows (name : String) (n : UInt64) : Parameter := ⟨some name, .uint n⟩

end Parameter

/-! ## Parameters of trees -/

/-- The parameters at the end of a query. Where OFFSET comes first, a limit alone brings an offset of 0. -/
def Pagination.parameters (p : Pagination) (limit offset : Option UInt64) : List Parameter :=
  match p with
  | .limitOffset => (limit.map (.rows "limit")).toList ++ (offset.map (.rows "offset")).toList
  | .offsetFetch =>
    if limit.isNone && offset.isNone then []
    else .rows "offset" (offset.getD 0) :: (limit.map (.rows "limit")).toList

theorem Pagination.parameters_none (p : Pagination) : p.parameters none none = [] := by cases p <;> rfl

mutual

/-- **The parameters of a tree**, every bound value once and from left to right. A test against a set without members
has none, whatever stands on its sides. -/
@[simp] def Expr.parameters (p : Pagination) : Expr → List Parameter
  | .identifier _ _ | .constant _ | .raw _ => []
  | .bound name v => [⟨name, v⟩]
  | .binary b => binaryParameters p b
  | .unary _ operand => operand.parameters p
  | .list ⟨_, items, lead, trail⟩ => optionParameters p lead ++ allParameters p items ++ optionParameters p trail
  | .call _ args => allParameters p args
  | .between operand low high => operand.parameters p ++ low.parameters p ++ high.parameters p
  | .alias e _ => e.parameters p
  | .paren inner => inner.parameters p
  | .select ⟨columns, source, condition, groupBy, having, orderBy, limit, offset, _⟩ =>
    allParameters p columns ++ optionParameters p source ++ optionParameters p condition ++
      optionParameters p groupBy ++ optionParameters p having ++ allParameters p orderBy ++
      p.parameters limit offset
  | .insert ⟨table, columns, values⟩ => table.parameters p ++ allParameters p columns ++ allParameters p values
  | .update ⟨table, assignments, condition⟩ =>
    table.parameters p ++ allParameters p assignments ++ optionParameters p condition
  | .delete ⟨table, condition⟩ => table.parameters p ++ optionParameters p condition

def binaryParameters (p : Pagination) : Binary Expr → List Parameter
  | ⟨left, op, right⟩ =>
    if op.isMembership && right.isEmptySet then [] else left.parameters p ++ right.parameters p

def allParameters (p : Pagination) : List Expr → List Parameter
  | [] => []
  | e :: es => e.parameters p ++ allParameters p es

def optionParameters (p : Pagination) : Option Expr → List Parameter
  | none => []
  | some e => e.parameters p

end

theorem allParameters_eq (p : Pagination) (es : List Expr) : allParameters p es = es.flatMap (·.parameters p) := by
  induction es with
  | nil => rfl
  | cons e es ih => rw [allParameters, ih, List.flatMap_cons]

/-- What drops out of a statement has no parameters. -/
theorem parameters_of_isEmptyCondition (p : Pagination) {e : Expr} (h : e.isEmptyCondition = true) :
    e.parameters p = [] := by
  induction e using Expr.induct with
  | node e ih =>
    rcases Expr.isEmptyCondition_cases h with ⟨separator, items, rfl, -, hall⟩ | ⟨inner, rfl, hinner⟩
    · rw [allEmptyConditions_eq, List.all_eq_true] at hall
      simp only [Expr.parameters, optionParameters, allParameters_eq, List.nil_append, List.append_nil,
        List.flatMap_eq_nil_iff]
      exact fun item hitem => ih item (by simp [Expr.children, hitem]) (hall item hitem)
    · rw [Expr.parameters]
      exact ih inner (List.mem_singleton_self inner) hinner

theorem allParameters_shown (p : Pagination) (separator : Separator) (items : List Expr) :
    allParameters p (items.filter (!separator.drops ·)) = allParameters p items := by
  induction items with
  | nil => rfl
  | cons item items ih =>
    cases hdrops : separator.drops item with
    | false => simp [allParameters, hdrops, ih]
    | true =>
      have hempty : item.isEmptyCondition = true := (Bool.and_eq_true_iff.1 hdrops).2
      simp [allParameters, hdrops, ih, parameters_of_isEmptyCondition p hempty]

/-! ## Parameters of scripts -/

namespace Piece

def parameter? : Piece → Option Parameter
  | .text _ => none
  | .parameter name value => some ⟨name, value⟩

/-- The parameters among pieces. -/
def parametersOf (pieces : List Piece) : List Parameter := pieces.filterMap (·.parameter?)

theorem parametersOf_append (before after : List Piece) :
    parametersOf (before ++ after) = parametersOf before ++ parametersOf after := List.filterMap_append

theorem valuesOf_eq (pieces : List Piece) : valuesOf pieces = (parametersOf pieces).map (·.value) := by
  simp only [valuesOf, parametersOf, List.map_filterMap]
  congr 1
  funext piece
  cases piece <;> rfl

end Piece

namespace Script

/-- The parameters of a script, in their order. -/
def parameters (s : Script) : List Parameter := Piece.parametersOf s.pieces

theorem parameters_append {s t : Script} (h : s.fault = none) : (s ++ t).parameters = s.parameters ++ t.parameters := by
  obtain ⟨pieces, fault⟩ := s
  cases h
  exact Piece.parametersOf_append pieces t.pieces

/-- What is written of one thing in all dialects: it is at fault in all of them for the same reason, or in none, and
then it has the parameters that go with the way in which a dialect limits rows. -/
def Carries (script : Dialect → Script) (ps : Pagination → List Parameter) : Prop :=
  ∃ fault, ∀ d, (script d).fault = fault ∧ (fault = none → (script d).parameters = ps d.pagination)

namespace Carries

variable {s t : Dialect → Script} {ps qs : Pagination → List Parameter}

theorem nil : Carries (fun _ => .nil) fun _ => [] := ⟨none, fun _ => ⟨rfl, fun _ => rfl⟩⟩

theorem text (x : Dialect → String) : Carries (fun d => .text (x d)) fun _ => [] :=
  ⟨none, fun _ => ⟨rfl, fun _ => rfl⟩⟩

theorem fail (fault : QueryFault) : Carries (fun _ => .fail fault) ps :=
  ⟨some fault, fun _ => ⟨rfl, fun h => nomatch h⟩⟩

theorem parameter (name : Option String) (v : Value) :
    Carries (fun _ => .parameter name v) fun _ => [⟨name, v⟩] :=
  ⟨none, fun _ => ⟨rfl, fun _ => rfl⟩⟩

theorem append (hs : Carries s ps) (ht : Carries t qs) : Carries (fun d => s d ++ t d) fun p => ps p ++ qs p := by
  obtain ⟨fault, hs⟩ := hs
  obtain ⟨fault', ht⟩ := ht
  refine ⟨fault.or fault', fun d => ⟨?_, fun hnone => ?_⟩⟩
  · rw [fault_append, (hs d).1, (ht d).1]
  · obtain ⟨rfl, rfl⟩ := Option.or_eq_none_iff.1 hnone
    show (s d ++ t d).parameters = ps d.pagination ++ qs d.pagination
    rw [parameters_append (hs d).1, (hs d).2 rfl, (ht d).2 rfl]

/-- Literal text stands before, between and behind without a parameter of its own. -/
theorem before (hs : Carries s fun _ => []) (ht : Carries t qs) : Carries (fun d => s d ++ t d) qs := hs.append ht

theorem after (hs : Carries s ps) (ht : Carries t fun _ => []) : Carries (fun d => s d ++ t d) ps := by
  simpa using hs.append ht

/-- A choice that is made without the dialect. -/
theorem ite {c : Prop} [Decidable c] (hs : c → Carries s ps) (ht : ¬ c → Carries t ps) :
    Carries (fun d => if c then s d else t d) ps := by
  by_cases hc : c
  · simpa only [if_pos hc] using hs hc
  · simpa only [if_neg hc] using ht hc

theorem paren (hs : Carries s ps) : Carries (fun d => (s d).paren) ps :=
  ((text fun _ => "( ").before hs).after (text fun _ => " )")

theorem parenIf (grouped : Bool) (hs : Carries s ps) : Carries (fun d => Script.parenIf grouped (s d)) ps :=
  ite (fun _ => hs.paren) fun _ => hs

theorem join {separator : Dialect → Script} (hsep : Carries separator fun _ => []) {es : List α}
    {f : α → Dialect → Script} {g : α → Pagination → List Parameter} (h : ∀ e ∈ es, Carries (f e) (g e)) :
    Carries (fun d => .join (separator d) (es.map fun e => f e d)) fun p => es.flatMap fun e => g e p := by
  induction es with
  | nil => exact nil
  | cons e es ih =>
    obtain ⟨he, hes⟩ := List.forall_mem_cons.1 h
    cases es with
    | nil => simpa [Script.join] using he
    | cons e' es => exact (he.after hsep).append (ih hes)

end Carries

end Script

/-! ## Clauses -/

section

variable {ps : Pagination → List Parameter}

/-- The scripts of a tree carry its parameters. -/
def Expr.Carried (e : Expr) : Prop := Script.Carries (fun d => e.script d) fun p => e.parameters p

theorem carries_word (w : String) : Script.Carries (fun d => d.word w) fun _ => [] := .text _

theorem carries_spacedWord (w : String) : Script.Carries (fun d => d.spacedWord w) fun _ => [] := .text _

theorem carries_blank : Script.Carries (fun _ => .text " ") fun _ => [] := .text _

theorem carries_option {e? : Option Expr} (h : ∀ e ∈ e?, e.Carried) :
    Script.Carries (fun d => optionScript d e?) fun p => optionParameters p e? := by
  cases e? with
  | none => exact .nil
  | some e => exact h e rfl

theorem carries_clause (keyword : String) {silent : Bool} {body : Dialect → Script}
    (hsilent : silent = true → ∀ p, ps p = []) (hbody : Script.Carries body ps) :
    Script.Carries (fun d => d.clause keyword silent (body d)) ps := by
  cases silent with
  | true =>
    obtain rfl : ps = fun _ => [] := funext (hsilent rfl)
    exact .nil
  | false => exact (carries_spacedWord keyword).before hbody

/-- A clause that is left out because its condition says nothing loses no parameter. -/
theorem carries_condition (keyword : String) {condition : Option Expr} (h : ∀ e ∈ condition, e.Carried) :
    Script.Carries (fun d => d.clause keyword (saysNothing condition) (optionScript d condition))
      fun p => optionParameters p condition := by
  refine carries_clause keyword (fun hsilent p => ?_) (carries_option h)
  cases condition with
  | none => rfl
  | some e => exact parameters_of_isEmptyCondition p hsilent

theorem carries_guard (verb : WriteVerb) {condition : Option Expr} (h : ∀ e ∈ condition, e.Carried) :
    Script.Carries (fun d => d.guard verb condition (optionScript d condition))
      fun p => optionParameters p condition := by
  cases condition with
  | none => exact .nil
  | some e =>
    simp only [Dialect.guard]
    exact .ite (fun _ => .fail _) fun _ => (carries_spacedWord "WHERE").before (h e rfl)

theorem parameters_page (d : Dialect) (limit offset : Option UInt64) :
    (d.page limit offset).parameters = d.pagination.parameters limit offset := by
  unfold Dialect.page Pagination.parameters
  cases d.pagination <;> cases limit <;> cases offset <;> rfl

theorem carries_page (limit offset : Option UInt64) :
    Script.Carries (fun d => d.page limit offset) fun p => p.parameters limit offset :=
  ⟨none, fun d => ⟨fault_page d limit offset, fun _ => parameters_page d limit offset⟩⟩

theorem carries_commas {es : List Expr} (h : ∀ e ∈ es, e.Carried) :
    Script.Carries (fun d => .join (.text ",") (scripts d es)) fun p => allParameters p es := by
  simp only [scripts_eq, allParameters_eq]
  exact .join (.text fun _ => ",") h

/-! ## Nodes -/

theorem carries_binary {b : Binary Expr} (hleft : b.left.Carried) (hright : b.right.Carried) :
    Script.Carries (fun d => binaryScript d b) fun p => binaryParameters p b := by
  obtain ⟨left, op, right⟩ := b
  simp only [binaryScript, binaryParameters]
  have hop : Script.Carries (fun d => d.operator op) fun _ => [] := .text _
  split
  · exact .text _
  · exact (hleft.after hop).append hright

theorem carried_list {separator : Separator} {items : List Expr} {lead trail : Option Expr}
    (hlead : ∀ e ∈ lead, e.Carried) (hitems : ∀ e ∈ items, e.Carried) (htrail : ∀ e ∈ trail, e.Carried) :
    (Expr.list ⟨separator, items, lead, trail⟩).Carried := by
  have hfront : Script.Carries (fun d => if lead.isSome then optionScript d lead ++ .text " " else .nil)
      fun p => optionParameters p lead := by
    cases lead with
    | none => exact .nil
    | some e => exact (hlead e rfl).after carries_blank
  have hback : Script.Carries (fun d => if trail.isSome then .text " " ++ optionScript d trail else .nil)
      fun p => optionParameters p trail := by
    cases trail with
    | none => exact .nil
    | some e => exact carries_blank.before (htrail e rfl)
  have hsep : Script.Carries (fun d => d.separator separator) fun _ => [] := by
    cases separator <;> exact .text _
  have hbody : Script.Carries (fun d => .join (d.separator separator) (itemScripts d separator items))
      fun p => allParameters p items := by
    simp only [itemScripts_eq_map, ← allParameters_shown _ separator items, allParameters_eq]
    exact .join hsep fun e he => (hitems e (List.mem_filter.1 he).1).parenIf _
  simp only [Expr.Carried, Expr.script, Expr.parameters]
  exact (hfront.append hbody).append hback

theorem carried_select {s : Select Expr} (h : ∀ e ∈ (Expr.select s).children, e.Carried) : (Expr.select s).Carried := by
  obtain ⟨columns, source, condition, groupBy, having, orderBy, limit, offset, withCount⟩ := s
  simp only [Expr.children, List.mem_append, Option.mem_toList, or_assoc] at h
  have hcolumns : Script.Carries (fun d => if columns.isEmpty then .text "*" else .join (.text ",") (scripts d columns))
      fun p => allParameters p columns := by
    cases columns with
    | nil => exact .text fun _ => "*"
    | cons e es => exact carries_commas fun e he => h e (.inl he)
  have hsource := carries_option fun e he => h e (.inr (.inl he))
  have hcondition := carries_condition "WHERE" fun e he => h e (.inr (.inr (.inl he)))
  have hgroupBy : Script.Carries (fun d => d.clause "GROUP BY" groupBy.isNone (optionScript d groupBy))
      fun p => optionParameters p groupBy := by
    refine carries_clause _ (fun hnone p => ?_) (carries_option fun e he => h e (.inr (.inr (.inr (.inl he)))))
    rw [Option.isNone_iff_eq_none.1 hnone, optionParameters]
  have hhaving := carries_condition "HAVING" fun e he => h e (.inr (.inr (.inr (.inr (.inl he)))))
  have horderBy : Script.Carries
      (fun d => d.clause "ORDER BY" orderBy.isEmpty (.join (.text ",") (scripts d orderBy)))
      fun p => allParameters p orderBy := by
    refine carries_clause _ (fun hnone p => ?_)
      (carries_commas fun e he => h e (.inr (.inr (.inr (.inr (.inr he))))))
    rw [List.isEmpty_iff.1 hnone, allParameters]
  have hhead := ((((carries_word "SELECT").after carries_blank).before hcolumns).after
    (carries_spacedWord "FROM")).append hsource
  simp only [Expr.Carried, Expr.script, Expr.parameters]
  refine .ite (fun _ => .fail _) fun _ => ?_
  exact ((((hhead.append hcondition).append hgroupBy).append hhaving).append horderBy).append
    (carries_page limit offset)

theorem carried_insert {i : Insert Expr} (h : ∀ e ∈ (Expr.insert i).children, e.Carried) : (Expr.insert i).Carried := by
  obtain ⟨table, columns, values⟩ := i
  simp only [Expr.children, List.cons_append, List.mem_cons, List.mem_append] at h
  have hcolumns := (carries_commas fun e he => h e (.inr (.inl he))).paren
  have hvalues := (carries_commas fun e he => h e (.inr (.inr he))).paren
  have hhead := ((((carries_word "INSERT INTO").after carries_blank).before (h table (.inl rfl))).after
    carries_blank).append hcolumns
  simp only [Expr.Carried, Expr.script, Expr.parameters]
  refine .ite (fun _ => .fail _) fun _ => .ite (fun _ => .fail _) fun _ => ?_
  exact (hhead.after (carries_spacedWord "VALUES")).append hvalues

theorem carried_update {u : Update Expr} (h : ∀ e ∈ (Expr.update u).children, e.Carried) : (Expr.update u).Carried := by
  obtain ⟨table, assignments, condition⟩ := u
  simp only [Expr.children, List.cons_append, List.mem_cons, List.mem_append, Option.mem_toList] at h
  have hassignments : Script.Carries (fun d => .join (.text ", ") (scripts d assignments))
      fun p => allParameters p assignments := by
    simp only [scripts_eq, allParameters_eq]
    exact .join (.text fun _ => ", ") fun e he => h e (.inr (.inl he))
  have hguard := carries_guard .update fun e he => h e (.inr (.inr he))
  have hhead := ((((carries_word "UPDATE").after carries_blank).before (h table (.inl rfl))).after
    (carries_spacedWord "SET")).append hassignments
  simp only [Expr.Carried, Expr.script, Expr.parameters]
  exact .ite (fun _ => .fail _) fun _ => hhead.append hguard

theorem carried_delete {x : Delete Expr} (h : ∀ e ∈ (Expr.delete x).children, e.Carried) : (Expr.delete x).Carried := by
  obtain ⟨table, condition⟩ := x
  simp only [Expr.children, List.mem_cons, Option.mem_toList] at h
  have hguard := carries_guard .delete fun e he => h e (.inr he)
  simp only [Expr.Carried, Expr.script, Expr.parameters]
  exact (((carries_word "DELETE FROM").after carries_blank).before (h table (.inl rfl))).append hguard

end

/-- **The scripts of a tree carry its parameters**, from its nodes up. -/
theorem Expr.carried (e : Expr) : e.Carried := by
  induction e using Expr.induct with
  | node e ih =>
    cases e with
    | identifier | constant | raw => exact .text _
    | bound name v => exact .parameter name v
    | binary b =>
      simp only [Carried, script, parameters]
      exact carries_binary (ih b.left (by simp [children])) (ih b.right (by simp [children]))
    | unary op operand =>
      have hoperand := (ih operand (List.mem_singleton_self operand)).parenIf operand.needsGroup
      simp only [Carried, script, parameters]
      exact .ite (fun _ => .fail _) fun _ => ((carries_word op.text).after carries_blank).before hoperand
    | list l =>
      obtain ⟨separator, items, lead, trail⟩ := l
      simp only [children, List.mem_append, Option.mem_toList, or_assoc] at ih
      exact carried_list (fun e he => ih e (.inr (.inl he))) (fun e he => ih e (.inl he))
        fun e he => ih e (.inr (.inr he))
    | call function args =>
      have hopen : Script.Carries (fun _ => .text "(") fun _ => [] := .text _
      have hclose : Script.Carries (fun _ => .text ")") fun _ => [] := .text _
      simp only [Carried, script, parameters]
      exact (((carries_word function).after hopen).before (carries_commas ih)).after hclose
    | between operand low high =>
      obtain ⟨hoperand, hlow, hhigh⟩ : operand.Carried ∧ low.Carried ∧ high.Carried := by
        simpa [children] using ih
      simp only [Carried, script, parameters]
      exact (((hoperand.after (carries_spacedWord "BETWEEN")).append hlow).after
        (carries_spacedWord "AND")).append hhigh
    | «alias» e name =>
      simp only [Carried, script, parameters]
      exact ((ih e (List.mem_singleton_self e)).after (carries_spacedWord "AS")).after (.text _)
    | paren inner =>
      simp only [Carried, script, parameters]
      exact (ih inner (List.mem_singleton_self inner)).paren
    | select s => exact carried_select ih
    | insert i => exact carried_insert ih
    | update u => exact carried_update ih
    | delete x => exact carried_delete ih

/-- What is wrong with a tree does not depend on the dialect. -/
theorem fault_script_eq (d d' : Dialect) (e : Expr) : (e.script d).fault = (e.script d').fault := by
  obtain ⟨fault, h⟩ := e.carried
  rw [(h d).1, (h d').1]

theorem parameters_script {d : Dialect} {e : Expr} (hfault : (e.script d).fault = none) :
    (e.script d).parameters = e.parameters d.pagination := by
  obtain ⟨fault, h⟩ := e.carried
  exact (h d).2 ((h d).1.symm.trans hfault)

/-! ## Arguments by position -/

theorem args_of_render {d : Dialect} {e : Expr} {r : Rendered} (hr : e.render d .positional = .ok r) :
    r.args = .positional ((e.parameters d.pagination).map (·.value)) := by
  have hfault := (render_ok hr).1
  rw [render_positional, hfault] at hr
  rw [← Except.ok.inj hr, Script.values, Piece.valuesOf_eq, ← parameters_script hfault, Script.parameters]

/-- **The arguments by position are the values of the parameters of the tree**, in their order. A dialect that limits
rows in the same way renders the tree too, and with the same arguments. -/
theorem positional_arguments {d : Dialect} {e : Expr} {r : Rendered} (hr : e.render d .positional = .ok r) :
    r.args = .positional ((e.parameters d.pagination).map (·.value)) ∧
      ∀ d' : Dialect, d'.pagination = d.pagination →
        ∃ r', e.render d' .positional = .ok r' ∧ r'.args = r.args := by
  refine ⟨args_of_render hr, fun d' hd' => ?_⟩
  obtain ⟨r', hr'⟩ := renders_positional_iff.2 ((fault_script_eq d' d e).trans (render_ok hr).1)
  refine ⟨r', hr', ?_⟩
  rw [args_of_render hr', args_of_render hr, hd']

/-- A page of another page, and a test against no values that leaves out its left side. -/
def pageOfPage : Expr := .select {
  columns := [.bound none (.int 1)]
  source := some (.paren (.select { columns := [], source := some (.name "t"), limit := some 2 }))
  condition := some (.allOf [
    .binary (Expr.isIn (.bound none (.int 7)) []), .binary ⟨.name "id", .eq, .bound none (.int 5)⟩])
  limit := some 3
  offset := some 4 }

theorem positional_arguments_pageOfPage :
    ∃ r, pageOfPage.render .sqlServer .positional = .ok r ∧
      r.args = .positional [.int 1, .uint 0, .uint 2, .int 5, .uint 4, .uint 3] := by
  obtain ⟨r, hr⟩ := renders_positional_iff.2 (show (pageOfPage.script .sqlServer).fault = none by rfl)
  exact ⟨r, hr, (positional_arguments hr).1⟩

end Sql
