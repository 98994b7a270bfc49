/-
What stands behind the words of clauses.

A clause is left out where its condition tests nothing, where it is not given and where its list has no items, but a list
without items may stand in a clause that is given. `textIn_eq_empty_iff` says which trees are written as nothing, and
`clauses_say` which clauses of a query are words without anything behind them, whichever steps made the query.
-/
import Sql.Rewrite
import Sql.Proofs.QueryClauses
import Sql.Proofs.WrittenParts

namespace Sql

/-! ## Trees that are written as nothing -/

namespace Expr

/-- A name or a value. -/
def isLeaf : Expr → Bool
  | identifier _ _ | constant _ | bound _ _ | raw _ => true
  | _ => false

/-- A tree without a leaf that is written as nothing. -/
inductive LeavesSay (d : Dialect) (style : ParamStyle) : Expr → Prop
  | leaf {e : Expr} (he : e.isLeaf = true) (htext : e.textIn d style ≠ "") : LeavesSay d style e
  | node {e : Expr} (he : e.isLeaf = false) (hshown : ∀ c ∈ e.shown, LeavesSay d style c) : LeavesSay d style e

/-- Lists that show no item, and what only has such lists in it: a list with one of them, and two of them with nothing
between them. -/
inductive Blank : Expr → Prop
  | empty {l : Listing Expr} (hlead : l.lead = none) (htrail : l.trail = none) (hnone : l.shownItems = []) :
    Blank (.list l)
  | single {l : Listing Expr} {e : Expr} (hlead : l.lead = none) (htrail : l.trail = none) (hone : l.shownItems = [e])
    (he : Blank e) : Blank (.list l)
  | bare {b : Binary Expr} (hop : b.op.text = "") (hleft : Blank b.left) (hright : Blank b.right) : Blank (.binary b)

end Expr

section

variable {d : Dialect} {style : ParamStyle}

theorem spaced_ne_empty (w : String) : d.spaced w ≠ "" := by
  intro h
  simpa [Dialect.spaced] using congrArg String.length h

theorem textIn_append_eq_empty {s t : Script} (hs : s.fault = none) :
    (s ++ t).textIn d style = "" ↔ s.textIn d style = "" ∧ t.textIn d style = "" := by
  rw [Script.textIn_append d style hs]
  exact String.append_eq_empty_iff

/-- A script in which literal text stands is written as something. -/
theorem ne_empty_of_within {s : Script} {x : String} (hx : x ≠ "") (h : (Script.text x).Within s)
    (hfault : s.fault = none) : s.textIn d style ≠ "" := by
  obtain ⟨-, front, back, htext⟩ := h.text hfault d style
  rw [htext, Script.textIn_text]
  simp [hx]

/-- What is neither a leaf nor a list nor a binary operator has a blank, a bracket or a word in its script. -/
theorem exists_text_within {e : Expr} (hfault : (e.script d).fault = none) (hleaf : e.isLeaf = false)
    (hlist : ∀ l, e ≠ .list l) (hbinary : ∀ b, e ≠ .binary b) : ∃ x, x ≠ "" ∧ (Script.text x).Within (e.script d) := by
  have hword (w : String) : d.spaced w ≠ "" := spaced_ne_empty w
  have hblank : " " ≠ "" := by decide
  cases e with
  | identifier | constant | bound | raw => cases hleaf
  | list l => exact absurd rfl (hlist l)
  | binary b => exact absurd rfl (hbinary b)
  | unary op operand =>
    rw [script_unary hfault]
    exact ⟨_, hblank, ((Script.Within.refl _).right _).left _⟩
  | call function args => exact ⟨")", by decide, (Script.Within.refl _).right _⟩
  | between operand low high => exact ⟨_, hword "AND", ((Script.Within.refl _).right _).left _⟩
  | «alias» e name => exact ⟨_, hword "AS", ((Script.Within.refl _).right _).left _⟩
  | paren inner => exact ⟨" )", by decide, (Script.Within.refl _).right _⟩
  | select s =>
    rw [script_select s (isSome_source (renders_positional_iff.2 hfault)), Select.head]
    exact ⟨_, hword "FROM", ((((((Script.Within.refl _).right _).left _).left _).left _).left _).left _⟩
  | insert i =>
    rw [script_insert hfault]
    exact ⟨" )", by decide, ((Script.Within.refl _).right _).right _⟩
  | update u =>
    rw [script_update hfault]
    exact ⟨_, hword "SET", (((Script.Within.refl _).right _).left _).left _⟩
  | delete s => exact ⟨_, hblank, (((Script.Within.refl _).right _).left _).left _⟩

theorem exists_separator_text (d : Dialect) (separator : Separator) : ∃ x, x ≠ "" ∧ d.separator separator = .text x := by
  cases separator with
  | and => exact ⟨_, spaced_ne_empty "AND", rfl⟩
  | or => exact ⟨_, spaced_ne_empty "OR", rfl⟩
  | comma => exact ⟨",", by decide, rfl⟩
  | space => exact ⟨" ", by decide, rfl⟩

theorem blank_listOf {separator : Separator} {items : List Expr} : (Expr.listOf separator items).Blank ↔
    items.filter (!separator.drops ·) = [] ∨ ∃ e, items.filter (!separator.drops ·) = [e] ∧ e.Blank := by
  constructor
  · intro h
    cases h with
    | empty _ _ hnone => exact .inl hnone
    | single _ _ hone he => exact .inr ⟨_, hone, he⟩
  · rintro (hnone | ⟨e, hone, he⟩)
    · exact .empty rfl rfl hnone
    · exact .single rfl rfl hone he

/-- What needs parentheses shows several items. -/
theorem Expr.Blank.needsGroupIn {e : Expr} (h : e.Blank) (separator : Separator) : e.needsGroupIn separator = false := by
  cases h with
  | empty _ _ hnone => simp [Expr.needsGroupIn, Listing.isCompound, hnone]
  | single _ _ hone _ => simp [Expr.needsGroupIn, Listing.isCompound, hone]
  | bare => rfl

theorem textIn_listOf_eq_empty {separator : Separator} {items : List Expr}
    (hfault : ((Expr.listOf separator items).script d).fault = none)
    (ih : ∀ e ∈ (Expr.listOf separator items).shown, e.textIn d style = "" ↔ e.Blank) :
    (Expr.listOf separator items).textIn d style = "" ↔ (Expr.listOf separator items).Blank := by
  have hscript : (Expr.listOf separator items).script d = .join (d.separator separator)
      ((items.filter (!separator.drops ·)).map fun e => Script.parenIf (e.needsGroupIn separator) (e.script d)) := by
    rw [Expr.listOf, Expr.script, itemScripts_eq_map]
    exact Script.append_nil _
  rw [hscript] at hfault
  rw [Expr.shown_listOf] at ih
  rw [Expr.textIn, hscript, blank_listOf]
  -- From here on only the items matter that are shown: none, one or several.
  generalize items.filter (!separator.drops ·) = shown at hfault ih ⊢
  rcases shown with _ | ⟨e, _ | ⟨e', es⟩⟩
  · exact iff_of_true rfl (.inl rfl)
  · have he := ih e (List.mem_singleton_self e)
    have hone : ([e] = [] ∨ ∃ e', [e] = [e'] ∧ e'.Blank) ↔ e.Blank := by simp
    rw [hone]
    cases hgroup : e.needsGroupIn separator with
    | false =>
      rw [List.map_cons, List.map_nil, Script.join, hgroup]
      exact he
    | true =>
      have hsay : ¬ e.Blank := fun h => by simp [h.needsGroupIn] at hgroup
      refine iff_of_false (ne_empty_of_within (x := "( ") (by decide) ?_ hfault) hsay
      rw [List.map_cons, List.map_nil, Script.join, hgroup]
      exact ((Script.Within.refl _).left _).left _
  · obtain ⟨x, hx, hseparator⟩ := exists_separator_text d separator
    refine iff_of_false (ne_empty_of_within hx ?_ hfault) (by simp)
    rw [hseparator]
    exact ((Script.Within.refl _).right _).left _

theorem textIn_list_eq_empty {l : Listing Expr} (hfault : ((Expr.list l).script d).fault = none)
    (ih : ∀ e ∈ (Expr.list l).shown, e.textIn d style = "" ↔ e.Blank) :
    (Expr.list l).textIn d style = "" ↔ (Expr.list l).Blank := by
  obtain ⟨separator, items, lead, trail⟩ := l
  -- A blank stands between the items and what is before or behind them.
  have hblank : (" " : String) ≠ "" := by decide
  cases lead with
  | some lead =>
    refine iff_of_false (ne_empty_of_within hblank ?_ hfault) fun h => by cases h <;> contradiction
    exact (((Script.Within.refl _).right _).left _).left _
  | none =>
    cases trail with
    | some trail =>
      refine iff_of_false (ne_empty_of_within hblank ?_ hfault) fun h => by cases h <;> contradiction
      exact ((Script.Within.refl _).left _).right _
    | none => exact textIn_listOf_eq_empty hfault ih

theorem textIn_binary_eq_empty {b : Binary Expr} (hfault : ((Expr.binary b).script d).fault = none)
    (ih : ∀ e ∈ b.shown, e.textIn d style = "" ↔ e.Blank) :
    (Expr.binary b).textIn d style = "" ↔ (Expr.binary b).Blank := by
  have hblank : (Expr.binary b).Blank ↔ b.op.text = "" ∧ b.left.Blank ∧ b.right.Blank := by
    constructor
    · rintro (_ | _ | ⟨hop, hleft, hright⟩)
      exact ⟨hop, hleft, hright⟩
    · exact fun ⟨hop, hleft, hright⟩ => .bare hop hleft hright
  obtain ⟨left, op, right⟩ := b
  rw [hblank, Expr.textIn]
  rw [Expr.script, binaryScript] at hfault ⊢
  unfold Binary.shown at ih
  split
  · next hmembers =>
    have hop : op.text ≠ "" := by
      rw [Bool.and_eq_true, BinaryOp.isMembership, decide_eq_true_eq] at hmembers
      rcases hmembers.1 with rfl | rfl <;> decide
    refine iff_of_false ?_ fun h => hop h.1
    rw [BinaryOp.emptySetTest, Script.textIn_text]
    split <;> decide
  · next hmembers =>
    rw [if_neg hmembers] at hfault ih
    have hfront := (Script.fault_append_eq_none.1 hfault).1
    have hleft := (Script.fault_append_eq_none.1 hfront).1
    have hop : (d.operator op).textIn d style = "" ↔ op.text = "" := by
      rw [Dialect.operator, Script.textIn_text]
      split
      · next hkeyword =>
        refine iff_of_false (spaced_ne_empty op.text) fun hempty => ?_
        rw [BinaryOp.isKeyword, hempty] at hkeyword
        exact absurd hkeyword (by decide)
      · rfl
    have hsides := List.forall_mem_cons.1 ih
    have hright := List.forall_mem_singleton.1 hsides.2
    rw [textIn_append_eq_empty hfront, textIn_append_eq_empty hleft, hop, ← hsides.1, ← hright, and_assoc, and_left_comm]
    rfl

/-- **What is written as nothing**: exactly what is blank, if no leaf is written as nothing. -/
theorem textIn_eq_empty_iff {e : Expr} (h : e.LeavesSay d style) (hfault : (e.script d).fault = none) :
    e.textIn d style = "" ↔ e.Blank := by
  -- By induction on the trees that are shown; only lists and binary operators can be blank.
  induction h with
  | leaf he htext =>
    refine iff_of_false htext fun h => ?_
    cases h <;> cases he
  | @node e he _ ih =>
    have hparts : ∀ c ∈ e.shown, c.textIn d style = "" ↔ c.Blank := fun c hc =>
      ih c hc ((within_of_shown hfault hc).text hfault d style).1
    cases e with
    | list l => exact textIn_list_eq_empty hfault hparts
    | binary b => exact textIn_binary_eq_empty hfault hparts
    | _ =>
      obtain ⟨x, hx, hwithin⟩ := exists_text_within hfault he (by simp) (by simp)
      refine iff_of_false (ne_empty_of_within hx hwithin hfault) fun h => ?_
      cases h

/-! ## Trees of clauses -/

variable {s : Select Expr} {word : ClauseWord} {e : Expr}

theorem orderBy_subset_shown (s : Select Expr) : s.orderBy ⊆ (Expr.select s).shown :=
  List.subset_append_right _ _

/-- The tree of a clause is one of those that the query shows, or the list of those that it is ordered by. -/
theorem mem_tree (h : e ∈ s.tree? word) : e ∈ (Expr.select s).shown ∨ e = .listOf .comma s.orderBy := by
  cases word with
  | orderBy =>
    rw [Select.tree?] at h
    split at h
    · cases h
    · exact .inr (Option.some.inj h).symm
  | limit | offset | fetch => cases h
  | source | condition | groupBy | having =>
    refine .inl ?_
    have hmem := Option.mem_toList.2 h
    simp only [Select.tree?] at hmem
    simp [Expr.shown, hmem]

theorem fault_tree (hfault : ((Expr.select s).script d).fault = none) (h : e ∈ s.tree? word) : (e.script d).fault = none := by
  have hshown : ∀ c ∈ (Expr.select s).shown, (c.script d).fault = none := fun c hc =>
    ((within_of_shown hfault hc).text hfault d .positional).1
  rcases mem_tree h with hc | rfl
  · exact hshown e hc
  · exact fault_list d fun c hc => hshown c (orderBy_subset_shown s hc)

theorem leavesSay_tree (hleaves : (Expr.select s).LeavesSay d style) (h : e ∈ s.tree? word) : e.LeavesSay d style := by
  cases hleaves with
  | leaf he => cases he
  | node _ hshown =>
    rcases mem_tree h with hc | rfl
    · exact hshown e hc
    · refine .node rfl fun c hc => hshown c (orderBy_subset_shown s ?_)
      rw [Expr.shown_listOf] at hc
      exact (List.mem_filter.1 hc).1

theorem body_of_tree {c : Clause} (hc : c ∈ s.clauses d style) (h : e ∈ s.tree? c.word) : c.body = e.textIn d style := by
  have hbody := Select.mem_clauses.1 hc
  rw [Select.body?, h, Option.map_some, Option.some_or] at hbody
  exact (Option.some.inj hbody).symm

end

/-! ## Steps that make a query -/

/-- A step that makes a query: one of its parts is given, or the statement is rewritten. -/
inductive QueryStep where
  | columns (es : List Expr)
  | source (e : Expr)
  | condition (e : Expr)
  | groupBy (e : Expr)
  | having (e : Expr)
  | orderBy (es : List Expr)
  | sortBy (direction : Direction) (es : List Expr)
  | limit (n : UInt64)
  | offset (n : UInt64)
  | rewriteCondition (e : Expr)
  | rewriteOrder (es : List Expr)
  | rewriteSort (direction : Direction) (es : List Expr)

/-- A query none of whose clauses has a tree that is written as nothing. -/
structure Select.Says (s : Select Expr) : Prop where
  condition : ∀ e ∈ saying? s.condition, ¬ e.Blank
  groupBy : ∀ e ∈ s.groupBy, ¬ e.Blank
  having : ∀ e ∈ saying? s.having, ¬ e.Blank
  orderBy : s.orderBy ≠ [] → ¬ (Expr.listOf .comma s.orderBy).Blank

namespace QueryStep

/-- A query behind a step. -/
def on (s : Select Expr) : QueryStep → Select Expr
  | .columns es => { s with columns := es }
  | .source e => { s with source := some e }
  | .condition e | .rewriteCondition e => { s with condition := some e }
  | .groupBy e => { s with groupBy := some e }
  | .having e => { s with having := some e }
  | .orderBy es | .rewriteOrder es => { s with orderBy := es }
  | .sortBy direction es | .rewriteSort direction es => s.sortBy direction es
  | .limit n => { s with limit := some n }
  | .offset n => { s with offset := some n }

def apply : QueryStep → Rewrite
  | .rewriteCondition e => .condition e
  | .rewriteOrder es => .orderBy es
  | .rewriteSort direction es => .sortBy direction es
  | step => .onSelect (on · step)

/-- A step that gives no clause a tree that is written as nothing. A condition that tests nothing drops out, and so does an
order by nothing, but not one that sorts nothing. -/
def Says : QueryStep → Prop
  | .condition e | .having e | .rewriteCondition e => e.isEmptyCondition = true ∨ ¬ e.Blank
  | .groupBy e => ¬ e.Blank
  | .orderBy es | .rewriteOrder es => ∀ e, es = [e] → ¬ e.Blank
  | .sortBy _ es | .rewriteSort _ es => es ≠ []
  | .columns _ | .source _ | .limit _ | .offset _ => True

theorem apply_select (s : Select Expr) (step : QueryStep) : step.apply (.select s) = .select (on s step) := by
  cases step <;> rfl

theorem inOrder_select (s : Select Expr) (steps : List QueryStep) :
    Rewrite.inOrder (steps.map (·.apply)) (.select s) = .select (steps.foldl on s) := by
  induction steps generalizing s with
  | nil => rfl
  | cons step steps ih =>
    have hrest := ih (on s step)
    simp only [Rewrite.inOrder] at hrest ⊢
    rw [List.map_cons, List.foldl_cons, apply_select, hrest, List.foldl_cons]

theorem blank_commas {es : List Expr} : (Expr.listOf .comma es).Blank ↔ es = [] ∨ ∃ e, es = [e] ∧ e.Blank := by
  have hall : es.filter (!Separator.comma.drops ·) = es := List.filter_eq_self.2 fun _ _ => rfl
  rw [blank_listOf, hall]

/-- What is sorted has the word of a direction behind it. -/
theorem blank_sortedBy {direction : Direction} {es : List Expr} : (Expr.sortedBy direction es).Blank ↔ es = [] := by
  rw [Expr.sortedBy, blank_commas]
  constructor
  · rintro (hnone | ⟨e, hone, he⟩)
    · exact List.map_eq_nil_iff.1 hnone
    · obtain ⟨x, -, rfl⟩ := List.map_eq_singleton_iff.1 hone
      cases he with
      | empty _ htrail _ => cases htrail
      | single _ htrail _ _ => cases htrail
  · rintro rfl
    exact .inl rfl

variable {s : Select Expr} {step : QueryStep}

theorem says_saying {e : Expr} (h : e.isEmptyCondition = true ∨ ¬ e.Blank) : ∀ e' ∈ saying? (some e), ¬ e'.Blank := by
  intro e' he'
  obtain ⟨heq, hsaying⟩ := Option.filter_eq_some_iff.1 he'
  obtain rfl := Option.some.inj heq
  exact h.resolve_left (by simpa using hsaying)

/-- A step that says something leaves a query with clauses that do. -/
theorem says_on (hs : s.Says) (h : step.Says) : (on s step).Says := by
  cases step with
  | columns | source | limit | offset => exact ⟨hs.condition, hs.groupBy, hs.having, hs.orderBy⟩
  | condition e | rewriteCondition e => exact ⟨says_saying h, hs.groupBy, hs.having, hs.orderBy⟩
  | groupBy e => exact ⟨hs.condition, fun _ he => Option.some.inj he ▸ h, hs.having, hs.orderBy⟩
  | having e => exact ⟨hs.condition, hs.groupBy, says_saying h, hs.orderBy⟩
  | orderBy es | rewriteOrder es =>
    refine ⟨hs.condition, hs.groupBy, hs.having, fun hsome hblank => ?_⟩
    obtain hnone | ⟨e, hone, he⟩ := blank_commas.1 hblank
    · exact hsome hnone
    · exact h e hone he
  | sortBy direction es | rewriteSort direction es =>
    refine ⟨hs.condition, hs.groupBy, hs.having, fun _ hblank => ?_⟩
    obtain hnone | ⟨e, hone, he⟩ := blank_commas.1 hblank
    · cases hnone
    · rw [← List.singleton_inj.1 hone, blank_sortedBy] at he
      exact h he

theorem says_foldl {steps : List QueryStep} (hs : s.Says) (h : ∀ step ∈ steps, step.Says) : (steps.foldl on s).Says := by
  induction steps generalizing s with
  | nil => exact hs
  | cons step steps ih =>
    obtain ⟨hstep, hsteps⟩ := List.forall_mem_cons.1 h
    exact ih (says_on hs hstep) hsteps

end QueryStep

/-! ## Clauses without a body -/

/-- The clauses that say something of the rows and may be left out. -/
def ClauseWord.optional : List ClauseWord := [condition, groupBy, having, orderBy]

theorem Select.Says.tree {s : Select Expr} (h : s.Says) {word : ClauseWord} (hword : word ∈ ClauseWord.optional) {e : Expr}
    (he : e ∈ s.tree? word) : ¬ e.Blank := by
  simp only [ClauseWord.optional, List.mem_cons, List.not_mem_nil, or_false] at hword
  rcases hword with rfl | rfl | rfl | rfl
  · exact h.condition e he
  · exact h.groupBy e he
  · exact h.having e he
  · rw [Select.tree?] at he
    split at he
    · cases he
    · next hsome =>
      obtain rfl := Option.some.inj he
      exact h.orderBy (by simpa using hsome)

/-- **Clauses say something** exactly if their trees are not blank. Whichever steps made a query none of whose leaves is written
as nothing, a clause is there if it has a tree, and its body is empty exactly if that is blank; so no clause is without a
body if no step gives a condition, a group or an order that is blank. -/
theorem clauses_say {d : Dialect} {style : ParamStyle} {columns : List Expr} {steps : List QueryStep} {s : Select Expr}
    {r : Rendered} (hs : steps.foldl QueryStep.on { columns } = s)
    (hr : (Rewrite.inOrder (steps.map (·.apply)) (.select { columns })).render d style = .ok r)
    (hleaves : (Expr.select s).LeavesSay d style) :
    r.sql = s.text d style ∧
      (∀ word ∈ ClauseWord.optional, word ∈ (s.clauses d style).map (·.word) ↔ ∃ e, s.tree? word = some e) ∧
      (∀ c ∈ s.clauses d style, ∀ e, s.tree? c.word = some e → (c.body = "" ↔ e.Blank)) ∧
      ((∀ step ∈ steps, step.Says) → ∀ c ∈ s.clauses d style, c.word ∈ ClauseWord.optional → c.body ≠ "") := by
  rw [QueryStep.inOrder_select, hs] at hr
  have hfault := (render_ok hr).1
  have hwords : ∀ word ∈ ClauseWord.optional, word ∈ (s.clauses d style).map (·.word) ↔ ∃ e, s.tree? word = some e := by
    intro word hword
    have hpage : s.pageText? d style word = none := by
      simp only [ClauseWord.optional, List.mem_cons, List.not_mem_nil, or_false] at hword
      rcases hword with rfl | rfl | rfl | rfl <;> rfl
    rw [Select.mem_words, Select.body?, hpage, Option.or_none, Option.isSome_map, Option.isSome_iff_exists]
  have hbodies : ∀ c ∈ s.clauses d style, ∀ e, s.tree? c.word = some e → (c.body = "" ↔ e.Blank) := by
    intro c hc e he
    rw [body_of_tree hc he]
    exact textIn_eq_empty_iff (leavesSay_tree hleaves he) (fault_tree hfault he)
  refine ⟨(sql_of_render hr).trans (Select.textIn_select hfault), hwords, hbodies, fun hsteps c hc hword => ?_⟩
  have hsays : s.Says := by
    rw [← hs]
    exact QueryStep.says_foldl ⟨fun _ he => (by cases he), fun _ he => (by cases he), fun _ he => (by cases he),
      fun hsome => absurd rfl hsome⟩ hsteps
  obtain ⟨e, he⟩ := (hwords c.word hword).1 (List.mem_map_of_mem hc)
  exact fun hempty => hsays.tree hword he ((hbodies c hc e he).1 hempty)

/-- A query with a condition that tests nothing, in an order. -/
def sortedById : List QueryStep :=
  [.source (.name "t"), .rewriteCondition (.allOf [.anyOf []]), .sortBy .descending [.name "id"]]

theorem clauses_say_sortedById :
    ∃ r, (Rewrite.inOrder (sortedById.map (·.apply)) (.select { columns := [] })).render .sqlServer .named = .ok r ∧
      r.sql = "SELECT * FROM [t] ORDER BY [id] DESC" ∧
      ∀ c ∈ (sortedById.foldl QueryStep.on { columns := [] }).clauses .sqlServer .named,
        c.word ∈ ClauseWord.optional → c.body ≠ "" := by
  have hleaves : (Expr.select (sortedById.foldl QueryStep.on { columns := [] })).LeavesSay .sqlServer .named := by
    have hsorted : (Expr.sorted .descending (.name "id")).LeavesSay .sqlServer .named :=
      .node rfl (List.forall_mem_cons.2 ⟨.leaf rfl (by decide), List.forall_mem_singleton.2 (.leaf rfl (by decide))⟩)
    exact .node rfl (List.forall_mem_cons.2 ⟨.leaf rfl (by decide),
      List.forall_mem_singleton.2 (.node rfl (List.forall_mem_singleton.2 hsorted))⟩)
  obtain ⟨r, hr, hsql⟩ : ∃ r, (Rewrite.inOrder (sortedById.map (·.apply)) (.select { columns := [] })).render .sqlServer
      .named = .ok r ∧ r.sql = "SELECT * FROM [t] ORDER BY [id] DESC" := ⟨_, rfl, by decide⟩
  have hsteps : ∀ step ∈ sortedById, step.Says :=
    List.forall_mem_cons.2 ⟨trivial, List.forall_mem_cons.2 ⟨.inl rfl, List.forall_mem_singleton.2 (List.cons_ne_nil _ _)⟩⟩
  exact ⟨r, hr, hsql, (clauses_say rfl hr hleaves).2.2.2 hsteps⟩

/-- A query that is sorted by nothing. -/
def sortedByNothing : List QueryStep := [.source (.name "t"), .rewriteSort .ascending []]

theorem clauses_wordAlone :
    (Expr.select (sortedByNothing.foldl QueryStep.on { columns := [.star] })).LeavesSay .mysql .positional ∧
      ∃ r, (Rewrite.inOrder (sortedByNothing.map (·.apply)) (.select { columns := [.star] })).render .mysql .positional =
          .ok r ∧
        r.sql = "SELECT * FROM `t` ORDER BY " ∧
        ⟨.orderBy, ""⟩ ∈ (sortedByNothing.foldl QueryStep.on { columns := [.star] }).clauses .mysql .positional := by
  refine ⟨.node rfl (List.forall_mem_cons.2 ⟨.leaf rfl (by decide), List.forall_mem_cons.2 ⟨.leaf rfl (by decide),
    List.forall_mem_singleton.2 (.node rfl (List.forall_mem_nil _))⟩⟩), _, rfl, by decide, ?_⟩
  exact Select.mem_clauses.2 rfl

end Sql
