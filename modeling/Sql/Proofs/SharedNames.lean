/-
Parameters that share a name and have one value.

A parameter by name conflicts with an earlier one if their values are not equal, and NaN is not equal to itself. So a tree in
which every name has one value conflicts exactly where a name with NaN comes a second time (`conflicts_iff`).
-/
import Sql.Proofs.NamedParameters
import Sql.Proofs.Spelling

namespace Sql

/-! ## What a tree contains -/

namespace Expr

/-- A tree with another one somewhere in it, or that is the tree itself. -/
inductive Contains : Expr → Expr → Prop
  | self (e : Expr) : Contains e e
  | through {e c x : Expr} (hc : c ∈ e.children) (hx : Contains c x) : Contains e x

/-- What holds for a tree and for all that the trees directly below contain holds for all that it contains. -/
theorem forall_contains {Q : Expr → Prop} {e : Expr} (hself : Q e) (h : ∀ c ∈ e.children, ∀ x, c.Contains x → Q x) :
    ∀ x, e.Contains x → Q x := by
  intro x hx
  cases hx with
  | self => exact hself
  | through hc hx => exact h _ hc x hx

/-- No query in the tree has a limit or an offset. -/
def Pageless (e : Expr) : Prop := ∀ s, e.Contains (.select s) → s.limit = none ∧ s.offset = none

/-- Bound values of one name are the same value. -/
def OneValueEach (e : Expr) : Prop :=
  ∀ name v w, e.Contains (.var name v) → e.Contains (.var name w) → v = w

end Expr

/-! ## Parameters of scripts, faulty ones included -/

/-- What holds for all parameters that are written up to the end or to the fault. -/
def Script.Every (P : Parameter → Prop) (s : Script) : Prop := ∀ q ∈ s.parameters, P q

namespace Script.Every

variable {P : Parameter → Prop} {s t : Script}

theorem nil : Script.nil.Every P := List.forall_mem_nil _

theorem text (x : String) : (Script.text x).Every P := List.forall_mem_nil _

theorem fail (fault : QueryFault) : (Script.fail fault).Every P := List.forall_mem_nil _

theorem parameter {name : Option String} {v : Value} (h : P ⟨name, v⟩) : (Script.parameter name v).Every P :=
  List.forall_mem_singleton.2 h

theorem append (hs : s.Every P) (ht : t.Every P) : (s ++ t).Every P := by
  cases hfault : s.fault with
  | none =>
    intro q hq
    rw [parameters_append hfault] at hq
    exact (List.mem_append.1 hq).elim (hs q) (ht q)
  | some fault =>
    -- Behind a fault nothing is written.
    have hstop : s ++ t = s := by rw [append_def, Script.append, hfault]
    rwa [hstop]

theorem paren (hs : s.Every P) : s.paren.Every P := ((text _).append hs).append (text _)

theorem parenIf (grouped : Bool) (hs : s.Every P) : (Script.parenIf grouped s).Every P := by
  cases grouped with
  | false => exact hs
  | true => exact hs.paren

theorem join {separator : Script} (hsep : separator.Every P) {ss : List Script} (h : ∀ s ∈ ss, s.Every P) :
    (Script.join separator ss).Every P := by
  induction ss with
  | nil => exact nil
  | cons s ss ih =>
    obtain ⟨hs, hss⟩ := List.forall_mem_cons.1 h
    cases ss with
    | nil => exact hs
    | cons t ss => exact (hs.append hsep).append (ih hss)

end Script.Every

section

variable {P : Parameter → Prop} {d : Dialect}

theorem every_word (w : String) : (d.word w).Every P := .text _

theorem every_spacedWord (w : String) : (d.spacedWord w).Every P := .text _

theorem every_blank : (Script.text " ").Every P := .text _

theorem every_scripts {es : List Expr} (h : ∀ e ∈ es, (e.script d).Every P) :
    (Script.join (.text ",") (scripts d es)).Every P := by
  refine .join (.text _) ?_
  rwa [scripts_eq, List.forall_mem_map]

theorem every_option {e? : Option Expr} (h : ∀ e ∈ e?, (e.script d).Every P) : (optionScript d e?).Every P := by
  cases e? with
  | none => exact .nil
  | some e => exact h e rfl

theorem every_clause (keyword : String) (silent : Bool) {body : Script} (h : body.Every P) :
    (d.clause keyword silent body).Every P := by
  cases silent with
  | true => exact .nil
  | false => exact (every_spacedWord keyword).append h

theorem every_guard (verb : WriteVerb) (condition : Option Expr) {body : Script} (h : body.Every P) :
    (d.guard verb condition body).Every P := by
  unfold Dialect.guard
  split
  · exact .nil
  · split
    · exact .fail _
    · exact (every_spacedWord "WHERE").append h

theorem every_page_none : (d.page none none).Every P := by
  rw [page_none]
  exact .nil

theorem every_binary {b : Binary Expr} (hleft : (b.left.script d).Every P) (hright : (b.right.script d).Every P) :
    (binaryScript d b).Every P := by
  obtain ⟨left, op, right⟩ := b
  rw [binaryScript]
  split
  · exact .text _
  · exact (hleft.append (.text _)).append hright

/-! ### Trees, each from the trees directly below it -/

theorem every_unary {op : UnaryOp} {operand : Expr} (h : (operand.script d).Every P) :
    ((Expr.unary op operand).script d).Every P := by
  rw [Expr.script]
  split
  · exact .fail _
  · exact ((every_word op.text).append every_blank).append (h.parenIf _)

theorem every_list {l : Listing Expr} (h : ∀ e ∈ (Expr.list l).children, (e.script d).Every P) :
    ((Expr.list l).script d).Every P := by
  obtain ⟨separator, items, lead, trail⟩ := l
  simp only [Expr.children, List.mem_append, Option.mem_toList, or_assoc] at h
  have hlead := every_option fun e he => h e (.inr (.inl he))
  have htrail := every_option fun e he => h e (.inr (.inr he))
  have hitems : ∀ s ∈ itemScripts d separator items, s.Every P := by
    rw [itemScripts_eq_map, List.forall_mem_map]
    exact fun e he => (h e (.inl (List.mem_filter.1 he).1)).parenIf _
  have hsep : (d.separator separator).Every P := by cases separator <;> exact .text _
  rw [Expr.script]
  refine .append (.append ?_ (.join hsep hitems)) ?_
  · split
    · exact hlead.append every_blank
    · exact .nil
  · split
    · exact every_blank.append htrail
    · exact .nil

theorem every_call {function : String} {args : List Expr} (h : ∀ e ∈ args, (e.script d).Every P) :
    ((Expr.call function args).script d).Every P := by
  rw [Expr.script]
  exact (((every_word function).append (.text "(")).append (every_scripts h)).append (.text ")")

theorem every_between {operand low high : Expr} (hoperand : (operand.script d).Every P) (hlow : (low.script d).Every P)
    (hhigh : (high.script d).Every P) : ((Expr.between operand low high).script d).Every P := by
  rw [Expr.script]
  exact (((hoperand.append (every_spacedWord "BETWEEN")).append hlow).append (every_spacedWord "AND")).append hhigh

theorem every_alias {e : Expr} (h : (e.script d).Every P) (name : String) : ((Expr.alias e name).script d).Every P := by
  rw [Expr.script]
  exact (h.append (every_spacedWord "AS")).append (.text _)

theorem every_select {s : Select Expr} (hpage : s.limit = none ∧ s.offset = none)
    (h : ∀ e ∈ (Expr.select s).children, (e.script d).Every P) : ((Expr.select s).script d).Every P := by
  obtain ⟨columns, source, condition, groupBy, having, orderBy, limit, offset, withCount⟩ := s
  obtain ⟨rfl, rfl⟩ : limit = none ∧ offset = none := hpage
  simp only [Expr.children, List.mem_append, Option.mem_toList, or_assoc] at h
  have hcolumns :
      Script.Every P (if columns.isEmpty then .text "*" else .join (.text ",") (scripts d columns)) := by
    split
    · exact .text _
    · exact every_scripts fun e he => h e (.inl he)
  have hsource := every_option fun e he => h e (.inr (.inl he))
  have hcondition := every_option fun e he => h e (.inr (.inr (.inl he)))
  have hgroupBy := every_option fun e he => h e (.inr (.inr (.inr (.inl he))))
  have hhaving := every_option fun e he => h e (.inr (.inr (.inr (.inr (.inl he)))))
  have horderBy := every_scripts fun e he => h e (.inr (.inr (.inr (.inr (.inr he)))))
  rw [Expr.script]
  split
  · exact .fail _
  · have hhead := ((((every_word (d := d) "SELECT").append every_blank).append hcolumns).append
      (every_spacedWord (d := d) "FROM")).append hsource
    exact ((((hhead.append (every_clause _ _ hcondition)).append (every_clause _ _ hgroupBy)).append
      (every_clause _ _ hhaving)).append (every_clause _ _ horderBy)).append every_page_none

theorem every_insert {i : Insert Expr} (h : ∀ e ∈ (Expr.insert i).children, (e.script d).Every P) :
    ((Expr.insert i).script d).Every P := by
  obtain ⟨table, columns, values⟩ := i
  simp only [Expr.children, List.cons_append, List.mem_cons, List.mem_append] at h
  have hcolumns := (every_scripts fun e he => h e (.inr (.inl he))).paren
  have hvalues := (every_scripts fun e he => h e (.inr (.inr he))).paren
  have hhead := (((every_word (d := d) "INSERT INTO").append every_blank).append (h table (.inl rfl))).append every_blank
  rw [Expr.script]
  split
  · exact .fail _
  · split
    · exact .fail _
    · exact ((hhead.append hcolumns).append (every_spacedWord "VALUES")).append hvalues

theorem every_update {u : Update Expr} (h : ∀ e ∈ (Expr.update u).children, (e.script d).Every P) :
    ((Expr.update u).script d).Every P := by
  obtain ⟨table, assignments, condition⟩ := u
  simp only [Expr.children, List.cons_append, List.mem_cons, List.mem_append, Option.mem_toList] at h
  have hassignments : ∀ s ∈ scripts d assignments, s.Every P := by
    rw [scripts_eq, List.forall_mem_map]
    exact fun e he => h e (.inr (.inl he))
  have hguard := every_guard (d := d) .update condition (every_option fun e he => h e (.inr (.inr he)))
  have hhead := (((every_word (d := d) "UPDATE").append every_blank).append (h table (.inl rfl))).append
    (every_spacedWord (d := d) "SET")
  rw [Expr.script]
  split
  · exact .fail _
  · exact (hhead.append (.join (.text _) hassignments)).append hguard

theorem every_delete {x : Delete Expr} (h : ∀ e ∈ (Expr.delete x).children, (e.script d).Every P) :
    ((Expr.delete x).script d).Every P := by
  obtain ⟨table, condition⟩ := x
  simp only [Expr.children, List.mem_cons, Option.mem_toList] at h
  have hguard := every_guard (d := d) .delete condition (every_option fun e he => h e (.inr he))
  rw [Expr.script]
  exact (((every_word "DELETE FROM").append every_blank).append (h table (.inl rfl))).append hguard

/-- What holds for the parameters of a bound value and of the trees below holds for those of a tree without a page. -/
theorem every_node {e : Expr} (hbound : ∀ name v, e = .bound name v → P ⟨name, v⟩)
    (hpage : ∀ s, e = .select s → s.limit = none ∧ s.offset = none)
    (h : ∀ c ∈ e.children, (c.script d).Every P) : (e.script d).Every P := by
  cases e with
  | identifier | constant | raw => exact .text _
  | bound name v => exact .parameter (hbound name v rfl)
  | binary b =>
    rw [Expr.script]
    exact every_binary (h b.left (by simp [Expr.children])) (h b.right (by simp [Expr.children]))
  | unary op operand => exact every_unary (h operand (List.mem_singleton_self operand))
  | list l => exact every_list h
  | call function args => exact every_call h
  | between operand low high =>
    exact every_between (h operand (by simp [Expr.children])) (h low (by simp [Expr.children]))
      (h high (by simp [Expr.children]))
  | «alias» e name => exact every_alias (h e (List.mem_singleton_self e)) name
  | paren inner =>
    rw [Expr.script]
    exact (h inner (List.mem_singleton_self inner)).paren
  | select s => exact every_select (hpage s rfl) h
  | insert i => exact every_insert h
  | update u => exact every_update h
  | delete x => exact every_delete h

/-- The parameters that a tree without pages writes are bound values in it. -/
theorem contains_of_mem_parameters {e : Expr} (hpages : e.Pageless) {q : Parameter} (hq : q ∈ (e.script d).parameters) :
    e.Contains (.bound q.name q.value) := by
  have hevery : (e.script d).Every fun q => e.Contains (.bound q.name q.value) := by
    clear hq
    induction e using Expr.induct with
    | node e ih =>
      refine every_node ?_ (fun s hs => hpages s (hs ▸ .self _)) fun c hc q hq => ?_
      · rintro name v rfl
        exact .self _
      · exact .through hc (ih c hc (fun s hs => hpages s (.through hc hs)) q hq)
  exact hevery q hq

end

/-! ## Values that are not equal to themselves -/

namespace Value

def isNaN : Value → Bool
  | .float x => x.isNaN
  | _ => false

theorem equals_self (v : Value) : v.equals v = !v.isNaN := by
  cases v with
  | float x => simp [equals, Number.Double.sameNumber, isNaN]
  | _ => simp [equals, isNaN]

end Value

/-! ## Conflicts -/

namespace Piece

/-- A name is refused at a parameter whose value differs from the first one under this name. -/
theorem refused_conflict_iff {pieces : List Piece} {name : String} :
    Refused [] pieces (.conflictingParameter name) ↔
      ∃ before value after, parametersOf pieces = before ++ ⟨some name, value⟩ :: after ∧
        ((∀ a ∈ before, a.name.isSome = true) ∧ before.Pairwise Parameter.Agree) ∧
        ∃ held, Parameter.first? name before = some held ∧ held.value.equals value = false := by
  constructor
  · rintro ⟨mid, piece, after, rfl, haccepted, hrefused⟩
    rcases piece with s | ⟨_ | name', value⟩
    · cases hrefused
    · cases hrefused
    · rw [List.nil_append, refusal?, firstValue?_eq] at hrefused
      cases hfirst : Parameter.first? name' (parametersOf mid) with
      | none =>
        rw [hfirst] at hrefused
        cases hrefused
      | some held =>
        rw [hfirst] at hrefused
        cases hequal : held.value.equals value with
        | true => simp [hequal] at hrefused
        | false =>
          obtain rfl : name' = name := by simpa [hequal] using hrefused
          refine ⟨parametersOf mid, value, parametersOf after, by simp [parametersOf, parameter?], ?_, held, hfirst, hequal⟩
          exact (accepted_iff .nil).1 haccepted
  · rintro ⟨before, value, after, hsplit, haccepted, held, hfirst, hequal⟩
    obtain ⟨mid, rest, rfl, hmid, hrest⟩ := List.filterMap_eq_append_iff.1 hsplit
    obtain ⟨texts, piece, rest, rfl, htexts, hpiece, -⟩ := List.filterMap_eq_cons_iff.1 hrest
    obtain rfl : piece = .parameter (some name) value := by
      cases piece with
      | text s => cases hpiece
      | parameter => simpa [parameter?] using hpiece
    have hbefore : parametersOf (mid ++ texts) = before := by
      have hnone : parametersOf texts = [] := List.filterMap_eq_nil_iff.2 htexts
      rw [parametersOf_append, hnone, List.append_nil]
      exact hmid
    refine ⟨mid ++ texts, _, rest, (List.append_assoc _ _ _).symm, ?_, ?_⟩
    · refine (accepted_iff .nil).2 ?_
      rwa [List.nil_append, hbefore]
    · rw [List.nil_append, refusal?, firstValue?_eq, hbefore, hfirst]
      simp [hequal]

end Piece

/-- A name comes a second time with a value that is NaN, behind parameters that all have names and of which none is refused. -/
def Script.RepeatsNaN (s : Script) (name : String) : Prop :=
  ∃ before value after, s.parameters = before ++ ⟨some name, value⟩ :: after ∧ value.isNaN = true ∧
    (∃ a ∈ before, a.name = some name) ∧ (∀ a ∈ before, a.name.isSome = true) ∧
    before.Pairwise fun a b => a.name = b.name → b.value.isNaN = false

/-- Where parameters of one name have the same value, they differ only from NaN. -/
theorem refused_iff_repeatsNaN {s : Script} {name : String}
    (hsame : ∀ a ∈ s.parameters, ∀ b ∈ s.parameters, a.name.isSome = true → a.name = b.name → a.value = b.value) :
    Piece.Refused [] s.pieces (.conflictingParameter name) ↔ s.RepeatsNaN name := by
  rw [Piece.refused_conflict_iff, Script.RepeatsNaN, Script.parameters]
  refine exists_congr fun before => exists_congr fun value => exists_congr fun after => and_congr_right fun hsplit => ?_
  rw [Script.parameters, hsplit] at hsame
  -- Two parameters of one name have the same value, which differs from itself only if it is NaN.
  have hequals {a b : Parameter} (ha : a ∈ before) (hb : b ∈ before ++ ⟨some name, value⟩ :: after)
      (hname : a.name.isSome = true) (heq : a.name = b.name) : a.value.equals b.value = !b.value.isNaN := by
    rw [hsame a (List.mem_append_left _ ha) b hb hname heq, Value.equals_self]
  have hagree (hnamed : ∀ a ∈ before, a.name.isSome = true) :
      before.Pairwise Parameter.Agree ↔ before.Pairwise fun a b => a.name = b.name → b.value.isNaN = false := by
    refine List.Pairwise.iff_of_mem fun ha hb => forall_congr' fun heq => ?_
    rw [hequals ha (List.mem_append_left _ hb) (hnamed _ ha) heq, Bool.not_eq_true']
  have hdiffers {held : Parameter} (hheld : held ∈ before) (hname : held.name = some name) :
      held.value.equals value = false ↔ value.isNaN = true := by
    have hequal := hequals hheld (List.mem_append_right _ List.mem_cons_self) (by rw [hname]; rfl) hname
    rw [hequal, Bool.not_eq_false']
  constructor
  · rintro ⟨⟨hnamed, hpairwise⟩, held, hfirst, hequal⟩
    have hheld := List.mem_of_find?_eq_some hfirst
    have hname : held.name = some name := by simpa using List.find?_some hfirst
    exact ⟨(hdiffers hheld hname).1 hequal, ⟨held, hheld, hname⟩, hnamed, (hagree hnamed).1 hpairwise⟩
  · rintro ⟨hnan, ⟨a, ha, haname⟩, hnamed, hpairwise⟩
    have hpairwise := (hagree hnamed).2 hpairwise
    obtain ⟨held, hfirst, hname, hheld, -⟩ := Parameter.first?_related hpairwise ha haname
    exact ⟨⟨hnamed, hpairwise⟩, held, hfirst, (hdiffers hheld hname).2 hnan⟩

theorem value_eq_of_mem_parameters {d : Dialect} {e : Expr} (hpages : e.Pageless) (hvalues : e.OneValueEach) :
    ∀ a ∈ (e.script d).parameters, ∀ b ∈ (e.script d).parameters, a.name.isSome = true → a.name = b.name →
      a.value = b.value := by
  rintro ⟨_ | name, v⟩ ha ⟨name', w⟩ hb hsome hname
  · cases hsome
  · obtain rfl : some name = name' := hname
    exact hvalues name v w (contains_of_mem_parameters hpages ha) (contains_of_mem_parameters hpages hb)

/-- **A tree whose names have one value each** conflicts exactly where a name comes a second time with NaN, so never if no
bound value is NaN. -/
theorem conflicts_iff {d : Dialect} (hd : d.supportsNamed = true) {e : Expr} (hpages : e.Pageless) (hvalues : e.OneValueEach)
    (name : String) :
    (e.render d .named = .error (.conflictingParameter name) ↔ (e.script d).RepeatsNaN name) ∧
      ((∀ value, e.Contains (.var name value) → value.isNaN = false) →
        e.render d .named ≠ .error (.conflictingParameter name)) := by
  have hmain : e.render d .named = .error (.conflictingParameter name) ↔ (e.script d).RepeatsNaN name := by
    rw [render_named_error_iff hd, Script.FirstFailure, or_iff_left (by simp)]
    exact refused_iff_repeatsNaN (value_eq_of_mem_parameters hpages hvalues)
  refine ⟨hmain, fun hnumbers hconflict => ?_⟩
  obtain ⟨before, value, after, hsplit, hnan, -⟩ := hmain.1 hconflict
  have hcontained : e.Contains (.var name value) :=
    contains_of_mem_parameters (q := ⟨some name, value⟩) hpages (by rw [hsplit]; simp)
  rw [hnumbers value hcontained] at hnan
  cases hnan

/-- One value under one name in two tests. -/
def testedTwice (v : Value) : Expr := .allOf [.binary ⟨.name "a", .eq, .var "x" v⟩, .binary ⟨.name "b", .eq, .var "x" v⟩]

/-- No query, and no bound value but this one. -/
def BindsOnly (v : Value) (x : Expr) : Prop := (∀ s, x ≠ .select s) ∧ ∀ name w, x = .var name w → w = v

theorem bindsOnly_testedTwice {v : Value} : ∀ x, (testedTwice v).Contains x → BindsOnly v x := by
  have hname (column : String) : ∀ x, (Expr.name column).Contains x → BindsOnly v x :=
    Expr.forall_contains ⟨nofun, nofun⟩ (List.forall_mem_nil _)
  have hvar : ∀ x, (Expr.var "x" v).Contains x → BindsOnly v x :=
    Expr.forall_contains ⟨nofun, by rintro name w ⟨⟩; rfl⟩ (List.forall_mem_nil _)
  have htest (column : String) : ∀ x, (Expr.binary ⟨.name column, .eq, .var "x" v⟩).Contains x → BindsOnly v x :=
    Expr.forall_contains ⟨nofun, nofun⟩ (List.forall_mem_cons.2 ⟨hname column, List.forall_mem_singleton.2 hvar⟩)
  exact Expr.forall_contains ⟨nofun, nofun⟩ (List.forall_mem_cons.2 ⟨htest "a", List.forall_mem_singleton.2 (htest "b")⟩)

theorem pageless_testedTwice (v : Value) : (testedTwice v).Pageless :=
  fun s hs => absurd rfl ((bindsOnly_testedTwice _ hs).1 s)

theorem oneValueEach_testedTwice (v : Value) : (testedTwice v).OneValueEach := by
  intro name w w' hw hw'
  rw [(bindsOnly_testedTwice _ hw).2 name w rfl, (bindsOnly_testedTwice _ hw').2 name w' rfl]

/-- One number twice is no conflict. -/
theorem conflicts_iff_number : Dialect.mysql.supportsNamed = true ∧ (testedTwice (.int 5)).Pageless ∧
    (testedTwice (.int 5)).OneValueEach ∧
    (testedTwice (.int 5)).render .mysql .named ≠ .error (.conflictingParameter "x") := by
  refine ⟨rfl, pageless_testedTwice _, oneValueEach_testedTwice _, ?_⟩
  refine (conflicts_iff rfl (pageless_testedTwice _) (oneValueEach_testedTwice _) "x").2 fun value hvalue => ?_
  rw [(bindsOnly_testedTwice _ hvalue).2 "x" value rfl]
  rfl

/-- NaN twice, with the same bits, is one. -/
theorem conflicts_nan : (testedTwice (.float ⟨0x7FF8000000000000⟩)).Pageless ∧
    (testedTwice (.float ⟨0x7FF8000000000000⟩)).OneValueEach ∧
    (testedTwice (.float ⟨0x7FF8000000000000⟩)).render .mysql .named = .error (.conflictingParameter "x") :=
  ⟨pageless_testedTwice _, oneValueEach_testedTwice _, rfl⟩

end Sql
