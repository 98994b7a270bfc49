/-
Parameters by name share one set of names, and a name holds one value.

`renders_named_iff` says that a tree renders by name exactly if all its parameters have names and those of one name
have equal values; `binds_iff` says when every parameter finds its own value under its name.
-/
import Sql.Proofs.Parameters

namespace Sql

namespace Parameter

/-- Two parameters that may stand in one statement: under one name they have equal values. -/
def Agree (a b : Parameter) : Prop := a.name = b.name → a.value.equals b.value = true

instance (a b : Parameter) : Decidable (a.Agree b) := inferInstanceAs (Decidable (_ = _ → _))

/-- Two parameters that leave each other their values: under one name these are the same, and equal. -/
def Compatible (a b : Parameter) : Prop := a.name = b.name → a.value = b.value ∧ a.value.equals b.value = true

theorem Compatible.agree {a b : Parameter} (h : a.Compatible b) : a.Agree b := fun hname => (h hname).2

theorem Compatible.symm {a b : Parameter} (h : a.Compatible b) : b.Compatible a := by
  intro hname
  obtain ⟨hvalue, hequal⟩ := h hname.symm
  exact ⟨hvalue.symm, Value.equals_symm hequal⟩

/-- The first parameter with a name. -/
def first? (name : String) (ps : List Parameter) : Option Parameter := ps.find? (·.name == some name)

/-- Where one relation holds from left to right, it holds from the first parameter of a name to the others. -/
theorem first?_related {R : Parameter → Parameter → Prop} {ps : List Parameter} (hps : ps.Pairwise R) {name : String}
    {q : Parameter} (hq : q ∈ ps) (hname : q.name = some name) :
    ∃ f, first? name ps = some f ∧ f.name = some name ∧ f ∈ ps ∧ (f = q ∨ R f q) := by
  induction ps with
  | nil => cases hq
  | cons p ps ih =>
    obtain ⟨hp, hps⟩ := List.pairwise_cons.1 hps
    by_cases hfirst : p.name = some name
    · refine ⟨p, by simp [first?, hfirst], hfirst, List.mem_cons_self, ?_⟩
      exact (List.mem_cons.1 hq).imp Eq.symm (hp q)
    · obtain rfl | hq := List.mem_cons.1 hq
      · exact absurd hname hfirst
      · obtain ⟨f, hf, hfname, hmem, hrelated⟩ := ih hps hq
        refine ⟨f, ?_, hfname, List.mem_cons_of_mem _ hmem, hrelated⟩
        rw [first?, List.find?_cons_of_neg (by simpa using hfirst)]
        exact hf

end Parameter

/-! ## Names among pieces -/

namespace Piece

open Parameter

theorem firstValue?_eq (name : String) (pieces : List Piece) :
    firstValue? name pieces = (first? name (parametersOf pieces)).map (·.value) := by
  fun_induction firstValue? name pieces with
  | case1 => rfl
  | case2 value pieces => simp [first?, parametersOf, parameter?]
  | case3 other value pieces hne ih => simpa [first?, parametersOf, parameter?, hne] using ih
  | case4 piece pieces hother ih =>
    cases piece with
    | text s => simpa [first?, parametersOf, parameter?] using ih
    | parameter held value =>
      cases held with
      | none => simpa [first?, parametersOf, parameter?] using ih
      | some held => exact absurd rfl (hother held value)

theorem refusal?_eq_none_iff {before : List Piece} (hbefore : (parametersOf before).Pairwise Agree)
    {name : String} {value : Value} :
    (Piece.parameter (some name) value).refusal? before = none ↔
      ∀ a ∈ parametersOf before, a.Agree ⟨some name, value⟩ := by
  rw [refusal?, firstValue?_eq]
  cases hfirst : first? name (parametersOf before) with
  | none =>
    refine iff_of_true rfl fun a ha hname => ?_
    obtain ⟨f, hf, -⟩ := first?_related hbefore ha hname
    rw [hfirst] at hf
    cases hf
  | some f =>
    have hmem := List.mem_of_find?_eq_some hfirst
    have hname : f.name = some name := by simpa using List.find?_some hfirst
    simp only [Option.map_some, ite_eq_left_iff, Bool.not_eq_true, reduceCtorEq, imp_false, Bool.not_eq_false]
    constructor
    · intro hequal a ha haname
      obtain ⟨f', hf', -, -, hagree⟩ := first?_related hbefore ha haname
      obtain rfl : f = f' := Option.some.inj (hfirst.symm.trans hf')
      rcases hagree with rfl | hagree
      · exact hequal
      · have hfa : f.value.equals a.value = true := hagree (hname.trans haname.symm)
        exact Value.equals_trans (Value.equals_symm hfa) hequal
    · exact fun h => h f hmem hname

/-- What is accepted: parameters with names, of which those with one name agree. -/
theorem accepted_iff {before pieces : List Piece} (hbefore : (parametersOf before).Pairwise Agree) :
    Accepted before pieces ↔
      (∀ q ∈ parametersOf pieces, q.name.isSome = true) ∧ (parametersOf (before ++ pieces)).Pairwise Agree := by
  induction pieces generalizing before with
  | nil =>
    rw [List.append_nil]
    exact iff_of_true Accepted.nil ⟨List.forall_mem_nil _, hbefore⟩
  | cons piece pieces ih =>
    have hstep : before ++ piece :: pieces = before ++ [piece] ++ pieces := by simp
    rw [accepted_cons, hstep]
    rcases piece with s | ⟨name, value⟩
    · have hsame : parametersOf (before ++ [.text s]) = parametersOf before := by simp [parametersOf, parameter?]
      rw [ih (hsame ▸ hbefore)]
      exact and_iff_right rfl
    · have hmore : parametersOf (before ++ [.parameter name value]) = parametersOf before ++ [⟨name, value⟩] := by
        simp [parametersOf, parameter?]
      have hsplit : parametersOf (.parameter name value :: pieces) = ⟨name, value⟩ :: parametersOf pieces := rfl
      rw [hsplit, List.forall_mem_cons]
      cases name with
      | none => simp [refusal?]
      | some name =>
        rw [refusal?_eq_none_iff hbefore]
        have hnext : (parametersOf (before ++ [.parameter (some name) value])).Pairwise Agree ↔
            ∀ a ∈ parametersOf before, a.Agree ⟨some name, value⟩ := by
          rw [hmore, List.pairwise_append]
          simp [hbefore]
        rw [← hnext]
        constructor
        · rintro ⟨hhead, hrest⟩
          obtain ⟨hnames, hagree⟩ := (ih hhead).1 hrest
          exact ⟨⟨rfl, hnames⟩, hagree⟩
        · rintro ⟨⟨-, hnames⟩, hagree⟩
          rw [parametersOf_append] at hagree
          have hhead := (List.pairwise_append.1 hagree).1
          exact ⟨hhead, (ih hhead).2 ⟨hnames, (parametersOf_append _ _).symm ▸ hagree⟩⟩

/-- Parameters with names are refused only because of what a name already holds. -/
theorem conflict_of_refused {before pieces : List Piece} {error : Error}
    (hnames : ∀ q ∈ parametersOf pieces, q.name.isSome = true) (h : Refused before pieces error) :
    ∃ name, error = .conflictingParameter name := by
  obtain ⟨mid, piece, after, rfl, -, hrefused⟩ := h
  rcases piece with s | ⟨name, value⟩
  · cases hrefused
  · cases name with
    | none =>
      have hname := hnames ⟨none, value⟩ (by simp [parametersOf, parameter?])
      cases hname
    | some name =>
      refine ⟨name, ?_⟩
      simp only [refusal?] at hrefused
      split at hrefused
      · split at hrefused
        · cases hrefused
        · exact (Option.some.inj hrefused).symm
      · cases hrefused

end Piece

/-! ## Renderings by name -/

section

variable {d : Dialect} {e : Expr}

theorem parametersOf_pieces (hfault : (e.script d).fault = none) :
    Piece.parametersOf (e.script d).pieces = e.parameters d.pagination := parameters_script hfault

/-- **When a tree renders by name**: all its parameters have names, and those with one name agree. -/
theorem renders_named_iff (hd : d.supportsNamed = true) (hfault : (e.script d).fault = none) :
    (∃ r, e.render d .named = .ok r) ↔
      (∀ q ∈ e.parameters d.pagination, q.name.isSome = true) ∧
        (e.parameters d.pagination).Pairwise Parameter.Agree := by
  have haccepted : Piece.Accepted [] (e.script d).pieces ↔ _ := Piece.accepted_iff List.Pairwise.nil
  rw [List.nil_append, parametersOf_pieces hfault] at haccepted
  rw [← haccepted]
  constructor
  · rintro ⟨r, hr⟩
    exact (render_named_ok hd hr).1
  · intro h
    rcases render_named hd e with ⟨-, values, -, hrun⟩ | ⟨error, hrefused, -⟩
    · rw [hfault] at hrun
      exact ⟨_, hrun⟩
    · exact absurd hrefused (not_refused_of_accepted h)

/-- A tree whose parameters have names is refused by name only because of what a name already holds. -/
theorem renders_or_conflicts (hd : d.supportsNamed = true) (hfault : (e.script d).fault = none)
    (hnames : ∀ q ∈ e.parameters d.pagination, q.name.isSome = true) :
    (∃ r, e.render d .named = .ok r) ∨ ∃ name, e.render d .named = .error (.conflictingParameter name) := by
  rcases render_named hd e with ⟨-, values, -, hrun⟩ | ⟨error, hrefused, hrun⟩
  · rw [hfault] at hrun
    exact .inl ⟨_, hrun⟩
  · obtain ⟨name, rfl⟩ := Piece.conflict_of_refused (parametersOf_pieces hfault ▸ hnames) hrefused
    exact .inr ⟨name, hrun⟩

/-- An argument by name is the value of the first parameter with that name. -/
theorem get?_args {r : Rendered} (hd : d.supportsNamed = true) (hr : e.render d .named = .ok r) (name : String) :
    r.args.get? name = (Parameter.first? name (e.parameters d.pagination)).map (·.value) := by
  obtain ⟨-, values, hargs, hvalues⟩ := render_named_ok hd hr
  rw [hargs, Args.get?, hvalues, Piece.firstValue?_eq, parametersOf_pieces (render_ok hr).1]

/-- A parameter finds its own value under its name. -/
def Rendered.Binds (r : Rendered) (q : Parameter) : Prop :=
  ∃ name, q.name = some name ∧ r.args.get? name = some q.value

theorem binds_named {r : Rendered} {name : String} {value : Value} :
    r.Binds ⟨some name, value⟩ ↔ r.args.get? name = some value := by
  simp [Rendered.Binds]

/-- **When every parameter is bound to its own value**: all of them have names, and those with one name have the same
value. -/
theorem binds_iff (hd : d.supportsNamed = true) (hfault : (e.script d).fault = none) :
    (∃ r, e.render d .named = .ok r ∧ ∀ q ∈ e.parameters d.pagination, r.Binds q) ↔
      (∀ q ∈ e.parameters d.pagination, q.name.isSome = true) ∧
        (e.parameters d.pagination).Pairwise Parameter.Compatible := by
  constructor
  · rintro ⟨r, hr, hbinds⟩
    obtain ⟨hnames, hagree⟩ := (renders_named_iff hd hfault).1 ⟨r, hr⟩
    refine ⟨hnames, hagree.imp_of_mem fun {a b} ha hb hab hname => ⟨?_, hab hname⟩⟩
    obtain ⟨name, haname, hagets⟩ := hbinds a ha
    obtain ⟨name', hbname, hbgets⟩ := hbinds b hb
    obtain rfl : name = name' := Option.some.inj (haname.symm.trans (hname.trans hbname))
    exact Option.some.inj (hagets.symm.trans hbgets)
  · rintro ⟨hnames, hcompatible⟩
    obtain ⟨r, hr⟩ := (renders_named_iff hd hfault).2 ⟨hnames, hcompatible.imp Parameter.Compatible.agree⟩
    refine ⟨r, hr, fun q hq => ?_⟩
    obtain ⟨name, hname⟩ := Option.isSome_iff_exists.1 (hnames q hq)
    refine ⟨name, hname, ?_⟩
    obtain ⟨f, hf, hfname, -, hrelated⟩ := Parameter.first?_related hcompatible hq hname
    rw [get?_args hd hr, hf, Option.map_some]
    rcases hrelated with rfl | hrelated
    · rfl
    · rw [(hrelated (hfname.trans hname.symm)).1]

end

/-! ## Parameters of lists of values -/

open Number

/-- The name of the parameter at a place of a list of values. -/
def listName (base : String) (index : Nat) : String := base ++ "_" ++ natText index

theorem listName_injective {base : String} {i j : Nat} (h : listName base i = listName base j) : i = j :=
  natText_injective ((String.append_right_inj _).1 h)

/-- Without a base there is no name. -/
def listName? (base : String) (index : Nat) : Option String :=
  if base.isEmpty then none else some (listName base index)

theorem listParameter_eq (base : String) (index : Nat) {value : Value} (h : value.isNull = false) :
    Expr.listParameter base index value = .bound (listName? base index) value := by
  unfold listName?
  cases hbase : base.isEmpty <;> cases value <;> simp_all [Expr.listParameter, Expr.var, listName, Value.isNull]

/-- The parameters of a list of values: one for each value that is not null. -/
def listedParameters (base : String) (values : List Value) : List Parameter :=
  (values.zipIdx.filter fun entry => !entry.1.isNull).map fun (value, index) => ⟨listName? base index, value⟩

theorem allParameters_listParameters (p : Pagination) (base : String) (values : List Value) :
    allParameters p (Expr.listParameters base values) = listedParameters base values := by
  rw [allParameters_eq, Expr.listParameters, List.mapIdx_eq_zipIdx_map, listedParameters]
  induction values.zipIdx with
  | nil => rfl
  | cons entry entries ih =>
    obtain ⟨value, index⟩ := entry
    rw [List.map_cons, List.flatMap_cons, ih]
    cases hnull : value.isNull with
    | true =>
      obtain rfl : value = .null := by cases value <;> simp [Value.isNull] at hnull ⊢
      rfl
    | false =>
      simp [listParameter_eq base index hnull, Expr.parameters, hnull]

theorem mem_listedParameters {base : String} {values : List Value} {q : Parameter} :
    q ∈ listedParameters base values ↔
      ∃ (i : Nat) (h : i < values.length), values[i].isNull = false ∧ q = ⟨listName? base i, values[i]⟩ := by
  simp only [listedParameters, List.mem_map, List.mem_filter, Bool.not_eq_true', List.mem_zipIdx_iff_getElem?]
  constructor
  · rintro ⟨⟨value, i⟩, ⟨hvalue, hnull⟩, rfl⟩
    obtain ⟨hbound, hvalue⟩ := List.getElem?_eq_some_iff.1 hvalue
    exact ⟨i, hbound, hvalue ▸ hnull, by rw [hvalue]⟩
  · rintro ⟨i, hbound, hnull, rfl⟩
    exact ⟨(values[i], i), ⟨List.getElem?_eq_getElem hbound, hnull⟩, rfl⟩

/-- Named values of one list have names of their own. -/
theorem listedParameters_pairwise {base : String} (hbase : base ≠ "") (values : List Value) :
    (listedParameters base values).Pairwise fun a b => a.name ≠ b.name := by
  have hplaces : values.zipIdx.Pairwise fun a b => a.2 ≠ b.2 := by
    have hnodup : (values.zipIdx.map Prod.snd).Nodup := by
      rw [List.zipIdx_map_snd]
      exact List.nodup_range'
    exact List.pairwise_map.1 hnodup
  refine List.pairwise_map.2 ((hplaces.filter _).imp fun {a b} hne hname => hne ?_)
  simp only [listName?, String.isEmpty_iff, hbase, if_false, Option.some.injEq] at hname
  exact listName_injective hname

end Sql
