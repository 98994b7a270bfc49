/-
Tests against lists of values, whose parameters are named by their places.

A parameter is called by the base of its list and the place of its value: `base_0`, `base_1` and so on. Bases may end like
such names themselves. `listName_inj` says that no two lists with different bases ever share a name, and
`memberships_render` that tests of such lists therefore render together and bind exactly their values.
-/
import Mathlib.Data.List.Nodup
import Sql.Proofs.ColumnValues

namespace Sql

open Number

/-! ## Names by place -/

/-- What stands before the last of a character and what stands behind it. -/
theorem append_cons_inj {x y ds es : List Char} {c : Char} (hds : c ∉ ds) (hes : c ∉ es)
    (h : x ++ c :: ds = y ++ c :: es) : x = y ∧ ds = es := by
  rcases List.append_eq_append_iff.1 h with ⟨between, hy, hrest⟩ | ⟨between, hx, hrest⟩
  · cases between with
    | nil => exact ⟨by simpa using hy.symm, (List.cons.inj hrest).2⟩
    | cons head between =>
      obtain ⟨-, rfl⟩ := List.cons_eq_cons.1 hrest
      exact absurd (by simp) hds
  · cases between with
    | nil => exact ⟨by simpa using hx, (List.cons.inj hrest).2.symm⟩
    | cons head between =>
      obtain ⟨-, rfl⟩ := List.cons_eq_cons.1 hrest
      exact absurd (by simp) hes

/-- **A name by place tells its base and its place**, also where the base ends like such a name. -/
theorem listName_inj {base base' : String} {i j : Nat} (h : listName base i = listName base' j) :
    base = base' ∧ i = j := by
  have hdigits (n : Nat) : '_' ∉ natDigits n := fun hmem => absurd (isDigit_of_mem_natDigits hmem) (by decide)
  have htext (base : String) (n : Nat) : (listName base n).toList = base.toList ++ '_' :: natDigits n := by
    simp [listName, natText]
  have hchars := congrArg String.toList h
  rw [htext, htext] at hchars
  obtain ⟨hbase, hplace⟩ := append_cons_inj (hdigits i) (hdigits j) hchars
  exact ⟨String.toList_injective hbase, natText_injective (congrArg String.ofList hplace)⟩

/-! ## Tests of membership -/

/-- A test whether a column holds one of several values, or none of them. -/
structure Membership where
  qualifiers : List String := []
  column : String
  /-- What the names of the parameters begin with. -/
  base : String
  values : List Value
  /-- Whether the column must hold none of the values. -/
  excludes : Bool := false

namespace Membership

def test (m : Membership) : Binary Expr :=
  let column := Expr.identifier m.qualifiers m.column
  let members := Expr.listParameters m.base m.values
  if m.excludes then Expr.notIn column members else Expr.isIn column members

def op (m : Membership) : BinaryOp := if m.excludes then .notIn else .isIn

theorem test_eq (m : Membership) :
    m.test = ⟨.identifier m.qualifiers m.column, m.op, .setOf (Expr.listParameters m.base m.values)⟩ := by
  unfold test op
  cases m.excludes <;> rfl

theorem isMembership_op (m : Membership) : m.op.isMembership = true := by
  unfold op
  cases m.excludes <;> rfl

theorem isKeyword_op (m : Membership) : m.op.isKeyword = true := by
  unfold op
  cases m.excludes <;> rfl

/-- The values that are bound, under their names. A NULL is not bound, but it counts. -/
def entries (m : Membership) : List (String × Value) :=
  (m.values.zipIdx.filter fun entry => !entry.1.isNull).map fun (value, place) => (listName m.base place, value)

/-- A value as a member of the set. -/
def memberText (d : Dialect) (style : ParamStyle) (m : Membership) (entry : Value × Nat) : String :=
  if entry.1.isNull then d.keyword "NULL" else d.placeholderIn style (listName m.base entry.2)

/-- A test against no values has one outcome for all rows. -/
def text (d : Dialect) (style : ParamStyle) (m : Membership) : String :=
  if m.values.isEmpty then (if m.excludes then "1=1" else "1=0")
  else d.identifierText m.qualifiers m.column ++ d.spaced m.op.text ++
    ("( " ++ ",".intercalate (m.values.zipIdx.map (m.memberText d style)) ++ " )")

variable {m : Membership} {d : Dialect} {style : ParamStyle}

theorem mem_entries {name : String} {value : Value} :
    (name, value) ∈ m.entries ↔
      ∃ place, m.values[place]? = some value ∧ value.isNull = false ∧ name = listName m.base place := by
  simp only [entries, List.mem_map, List.mem_filter, Bool.not_eq_true', List.mem_zipIdx_iff_getElem?]
  constructor
  · rintro ⟨⟨value, place⟩, ⟨hvalue, hnull⟩, heq⟩
    obtain ⟨rfl, rfl⟩ := Prod.mk.inj heq
    exact ⟨place, hvalue, hnull, rfl⟩
  · rintro ⟨place, hvalue, hnull, rfl⟩
    exact ⟨(value, place), ⟨hvalue, hnull⟩, rfl⟩

/-- The names of one list are different. -/
theorem names_nodup (m : Membership) : (m.entries.map (·.1)).Nodup := by
  have hplaces : (m.values.zipIdx.map Prod.snd).Nodup := by
    rw [List.zipIdx_map_snd]
    exact List.nodup_range'
  refine List.pairwise_map.2 (List.pairwise_map.2 (((List.pairwise_map.1 hplaces).filter _).imp fun hne hname => ?_))
  exact hne (listName_inj hname).2

/-! ## What is written and bound -/

theorem spells_test (hbase : m.base ≠ "") : (Expr.binary m.test).Spells d style (m.text d style) := by
  have hcolumn : (Expr.identifier m.qualifiers m.column).Spells d style (d.identifierText m.qualifiers m.column) :=
    .literal _
  have hmember : ∀ entry ∈ m.values.zipIdx,
      (Expr.listParameter m.base entry.2 entry.1).Spells d style (m.memberText d style entry) := by
    rintro ⟨value, place⟩ -
    unfold memberText
    cases hnull : value.isNull with
    | true =>
      obtain rfl : value = .null := by cases value <;> simp [Value.isNull] at hnull ⊢
      exact .literal _
    | false =>
      have hname : listName? m.base place = some (listName m.base place) := by simp [listName?, hbase]
      rw [listParameter_eq _ _ hnull, hname]
      exact spells_var _ value
  have hmembers : Expr.listParameters m.base m.values =
      m.values.zipIdx.map fun entry => Expr.listParameter m.base entry.2 entry.1 := List.mapIdx_eq_zipIdx_map
  rw [test_eq]
  cases hvalues : m.values with
  | nil =>
    simp only [Expr.Spells, Expr.script, binaryScript, isMembership_op, text, hvalues]
    unfold op
    cases m.excludes <;> exact .literal _
  | cons value values =>
    have hsome : m.values.zipIdx ≠ [] := by simp [hvalues]
    have hspells := spells_membership m.op hcolumn hsome hmember
    rw [← hmembers, if_pos m.isKeyword_op, hvalues] at hspells
    simpa [text, hvalues] using hspells

theorem parameters_test (p : Pagination) (hbase : m.base ≠ "") :
    binaryParameters p m.test = m.entries.map .ofEntry := by
  have hentries : m.entries.map .ofEntry = listedParameters m.base m.values := by
    simp [entries, listedParameters, listName?, hbase, Parameter.ofEntry, Function.comp_def]
  have hset : (Expr.setOf (Expr.listParameters m.base m.values)).parameters p = listedParameters m.base m.values := by
    rw [← allParameters_listParameters p]
    simp [Expr.setOf, Expr.listOf, optionParameters]
  rw [hentries, ← hset, test_eq, binaryParameters, isMembership_op, Bool.true_and]
  split
  · next hnone =>
    -- A list without members binds nothing.
    have hvalues : m.values = [] := by simpa [isEmptySet_setOf, Expr.listParameters] using hnone
    rw [hset, hvalues]
    rfl
  · rfl

end Membership

/-! ## Several tests together -/

variable {d : Dialect} {style : ParamStyle} {family : List Membership}

/-- The names of lists with different bases are different. -/
theorem names_nodup_of_bases (hbases : (family.map (·.base)).Nodup) :
    ((family.flatMap (·.entries)).map (·.1)).Nodup := by
  rw [List.map_flatMap, List.nodup_flatMap]
  refine ⟨fun m _ => m.names_nodup, (List.pairwise_map.1 hbases).imp fun {m m'} hne name hname hname' => ?_⟩
  obtain ⟨entry, hentry, rfl⟩ := List.mem_map.1 hname
  obtain ⟨entry', hentry', hsame⟩ := List.mem_map.1 hname'
  obtain ⟨place, -, -, hentry⟩ := Membership.mem_entries.1 hentry
  obtain ⟨place', -, -, hentry'⟩ := Membership.mem_entries.1 hentry'
  exact hne (listName_inj (hentry.symm.trans (hsame.symm.trans hentry'))).1

/-- **Tests of lists of values do not disturb each other.** Where the bases of the lists are different and not empty, the
tests render together. The arguments are the values that are not null: by position in their order, and by name each under
the base of its list with its place, where no two have one name. -/
theorem memberships_render (hd : style = .named → d.supportsNamed = true) (hbases : (family.map (·.base)).Nodup)
    (hnonempty : ∀ m ∈ family, m.base ≠ "") :
    ∃ args, (Expr.allOf (family.map fun m => .binary m.test)).render d style =
        .ok ⟨(d.spaced "AND").intercalate (family.map (·.text d style)), args⟩ ∧
      args.Hold style (family.flatMap (·.entries)) ∧
      ((family.flatMap (·.entries)).map (·.1)).Nodup ∧
      ∀ name value, (name, value) ∈ family.flatMap (·.entries) ↔
        ∃ m ∈ family, ∃ place, m.values[place]? = some value ∧ value.isNull = false ∧ name = listName m.base place := by
  have hspells : (Expr.allOf (family.map fun m => .binary m.test)).Spells d style
      ((d.spaced "AND").intercalate (family.map (·.text d style))) :=
    spells_allOf fun m hm => Membership.spells_test (hnonempty m hm)
  have hparameters : (Expr.allOf (family.map fun m => .binary m.test)).parameters d.pagination =
      (family.flatMap (·.entries)).map .ofEntry := by
    have htests : ∀ m ∈ family, (Expr.binary m.test).parameters d.pagination = m.entries.map .ofEntry :=
      fun m hm => Membership.parameters_test d.pagination (hnonempty m hm)
    simp only [Expr.allOf, Expr.listOf, Expr.parameters, optionParameters, List.nil_append, List.append_nil,
      allParameters_eq, List.flatMap_map, List.map_flatMap]
    exact List.flatMap_congr htests
  have hnames := names_nodup_of_bases hbases
  obtain ⟨args, hr, hargs⟩ := render_of_spells hd hspells hparameters hnames
  refine ⟨args, hr, hargs, hnames, fun name value => ?_⟩
  simp only [List.mem_flatMap, Membership.mem_entries]

/-- Lists of which two are called like values of the others, with a NULL and without values. -/
def nestedBases : List Membership :=
  [{ column := "a", base := "a", values := [.int 1, .null, .int 3] },
    { qualifiers := ["t"], column := "b", base := "a_1", values := [.text "x", .int 5], excludes := true },
    { column := "c", base := "a_1_0", values := [] }]

theorem memberships_render_nestedBases :
    ∃ args, (Expr.allOf (nestedBases.map fun m => .binary m.test)).render .mysql .named =
        .ok ⟨"`a` IN ( :a_0,NULL,:a_2 ) AND `t`.`b` NOT IN ( :a_1_0,:a_1_1 ) AND 1=0", args⟩ ∧
      args.Hold .named [("a_0", .int 1), ("a_2", .int 3), ("a_1_0", .text "x"), ("a_1_1", .int 5)] := by
  obtain ⟨args, hr, hargs, -⟩ := @memberships_render .mysql .named nestedBases (fun _ => rfl)
    (by decide) (by decide)
  exact ⟨args, hr, hargs⟩

end Sql
