/-
Orders of rows: as a fragment for statements that are written by hand, and as the last items of a query.

Both begin with the same words and quote the same names, but only the fragment asks the dialect how it spells a
direction. `orderBy_of_sorts` and `render_ordered` give the two texts, and `orders_agree` says of them when they are one.
-/
import Mathlib.Data.List.Forall2
import Sql.Fragment
import Sql.Proofs.StatementTexts
import Sql.Proofs.TextParts

namespace Sql

/-! ## Directions -/

namespace Direction

variable {direction : Direction} {word : String}

/-- A word names a direction in any case, with or without blanks around it. -/
def NamedBy (direction : Direction) (word : String) : Prop :=
  ∃ letters, Text.TrimsTo word.toList letters ∧ letters.map Char.toUpper = direction.text.toList

theorem namedBy_iff : direction.NamedBy word ↔ Text.upperAscii (Text.trim word) = direction.text := by
  simp only [NamedBy, Text.trimsTo_iff, exists_eq_left, Text.upperAscii, Text.trim, String.toList_ofList,
    ← String.toList_inj]

/-- A word names a direction. -/
def IsNamed (word : String) : Prop := ∃ direction : Direction, direction.NamedBy word

theorem ofWord_of_namedBy (h : direction.NamedBy word) : ofWord word = .ok direction := by
  rw [ofWord, namedBy_iff.1 h]
  cases direction <;> rfl

theorem ofWord_of_not_named (h : ¬ IsNamed word) : ofWord word = .error (Text.upperAscii (Text.trim word)) := by
  unfold ofWord
  split
  · next hword => exact absurd ⟨.ascending, namedBy_iff.2 hword⟩ h
  · next hword => exact absurd ⟨.descending, namedBy_iff.2 hword⟩ h
  · rfl

end Direction

/-! ## Fragments -/

/-- A column with a word, and the same column with the direction that the word names. -/
def Sorts (pair : String × String) (sort : String × Direction) : Prop := sort.1 = pair.1 ∧ sort.2.NamedBy pair.2

/-- The items of an order, with their directions spelled in some way. -/
def sortTexts (d : Dialect) (spell : String → String) (sorts : List (String × Direction)) : List String :=
  sorts.map fun sort => d.quote (Text.snake sort.1) ++ " " ++ spell sort.2.text

theorem sortTexts_cons (d : Dialect) (spell : String → String) (sort : String × Direction)
    (sorts : List (String × Direction)) : sortTexts d spell (sort :: sorts) =
      (d.quote (Text.snake sort.1) ++ " " ++ spell sort.2.text) :: sortTexts d spell sorts :=
  rfl

/-- An order from its first word on. -/
def orderText (d : Dialect) (spell : String → String) (sorts : List (String × Direction)) : String :=
  d.spaced "ORDER BY" ++ ",".intercalate (sortTexts d spell sorts)

namespace Fragment

variable {d : Dialect} {order : List (String × String)} {sorts : List (String × Direction)} {word : String}

theorem sortItems_of_sorts (h : List.Forall₂ Sorts order sorts) :
    sortItems d order = .ok (sortTexts d d.keyword sorts) := by
  induction h with
  | nil => rfl
  | @cons pair sort order sorts hsort _ ih =>
    obtain ⟨column, word⟩ := pair
    obtain ⟨hcolumn, hnamed⟩ := hsort
    rw [sortItems, Direction.ofWord_of_namedBy hnamed, ih, sortTexts_cons, hcolumn]
    rfl

theorem sortItems_of_firstUnknown (h : Text.FirstUnknown Direction.IsNamed (order.map (·.2)) word) :
    sortItems d order = .error (.validation (.sortDirection (Text.upperAscii (Text.trim word)))) := by
  induction order with
  | nil => exact absurd h.mem.1 List.not_mem_nil
  | cons pair order ih =>
    obtain ⟨column, first⟩ := pair
    rcases Text.firstUnknown_cons.1 h with ⟨hfirst, rfl⟩ | ⟨⟨direction, hnamed⟩, hrest⟩
    · rw [sortItems, Direction.ofWord_of_not_named hfirst]
      rfl
    · rw [sortItems, Direction.ofWord_of_namedBy hnamed, ih hrest]
      rfl

theorem orderBy_of_sorts (h : List.Forall₂ Sorts order sorts) (hne : order ≠ []) :
    orderBy d order = .ok (orderText d d.keyword sorts ++ " ") := by
  have hsome : (sortTexts d d.keyword sorts).isEmpty = false := by
    cases h with
    | nil => exact absurd rfl hne
    | cons _ _ => rfl
  rw [orderBy, sortItems_of_sorts h]
  show Except.ok (if (sortTexts d d.keyword sorts).isEmpty then "" else _) = _
  rw [hsome]
  rfl

theorem orderBy_of_firstUnknown (h : Text.FirstUnknown Direction.IsNamed (order.map (·.2)) word) :
    orderBy d order = .error (.validation (.sortDirection (Text.upperAscii (Text.trim word)))) := by
  rw [orderBy, sortItems_of_firstUnknown h]
  rfl

/-- Words that all name directions have directions. -/
theorem exists_sorts (h : ∀ word ∈ order.map (·.2), Direction.IsNamed word) :
    ∃ sorts, List.Forall₂ Sorts order sorts := by
  induction order with
  | nil => exact ⟨[], .nil⟩
  | cons pair order ih =>
    obtain ⟨⟨direction, hnamed⟩, hrest⟩ := List.forall_mem_cons.1 h
    obtain ⟨sorts, hsorts⟩ := ih hrest
    exact ⟨(pair.1, direction) :: sorts, .cons ⟨rfl, hnamed⟩ hsorts⟩

theorem orderBy_eq_error_iff {error : Error} : orderBy d order = .error error ↔
    ∃ word, Text.FirstUnknown Direction.IsNamed (order.map (·.2)) word ∧
      error = .validation (.sortDirection (Text.upperAscii (Text.trim word))) := by
  constructor
  · intro h
    rcases Text.all_or_firstUnknown Direction.IsNamed (order.map (·.2)) with hall | ⟨word, hword⟩
    · obtain ⟨sorts, hsorts⟩ := exists_sorts hall
      by_cases hne : order = []
      · subst hne
        cases h
      · rw [orderBy_of_sorts hsorts hne] at h
        cases h
    · rw [orderBy_of_firstUnknown hword] at h
      exact ⟨word, hword, (Except.error.inj h).symm⟩
  · rintro ⟨word, hword, rfl⟩
    exact orderBy_of_firstUnknown hword

end Fragment

/-! ## Queries -/

/-- An item in the order of a query. -/
def sortItem (sort : String × Direction) : Expr := .sorted sort.2 (.name (Text.snake sort.1))

section

variable {d : Dialect} {style : ParamStyle} {s : Select Expr} {sorts : List (String × Direction)}

theorem spells_sorted {e : Expr} {x : String} (he : e.Spells d style x) (hgroup : e.needsGroupIn .space = false)
    (direction : Direction) : (Expr.sorted direction e).Spells d style (x ++ " " ++ direction.text) := by
  have hword : (Expr.raw (.text direction.text)).Spells d style direction.text := .literal _
  have hitems : (Script.join (d.separator .space) (itemScripts d .space [e])).Spells d style x := by
    have hshown : Separator.space.drops e = false := by simp [Separator.drops, Separator.isLogical]
    rw [itemScripts, hshown, hgroup]
    exact he
  rw [Expr.Spells, Expr.sorted, Expr.script]
  simp only [Option.isSome_none, Option.isSome_some, Bool.false_eq_true, if_false, if_true, Script.nil_append, optionScript]
  rw [String.append_assoc]
  exact hitems.append ((Script.Spells.literal " ").append hword)

theorem spells_sortItem (sort : String × Direction) :
    (sortItem sort).Spells d style (d.quote (Text.snake sort.1) ++ " " ++ sort.2.text) :=
  spells_sorted (spells_name _) rfl _

theorem pageText_none (d : Dialect) (style : ParamStyle) : pageText d style none none = "" := by
  unfold pageText
  cases d.pagination <;> rfl

/-- A query with an order and a page has the text of the query without them, and behind it those of the order and the page. -/
theorem render_ordered (hne : sorts ≠ []) {r₀ : Rendered}
    (hr₀ : (Expr.select { s with orderBy := [], limit := none, offset := none }).render d .positional = .ok r₀) :
    ∃ r, (Expr.select { s with orderBy := sorts.map sortItem }).render d .positional = .ok r ∧
      r.sql = r₀.sql ++ orderText d id sorts ++ pageText d .positional s.limit s.offset := by
  have hrest : ∃ r, (Expr.select { s with orderBy := [], limit := none, offset := none }).render d .positional = .ok r :=
    ⟨r₀, hr₀⟩
  have hsource := isSome_source hrest
  have hfault₀ := renders_positional_iff.1 hrest
  obtain ⟨hcolumns, hfrom, hcondition, hgroupBy, hhaving, -⟩ :=
    (fault_query (s := { s with orderBy := [], limit := none, offset := none }) hsource).1 hfault₀
  have hspells (sort : String × Direction) : (sortItem sort).Spells d .positional _ := spells_sortItem sort
  have hitems : ∀ e ∈ sorts.map sortItem, (e.script d).fault = none :=
    List.forall_mem_map.2 fun sort _ => (hspells sort).fault
  have hfault : ((Expr.select { s with orderBy := sorts.map sortItem }).script d).fault = none :=
    (fault_query (s := { s with orderBy := sorts.map sortItem }) hsource).2
      ⟨hcolumns, hfrom, hcondition, hgroupBy, hhaving, hitems⟩
  obtain ⟨r, hr⟩ := renders_positional_iff.2 hfault
  have hcommas : commaText d .positional (sorts.map sortItem) = ",".intercalate (sortTexts d id sorts) := by
    rw [commaText, List.map_map, sortTexts]
    exact congrArg _ (List.map_congr_left fun sort _ => (hspells sort).text)
  have hend : ({ s with orderBy := sorts.map sortItem } : Select Expr).endText d .positional =
      orderText d id sorts ++ pageText d .positional s.limit s.offset := by
    have hsome : (sorts.map sortItem).isEmpty = false := List.isEmpty_eq_false_iff.2 (by simpa using hne)
    rw [Select.endText, hsome, hcommas]
    rfl
  refine ⟨r, hr, ?_⟩
  rw [(spells_query hfault).sql hr, (spells_query hfault₀).sql hr₀, hend, Select.endText, pageText_none]
  simp only [List.isEmpty_nil, if_true, String.append_empty, String.append_assoc]
  rfl

end

/-! ## Both texts -/

/-- Words without commas that stand before a comma in the same text are equal. -/
theorem eq_of_before_comma {word word' x y : String} (hword : ',' ∉ word.toList) (hword' : ',' ∉ word'.toList)
    (h : word ++ ("," ++ x) = word' ++ ("," ++ y)) : word = word' := by
  have hparts := congrArg (fun text : String => Text.segments (· == ',') text.toList) h
  have hcomma : ",".toList = [','] := rfl
  simp only [String.toList_append, hcomma, List.singleton_append, Text.segments_append hword,
    Text.segments_append hword'] at hparts
  exact String.toList_injective (List.cons.inj hparts).1

/-- Orders of the same columns, with directions that hold no comma, are equal exactly if all directions are spelled alike. -/
theorem intercalate_sortTexts_eq_iff {d : Dialect} {f g : String → String} {sorts : List (String × Direction)}
    (h : ∀ sort ∈ sorts, ',' ∉ (f sort.2.text).toList ∧ ',' ∉ (g sort.2.text).toList) :
    ",".intercalate (sortTexts d f sorts) = ",".intercalate (sortTexts d g sorts) ↔
      ∀ sort ∈ sorts, f sort.2.text = g sort.2.text := by
  rw [sortTexts, sortTexts, intercalate_map_eq_iff]
  · simp only [String.append_right_inj]
  · intro sort hsort x y heq
    have hitem (word rest : String) : d.quote (Text.snake sort.1) ++ " " ++ word ++ rest =
        d.quote (Text.snake sort.1) ++ " " ++ (word ++ rest) := String.append_assoc
    rw [hitem, hitem, String.append_right_inj] at heq
    rw [eq_of_before_comma (h sort hsort).1 (h sort hsort).2 heq]

theorem comma_not_mem_text (direction : Direction) : ',' ∉ direction.text.toList := by
  cases direction <;> decide

/-- **A fragment and a query write one order** where the dialect leaves the directions as they are. A fragment is refused exactly
if some word names no direction, for the first such word, and is empty for no columns. Otherwise it is the order that a
query of the same columns has between its rows and its page, with a blank behind it, but for the directions: the
fragment spells them as the dialect does. So the two agree exactly if the dialect replaces none of them. -/
theorem orders_agree (d : Dialect) (order : List (String × String)) :
    (∀ error, Fragment.orderBy d order = .error error ↔
      ∃ word, Text.FirstUnknown Direction.IsNamed (order.map (·.2)) word ∧
        error = .validation (.sortDirection (Text.upperAscii (Text.trim word)))) ∧
    ((∃ error, Fragment.orderBy d order = .error error) ↔ ∃ pair ∈ order, ¬ Direction.IsNamed pair.2) ∧
    (order = [] → Fragment.orderBy d order = .ok "") ∧
    ∀ sorts, List.Forall₂ Sorts order sorts → order ≠ [] → ∀ (s : Select Expr) r₀,
      (Expr.select { s with orderBy := [], limit := none, offset := none }).render d .positional = .ok r₀ →
      ∃ r clause, (Expr.select { s with orderBy := sorts.map sortItem }).render d .positional = .ok r ∧
        r.sql = r₀.sql ++ clause ++ pageText d .positional s.limit s.offset ∧
        clause = orderText d id sorts ∧
        Fragment.orderBy d order = .ok (orderText d d.keyword sorts ++ " ") ∧
        ((∀ sort ∈ sorts, ',' ∉ (d.keyword sort.2.text).toList) →
          (Fragment.orderBy d order = .ok (clause ++ " ") ↔ ∀ sort ∈ sorts, d.keyword sort.2.text = sort.2.text)) := by
  refine ⟨fun _ => Fragment.orderBy_eq_error_iff, ?_, ?_, ?_⟩
  · constructor
    · rintro ⟨error, herror⟩
      obtain ⟨word, hword, -⟩ := Fragment.orderBy_eq_error_iff.1 herror
      obtain ⟨pair, hpair, rfl⟩ := List.mem_map.1 hword.mem.1
      exact ⟨pair, hpair, hword.mem.2⟩
    · rintro ⟨pair, hpair, hnot⟩
      rcases Text.all_or_firstUnknown Direction.IsNamed (order.map (·.2)) with hall | ⟨word, hword⟩
      · exact absurd (hall pair.2 (List.mem_map_of_mem hpair)) hnot
      · exact ⟨_, Fragment.orderBy_of_firstUnknown hword⟩
  · rintro rfl
    rfl
  · intro sorts hsorts hne s r₀ hr₀
    have hsome : sorts ≠ [] := by
      rintro rfl
      cases hsorts
      exact hne rfl
    obtain ⟨r, hr, hsql⟩ := render_ordered hsome hr₀
    have hfragment := Fragment.orderBy_of_sorts (d := d) hsorts hne
    refine ⟨r, _, hr, hsql, rfl, hfragment, fun hcommas => ?_⟩
    have hiff := intercalate_sortTexts_eq_iff (d := d) (f := d.keyword) (g := id) fun sort hsort =>
      ⟨hcommas sort hsort, comma_not_mem_text sort.2⟩
    rw [hfragment, Except.ok.injEq, String.append_left_inj, orderText, orderText, String.append_right_inj, hiff]
    rfl

/-- All rows of a table. -/
def allRows : Select Expr := { columns := [], source := some (.name "t") }

/-- The newest rows first. -/
def newestFirst : List (String × Direction) := [("CreatedAt", .descending), ("id", .ascending)]

theorem orders_agree_newestFirst :
    ∃ r clause, (Expr.select { allRows with orderBy := newestFirst.map sortItem }).render .mysql .positional = .ok r ∧
      r.sql = "SELECT * FROM `t`" ++ clause ∧ clause = " ORDER BY `created_at` DESC,`id` ASC" ∧
      Fragment.orderBy .mysql [("CreatedAt", " desc "), ("id", "ASC")] = .ok (clause ++ " ") := by
  have hsorts : List.Forall₂ Sorts [("CreatedAt", " desc "), ("id", "ASC")] newestFirst :=
    .cons ⟨rfl, Direction.namedBy_iff.2 (by decide)⟩ (.cons ⟨rfl, Direction.namedBy_iff.2 (by decide)⟩ .nil)
  obtain ⟨r₀, hr₀, hrows⟩ : ∃ r₀, (Expr.select allRows).render .mysql .positional = .ok r₀ ∧
      r₀.sql = "SELECT * FROM `t`" := ⟨_, rfl, by decide⟩
  obtain ⟨r, clause, hr, hsql, hclause, -, hiff⟩ :=
    (orders_agree .mysql [("CreatedAt", " desc "), ("id", "ASC")]).2.2.2 newestFirst hsorts (by simp) allRows r₀ hr₀
  refine ⟨r, clause, hr, ?_, hclause.trans (by decide), (hiff (by decide)).2 (by decide)⟩
  rw [hsql, hrows]
  exact String.append_empty

/-- A dialect that spells its keywords in small letters. -/
def smallLetters : Dialect :=
  { Dialect.mysql with
    keywords := [("SELECT", "select"), ("FROM", "from"), ("ORDER BY", "order by"), ("ASC", "asc"), ("DESC", "desc")] }

/-- A query keeps the large letters of its directions, and a fragment of the same order does not. -/
theorem orders_differ :
    (∃ r, (Expr.select { allRows with orderBy := [sortItem ("created_at", .descending)] }).render smallLetters .positional =
        .ok r ∧ r.sql = "select * from `t` order by `created_at` DESC") ∧
    Fragment.orderBy smallLetters [("created_at", "desc")] = .ok " order by `created_at` desc " :=
  ⟨⟨_, rfl, by decide⟩, by decide⟩

end Sql
