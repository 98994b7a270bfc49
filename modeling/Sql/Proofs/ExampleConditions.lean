/-
Conditions given as an example and as values.

A map of values gives the conditions of the values themselves, but as its JSON data: decimals, timestamps and values of
other kinds become texts, and texts can be patterns. `ofExample_withValues` says that the two queries have one text
exactly if no value becomes a pattern.
-/
import Sql.Proofs.ColumnValues
import Sql.Proofs.FilterConditions
import Sql.Proofs.Fragments

namespace Sql

namespace Value

/-- A value as an example of it is read. -/
def reread (value : Value) : Value := .ofJson value.toJson

/-- Neither null nor a number that is not finite. -/
def hasData : Value → Bool
  | .null => false
  | .float x => x.isFinite
  | _ => true

/-- No pattern, but a pattern as text: a decimal, a timestamp or a value of another kind. -/
def becomesPattern : Value → Bool
  | .numeric s | .other s => (Value.text s).isPattern
  | .timestamp t => t.shownNanos != 0
  | _ => false

theorem isNull_toJson {value : Value} (h : value.hasData = true) : value.toJson.isNull = false := by
  cases value with
  | null => cases h
  | float x =>
    have hfinite : x.isFinite = true := h
    rw [toJson, if_pos hfinite]
    rfl
  | bool | int | uint | text | bytes | timestamp | numeric | other => rfl

theorem isNull_of_hasData {value : Value} (h : value.hasData = true) : value.isNull = false := by
  cases value <;> first | rfl | cases h

theorem isNull_reread {value : Value} (h : value.hasData = true) : value.reread.isNull = false :=
  isNull_ofJson (isNull_toJson h)

/-! ## Patterns -/

theorem isPattern_append (s t : String) :
    (Value.text (s ++ t)).isPattern = ((Value.text s).isPattern || (Value.text t).isPattern) := by
  simp [isPattern, asText?]

open Number Calendar

theorem isPattern_zeroPadded (width n : Nat) : (Value.text (zeroPadded width n)).isPattern = false := by
  have hdigit {c : Char} (h : c ∈ padLeft '0' width (natDigits n)) : c.isDigit = true := by
    rcases List.mem_append.1 h with hfill | hc
    · rw [List.eq_of_mem_replicate hfill]
      rfl
    · exact isDigit_of_mem_natDigits hc
  have hplain {c : Char} (h : c.isDigit = true) : (c == '%' || c == '?' || c == '.') = false := by
    have hne {special : Char} (hspecial : special.isDigit = false) : (c == special) = false :=
      beq_eq_false_iff_ne.2 fun heq => by rw [heq, hspecial] at h; cases h
    rw [hne (by decide), hne (by decide), hne (by decide)]
    rfl
  rw [isPattern, asText?, Option.any_some, zeroPadded, String.toList_ofList, List.any_eq_false]
  intro c hc
  rw [hplain (hdigit hc)]
  exact Bool.false_ne_true

theorem isPattern_yearText (year : Int) : (Value.text (Timestamp.yearText year)).isPattern = false := by
  unfold Timestamp.yearText
  split
  · exact isPattern_zeroPadded _ _
  · rw [isPattern_append, isPattern_zeroPadded]
    split <;> rfl

/-- A part of a second stands behind a point. -/
theorem isPattern_fractionText (nanos : Nat) :
    (Value.text (Timestamp.fractionText nanos)).isPattern = (nanos != 0) := by
  unfold Timestamp.fractionText
  have hpoint : (Value.text ".").isPattern = true := rfl
  by_cases hzero : nanos = 0
  · rw [if_pos hzero, hzero]
    rfl
  · have hne : (nanos != 0) = true := by simpa using hzero
    rw [if_neg hzero, hne]
    split
    · rw [isPattern_append, hpoint, Bool.true_or]
    · split <;> rw [isPattern_append, hpoint, Bool.true_or]

theorem isPattern_isoText (t : Timestamp) : (Value.text t.isoText).isPattern = (t.shownNanos != 0) := by
  have hdash : (Value.text "-").isPattern = false := rfl
  have htime : (Value.text "T").isPattern = false := rfl
  have hcolon : (Value.text ":").isPattern = false := rfl
  simp only [Timestamp.isoText, isPattern_append, isPattern_zeroPadded, isPattern_yearText, isPattern_fractionText,
    hdash, htime, hcolon, Bool.or_false, Bool.false_or]

theorem isPattern_reread (value : Value) : value.reread.isPattern = (value.isPattern || value.becomesPattern) := by
  cases value with
  | null | bool | text | bytes => simp [reread, toJson, ofJson, isPattern, asText?, becomesPattern]
  | int n | uint n =>
    rw [reread, toJson, ofJson]
    split <;> rfl
  | float x =>
    rw [reread, toJson]
    split <;> rfl
  | timestamp t => exact isPattern_isoText t
  | numeric s | other s => rfl

end Value

namespace Example

/-- A map with texts as keys. -/
def ofPairs (pairs : List (String × Value)) : Example := .map (pairs.map fun pair => (.text pair.1, pair.2))

theorem toJson_ofPairs (pairs : List (String × Value)) :
    (ofPairs pairs).toJson = .ok (Json.ofFields (pairs.map fun pair => (pair.1, pair.2.toJson))) := by
  have hnamed : namedEntries (pairs.map fun pair => (.text pair.1, pair.2)) =
      .ok (pairs.map fun pair => (pair.1, pair.2.toJson)) := by
    induction pairs with
    | nil => rfl
    | cons pair pairs ih =>
      rw [List.map_cons, namedEntries, ih]
      rfl
  rw [ofPairs, toJson, hnamed]
  rfl

/-- Values with data are read from it. -/
theorem dataFields_toJson {entries : List (String × Value)} (hdata : ∀ entry ∈ entries, entry.2.hasData = true) :
    dataFields (.object (entries.map fun entry => (entry.1, entry.2.toJson))) =
      .ok (entries.map fun entry => (entry.1, entry.2.reread)) := by
  rw [dataFields]
  congr 1
  induction entries with
  | nil => rfl
  | cons entry entries ih =>
    obtain ⟨hentry, hentries⟩ := List.forall_mem_cons.1 hdata
    simp only [List.map_cons, List.filterMap_cons, Value.isNull_toJson hentry, Bool.false_eq_true, if_false,
      ih hentries, Value.reread]

theorem fields_ofPairs {pairs : List (String × Value)} (hdata : ∀ pair ∈ pairs, pair.2.hasData = true) :
    (ofPairs pairs).fields = .ok ((Bindings.ofList pairs).entries.map fun entry => (entry.1, entry.2.reread)) := by
  have hfields : (ofPairs pairs).fields =
      (dataFields (Json.ofFields (pairs.map fun pair => (pair.1, pair.2.toJson)))).mapError .serialization := by
    rw [fields, toJson_ofPairs]
    rfl
  rw [hfields, Json.ofFields, Bindings.entries_ofList_map,
    dataFields_toJson fun entry hentry => hdata entry (Bindings.mem_of_mem_ofList hentry)]
  rfl

end Example

namespace Criteria

variable {pairs : List (String × Value)}

theorem withValues_eq (pairs : List (String × Value)) :
    withValues {} pairs = { conditions := .ofList pairs } := rfl

/-- A map of values gives the conditions of the values as they are reread. -/
theorem ofExample_ofPairs (hsnake : ∀ pair ∈ pairs, Text.snake pair.1 = pair.1)
    (hdata : ∀ pair ∈ pairs, pair.2.hasData = true) :
    ∃ b : Bindings Value, ofExample (.ofPairs pairs) = .ok { conditions := b } ∧
      b.entries = (Bindings.ofList pairs).entries.map fun entry => (entry.1, entry.2.reread) := by
  refine ⟨_, ofExample_eq (Example.fields_ofPairs hdata), ?_⟩
  have hnames : ((Bindings.ofList pairs).entries.map fun entry => (entry.1, entry.2.reread)).map
      (fun field => (Text.snake field.1, field.2)) =
        (Bindings.ofList pairs).entries.map fun entry => (entry.1, entry.2.reread) := by
    rw [List.map_map]
    refine List.map_congr_left fun entry hentry => ?_
    rw [Function.comp_apply, hsnake entry (Bindings.mem_of_mem_ofList hentry)]
  rw [hnames, Bindings.entries_ofList_map, Bindings.ofList_entries]

/-! ## Texts -/

/-- A test against a parameter, as a style writes it. -/
def testText (d : Dialect) (style : ParamStyle) (column : String) (value : Value) : String :=
  Fragment.test d (fun column _ => d.placeholderIn style column) column value

/-- How a column is compared shows in the text. -/
theorem isPattern_eq_of_testText {d : Dialect} {style : ParamStyle} {column x y : String} {value value' : Value}
    (h : testText d style column value ++ x = testText d style column value' ++ y) :
    value.isPattern = value'.isPattern := by
  -- The keyword stands behind a blank, whatever it is replaced by.
  have hlike (x y : String) : d.spaced "LIKE" ++ x ≠ "=" ++ y := fun heq => by
    simpa [Dialect.spaced] using congrArg String.toList heq
  simp only [testText, Fragment.test, String.append_assoc, String.append_right_inj] at h
  cases hvalue : value.isPattern <;> cases hvalue' : value'.isPattern <;>
    simp only [hvalue, hvalue', Bool.false_eq_true, if_false, if_true] at h ⊢
  · exact absurd h.symm (hlike _ _)
  · exact absurd h (hlike _ _)

theorem testText_eq_iff {d : Dialect} {style : ParamStyle} {column : String} {value value' : Value} :
    testText d style column value = testText d style column value' ↔ value.isPattern = value'.isPattern := by
  constructor
  · exact fun h => isPattern_eq_of_testText (x := "") (y := "") (by rw [h])
  · intro h
    rw [testText, testText, Fragment.test, Fragment.test, h]

/-! ## Queries -/

variable {b : Bindings Value}

/-- A query up to its WHERE clause. -/
def frontScript (d : Dialect) (table : Expr) (columns : List Expr) : Script :=
  d.word "SELECT" ++ .text " " ++ (if columns.isEmpty then .text "*" else .join (.text ",") (scripts d columns)) ++
    d.spacedWord "FROM" ++ table.script d

/-- The WHERE clause of a query. -/
def whereScript (d : Dialect) (c : Criteria) : Script :=
  d.clause "WHERE" (saysNothing c.condition?) (optionScript d c.condition?)

/-- Criteria that only have conditions make queries that end with their WHERE clause. -/
theorem script_toSelect (d : Dialect) (b : Bindings Value) (table : Expr) (columns : List Expr) :
    (Expr.select (({ conditions := b } : Criteria).toSelect table columns)).script d =
      frontScript d table columns ++ whereScript d { conditions := b } := by
  have hsilent (keyword : String) (body : Script) : d.clause keyword true body = .nil := rfl
  have hnone : saysNothing none = true := rfl
  have hzero : ¬ (0 : UInt64) < 0 := by decide
  simp only [toSelect, Expr.script, Option.isNone_some, Option.isNone_none, Bool.false_eq_true, if_false,
    List.isEmpty_nil, if_true, hzero, hnone, hsilent, page_none, Script.append_nil, optionScript, frontScript,
    whereScript]

/-- The text of the WHERE clause of conditions that are not null. -/
def whereText (d : Dialect) (style : ParamStyle) (entries : List (String × Value)) : String :=
  if entries.isEmpty then ""
  else d.spaced "WHERE" ++ (d.spaced "AND").intercalate (entries.map fun entry => testText d style entry.1 entry.2)

theorem spells_where (d : Dialect) (style : ParamStyle) (hnull : ∀ entry ∈ b.entries, entry.2.isNull = false) :
    (whereScript d { conditions := b }).Spells d style (whereText d style b.entries) := by
  cases hentries : b.entries with
  | nil =>
    rw [whereScript, condition?_eq_none (c := { conditions := b }) hentries]
    exact .nil
  | cons entry entries =>
    have hsome : b.entries ≠ [] := by simp [hentries]
    have hand : d.separator .and = d.spacedWord "AND" := rfl
    have hshows := fun entry hentry => Fragment.shows_parameter d style entry.1 (hnull entry hentry)
    have htests := Fragment.spells_equalities hand hshows
    simp only [Piece.textIn_parameter] at htests
    have htested : saysNothing ({ conditions := b } : Criteria).condition? = false := by
      rw [condition?_eq (c := { conditions := b }) hsome, hentries]
      rfl
    rw [whereScript, htested, Fragment.condition?_eq_equalities (c := { conditions := b }) hsome, Dialect.clause,
      if_neg Bool.false_ne_true, optionScript, ← hentries, whereText, if_neg (by simp [hentries])]
    exact (spells_spacedWord "WHERE").append htests

/-- The WHERE clause keeps its text exactly if no value becomes a pattern. -/
theorem whereText_reread_iff (d : Dialect) (style : ParamStyle) (entries : List (String × Value)) :
    whereText d style (entries.map fun entry => (entry.1, entry.2.reread)) = whereText d style entries ↔
      ∀ entry ∈ entries, entry.2.becomesPattern = false := by
  have hpattern (value : Value) : value.reread.isPattern = value.isPattern ↔ value.becomesPattern = false := by
    rw [Value.isPattern_reread]
    cases value <;> simp [Value.isPattern, Value.asText?, Value.becomesPattern]
  have htests (separator : String) :
      separator.intercalate (entries.map fun entry => testText d style entry.1 entry.2.reread) =
        separator.intercalate (entries.map fun entry => testText d style entry.1 entry.2) ↔
          ∀ entry ∈ entries, entry.2.becomesPattern = false := by
    rw [intercalate_map_eq_iff fun entry _ x y h => testText_eq_iff.2 (isPattern_eq_of_testText h)]
    simp only [testText_eq_iff, hpattern]
  rw [whereText, whereText, List.isEmpty_map]
  cases hempty : entries.isEmpty with
  | true => simp [List.isEmpty_iff.1 hempty]
  | false => simpa [String.append_right_inj, Function.comp_def] using htests (d.spaced "AND")

section

variable {d : Dialect} {table : Expr} {columns : List Expr} (hnull : ∀ entry ∈ b.entries, entry.2.isNull = false)

include hnull

/-- A query is refused for what stands before its conditions. -/
theorem toSelect_error_iff {error : Error} :
    (Expr.select (({ conditions := b } : Criteria).toSelect table columns)).render d .positional = .error error ↔
      (frontScript d table columns).fault.map .invalidQuery = some error := by
  have hfault := (spells_where d .positional hnull).fault
  rw [render_positional, script_toSelect, Script.fault_append, hfault, Option.or_none]
  cases (frontScript d table columns).fault <;> simp

theorem sql_toSelect {r : Rendered}
    (hr : (Expr.select (({ conditions := b } : Criteria).toSelect table columns)).render d .positional = .ok r) :
    r.sql = (frontScript d table columns).textIn d .positional ++ whereText d .positional b.entries := by
  obtain ⟨hfault, hsql⟩ := render_ok hr
  rw [script_toSelect] at hfault hsql
  have hwhere := (spells_where d .positional hnull).text
  rw [hsql, Script.textIn_append d .positional (Script.fault_append_eq_none.1 hfault).1, hwhere]

end

/-- The WHERE clause compares a column with LIKE. -/
def UsesLike (c : Criteria) (column : String) : Prop := ∃ right, c.HasTest ⟨.name column, .like, right⟩

theorem testOp_eq_like {value : Value} : testOp value = .like ↔ value.isPattern = true := by
  unfold testOp
  cases value with
  | null => decide
  | bool | int | uint | float | text | bytes | timestamp | numeric | other => simp [Value.isNull]

theorem usesLike_iff {c : Criteria} {column : String} :
    c.UsesLike column ↔ ∃ value, (column, value) ∈ c.conditions.entries ∧ value.isPattern = true := by
  simp only [UsesLike, hasTest_iff]
  constructor
  · rintro ⟨right, ⟨column', value⟩, hmem, htest⟩
    injection htest with hcolumn hop _
    injection hcolumn with _ hcolumn
    obtain rfl : column' = column := hcolumn
    exact ⟨value, hmem, testOp_eq_like.1 hop⟩
  · rintro ⟨value, hmem, hpattern⟩
    refine ⟨testOperand column value, (column, value), hmem, ?_⟩
    rw [testOp_eq_like.2 hpattern]

/-- **Examples and values**: a map of values gives a query that is refused as the query with these values is, and that
has the same text exactly if no value becomes a pattern. LIKE is used for the values that are patterns, and in the query
of the map for those that become patterns too. -/
theorem ofExample_withValues (hnames : (pairs.map (·.1)).Nodup) (hsnake : ∀ pair ∈ pairs, Text.snake pair.1 = pair.1)
    (hdata : ∀ pair ∈ pairs, pair.2.hasData = true) :
    ∃ c, ofExample (.ofPairs pairs) = .ok c ∧
      (∀ d table columns,
        (∀ error, (Expr.select (c.toSelect table columns)).render d .positional = .error error ↔
          (Expr.select ((withValues {} pairs).toSelect table columns)).render d .positional = .error error) ∧
        ∀ r r', (Expr.select (c.toSelect table columns)).render d .positional = .ok r →
          (Expr.select ((withValues {} pairs).toSelect table columns)).render d .positional = .ok r' →
          (r.sql = r'.sql ↔ ∀ pair ∈ pairs, pair.2.becomesPattern = false)) ∧
      ∀ column,
        ((withValues {} pairs).UsesLike column ↔
          ∃ value, (column, value) ∈ pairs ∧ value.isPattern = true) ∧
        (c.UsesLike column ↔
          ∃ value, (column, value) ∈ pairs ∧ (value.isPattern = true ∨ value.becomesPattern = true)) := by
  obtain ⟨b, hb, hentries⟩ := ofExample_ofPairs hsnake hdata
  have hall {P : String × Value → Prop} :
      (∀ entry ∈ (Bindings.ofList pairs).entries, P entry) ↔ ∀ pair ∈ pairs, P pair := by
    simp only [Bindings.mem_entries_ofList hnames]
  have hvalues : ∀ entry ∈ (Bindings.ofList pairs).entries, entry.2.isNull = false :=
    hall.2 fun pair hpair => Value.isNull_of_hasData (hdata pair hpair)
  have hreread : ∀ entry ∈ b.entries, entry.2.isNull = false := by
    rw [hentries, List.forall_mem_map]
    exact hall.2 fun pair hpair => Value.isNull_reread (hdata pair hpair)
  rw [withValues_eq]
  refine ⟨_, hb, fun d table columns => ⟨fun error => ?_, fun r r' hr hr' => ?_⟩, fun column => ⟨?_, ?_⟩⟩
  -- Up to the WHERE clause both queries are one script, so they are refused together and differ there if at all.
  · rw [toSelect_error_iff hreread, toSelect_error_iff hvalues]
  · rw [sql_toSelect hreread hr, sql_toSelect hvalues hr', String.append_right_inj, hentries, whereText_reread_iff,
      hall]
  · simp only [usesLike_iff, Bindings.mem_entries_ofList hnames]
  · rw [usesLike_iff, hentries]
    constructor
    · rintro ⟨value, hmem, hpattern⟩
      obtain ⟨⟨column', value'⟩, hentry, hpair⟩ := List.mem_map.1 hmem
      obtain ⟨rfl, rfl⟩ := Prod.mk.inj hpair
      refine ⟨value', (Bindings.mem_entries_ofList hnames).1 hentry, ?_⟩
      rwa [Value.isPattern_reread, Bool.or_eq_true] at hpattern
    · rintro ⟨value, hpair, hpattern⟩
      refine ⟨value.reread, List.mem_map.2 ⟨(column, value), (Bindings.mem_entries_ofList hnames).2 hpair, rfl⟩, ?_⟩
      rwa [Value.isPattern_reread, Bool.or_eq_true]

/-- A pattern, a decimal without a point, and an instant without a part of a second. -/
def plainPairs : List (String × Value) :=
  [("name", .text "gn%"), ("price", .numeric "15"), ("seen_at", .timestamp ⟨⟨2024, 2, 29⟩, 23, 59, 59, 0⟩)]

theorem ofExample_withValues_plainPairs :
    ∃ c, ofExample (.ofPairs plainPairs) = .ok c ∧ c.UsesLike "name" ∧ ¬ c.UsesLike "price" ∧
      ∀ r r', (Expr.select (c.toSelect (.name "plan") [])).render .mysql .positional = .ok r →
        (Expr.select ((withValues {} plainPairs).toSelect (.name "plan") [])).render .mysql .positional = .ok r' →
        r.sql = r'.sql := by
  have hnames : (plainPairs.map (·.1)).Nodup := by decide
  have hplain : ∀ pair ∈ plainPairs, pair.2.becomesPattern = false := by decide
  obtain ⟨c, hc, hqueries, hlike⟩ := ofExample_withValues hnames (by decide) (by decide)
  refine ⟨c, hc, (hlike "name").2.2 ⟨_, List.mem_cons_self, .inl rfl⟩, ?_, ?_⟩
  · rw [(hlike "price").2]
    rintro ⟨value, hmem, hpattern⟩
    obtain rfl : value = .numeric "15" := by simpa [plainPairs] using hmem
    exact absurd hpattern (by decide)
  · exact fun r r' hr hr' => ((hqueries .mysql _ _).2 r r' hr hr').2 hplain

/-- A value of another kind, a decimal and an instant, which are patterns as texts. -/
def pointedPairs : List (String × Value) :=
  [("host", .other "10.0.0.1"), ("price", .numeric "1.5"),
    ("seen_at", .timestamp ⟨⟨2024, 2, 29⟩, 23, 59, 59, 500000000⟩)]

theorem ofExample_pointedPairs :
    ∃ c r r', ofExample (.ofPairs pointedPairs) = .ok c ∧ (pointedPairs.map (·.1)).Nodup ∧
      (∀ pair ∈ pointedPairs, Text.snake pair.1 = pair.1 ∧ pair.2.hasData = true) ∧
      (Expr.select (c.toSelect (.name "plan") [])).render .sqlServer .positional = .ok r ∧
      (Expr.select ((withValues {} pointedPairs).toSelect (.name "plan") [])).render .sqlServer .positional = .ok r' ∧
      r.sql = "SELECT * FROM [plan] WHERE [host] LIKE ? AND [price] LIKE ? AND [seen_at] LIKE ?" ∧
      r'.sql = "SELECT * FROM [plan] WHERE [host]=? AND [price]=? AND [seen_at]=?" :=
  ⟨_, _, _, rfl, by decide, by decide, (Expr.render_eq _ _ _).trans rfl, (Expr.render_eq _ _ _).trans rfl, rfl, rfl⟩

end Criteria

end Sql
