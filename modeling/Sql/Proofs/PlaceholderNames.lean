/-
Placeholders in the text of a query by example.

`placeholderNames` finds the names behind the marks of placeholders, as far as they are made of letters, digits and
underscores. `ofExample_placeholders` says when these are the names of the arguments: unless a key was a dotted path or held
a capital I with a dot above.
-/
import Mathlib.Data.List.TakeWhile
import Sql.Proofs.ByExample
import Sql.Proofs.CriteriaSteps
import Sql.Proofs.Lexer
import Sql.Proofs.SnakeNames

namespace Sql

open Text

/-! ## Reading a text -/

/-- The names behind the marks of a text outside of quoted names, each as long as it can be. -/
def markedNames (d : Dialect) : List Char → List (List Char)
  | [] => []
  | c :: cs =>
    if c = d.openQuote then
      match _h : Quoting.readDoubled d.closeQuote cs with
      | none => []
      | some (_, rest) => markedNames d rest
    else if c = d.nameMark then cs.takeWhile isNameChar :: markedNames d (cs.dropWhile isNameChar)
    else markedNames d cs
termination_by cs => cs.length
decreasing_by
  · have := Quoting.readDoubled_length _h
    simp only [List.length_cons]
    omega
  · have := Lexer.length_dropWhile isNameChar cs
    simp only [List.length_cons]
    omega
  · simp

/-- The names of the placeholders of a text. -/
def placeholderNames (d : Dialect) (sql : String) : List String := (markedNames d sql.toList).map String.ofList

/-- Neither a mark nor a quote. -/
def Dialect.Plain (d : Dialect) (c : Char) : Prop := c ≠ d.openQuote ∧ c ≠ d.nameMark

instance (d : Dialect) (c : Char) : Decidable (d.Plain c) := inferInstanceAs (Decidable (_ ∧ _))

/-- What may follow a name or a quoted name. -/
def Dialect.Bounds (d : Dialect) (text : List Char) : Prop := ∀ c ∈ text.head?, isNameChar c = false ∧ c ≠ d.closeQuote

/-- A text that begins with a character that belongs neither to a name nor to a quoted name before it. -/
def Breaks (d : Dialect) (x : String) : Prop := ∃ c cs, x.toList = c :: cs ∧ isNameChar c = false ∧ c ≠ d.closeQuote

/-- A text without placeholders, whatever follows it. -/
def Skips (d : Dialect) (x : String) : Prop := ∀ rest, markedNames d (x.toList ++ rest) = markedNames d rest

/-- A text with these placeholders, if what follows it does not belong to its last name. -/
def Marks (d : Dialect) (x : String) (names : List (List Char)) : Prop :=
  ∀ rest, d.Bounds rest → markedNames d (x.toList ++ rest) = names ++ markedNames d rest

section

variable {d : Dialect} {x y : String} {names names' : List (List Char)}

theorem markedNames_nil (d : Dialect) : markedNames d [] = [] := by rw [markedNames]

theorem markedNames_plain {c : Char} (hc : d.Plain c) (cs : List Char) : markedNames d (c :: cs) = markedNames d cs := by
  rw [markedNames, if_neg hc.1, if_neg hc.2]

theorem markedNames_quote {cs name rest : List Char} (h : Quoting.readDoubled d.closeQuote cs = some (name, rest)) :
    markedNames d (d.openQuote :: cs) = markedNames d rest := by
  rw [markedNames, if_pos rfl]
  split
  · next hnone =>
    rw [h] at hnone
    cases hnone
  · next hsome =>
    rw [h] at hsome
    cases hsome
    rfl

theorem markedNames_mark (hd : d.nameMark ≠ d.openQuote) (cs : List Char) :
    markedNames d (d.nameMark :: cs) = cs.takeWhile isNameChar :: markedNames d (cs.dropWhile isNameChar) := by
  rw [markedNames, if_neg hd, if_pos rfl]

theorem markedNames_plains {cs : List Char} (h : ∀ c ∈ cs, d.Plain c) (rest : List Char) :
    markedNames d (cs ++ rest) = markedNames d rest := by
  induction cs with
  | nil => rfl
  | cons c cs ih =>
    obtain ⟨hc, hcs⟩ := List.forall_mem_cons.1 h
    rw [List.cons_append, markedNames_plain hc, ih hcs]

/-! ## Parts of a text -/

theorem Breaks.bounds (h : Breaks d x) (rest : List Char) : d.Bounds (x.toList ++ rest) := by
  obtain ⟨c, cs, hx, hc⟩ := h
  rw [hx]
  rintro _ ⟨⟩
  exact hc

theorem Breaks.append (h : Breaks d x) (y : String) : Breaks d (x ++ y) := by
  obtain ⟨c, cs, hx, hc⟩ := h
  exact ⟨c, cs ++ y.toList, by rw [String.toList_append, hx, List.cons_append], hc⟩

theorem Skips.plain (h : ∀ c ∈ x.toList, d.Plain c) : Skips d x := markedNames_plains h

theorem Skips.append (hx : Skips d x) (hy : Skips d y) : Skips d (x ++ y) := by
  intro rest
  rw [String.toList_append, List.append_assoc, hx, hy]

theorem Skips.marks (hx : Skips d x) (hy : Marks d y names) : Marks d (x ++ y) names := by
  intro rest hrest
  rw [String.toList_append, List.append_assoc, hx, hy rest hrest]

theorem Marks.empty : Marks d "" [] := fun _ _ => rfl

theorem Marks.append (hx : Marks d x names) (hbreaks : Breaks d y) (hy : Marks d y names') :
    Marks d (x ++ y) (names ++ names') := by
  intro rest hrest
  rw [String.toList_append, List.append_assoc, hx _ (hbreaks.bounds rest), hy rest hrest, List.append_assoc]

/-- A quoted name with plain text behind it. -/
theorem Marks.skips (hx : Marks d x []) (hbreaks : Breaks d y) (hy : Skips d y) : Skips d (x ++ y) := by
  intro rest
  rw [String.toList_append, List.append_assoc, hx _ (hbreaks.bounds rest), List.nil_append, hy]

theorem Marks.quote (name : String) : Marks d (d.quote name) [] := by
  intro rest hrest
  have hclose : rest.head? ≠ some d.closeQuote := fun h => (hrest _ h).2 rfl
  rw [Dialect.quote, String.toList_ofList, Dialect.quoteChars, List.cons_append, List.cons_append, List.append_assoc,
    List.cons_append, List.nil_append]
  exact markedNames_quote (Quoting.readDoubled_double hclose name.toList)

/-- A run of name characters does not go on into what may follow it. -/
theorem takeWhile_append_bounded {rest : List Char} (hrest : d.Bounds rest) (cs : List Char) :
    (cs ++ rest).takeWhile isNameChar = cs.takeWhile isNameChar ∧
      (cs ++ rest).dropWhile isNameChar = cs.dropWhile isNameChar ++ rest := by
  induction cs with
  | nil =>
    cases rest with
    | nil => exact ⟨rfl, rfl⟩
    | cons c rest =>
      have hc : isNameChar c = false := (hrest c rfl).1
      simp [hc]
  | cons c cs ih =>
    cases hc : isNameChar c with
    | true => simp [hc, ih.1, ih.2]
    | false => simp [hc]

/-- A placeholder is found as far as its name is one. -/
theorem Marks.placeholder (hd : d.nameMark ≠ d.openQuote) {name : String} (hname : ∀ c ∈ name.toList, d.Plain c) :
    Marks d (d.namedParameter name) [name.toList.takeWhile isNameChar] := by
  intro rest hrest
  obtain ⟨htake, hdrop⟩ := takeWhile_append_bounded hrest name.toList
  have hplain : ∀ c ∈ name.toList.dropWhile isNameChar, d.Plain c := fun c hc =>
    hname c ((List.dropWhile_sublist _).subset hc)
  rw [Dialect.namedParameter, String.toList_append, String.toList_singleton, List.cons_append, List.cons_append,
    List.nil_append, markedNames_mark hd, htake, hdrop, markedNames_plains hplain, List.cons_append, List.nil_append]

theorem Marks.intercalate {separator : String} (hseparator : Skips d separator) (hbreaks : Breaks d separator)
    {es : List α} {f : α → String} {g : α → List (List Char)} (h : ∀ e ∈ es, Marks d (f e) (g e)) :
    Marks d (separator.intercalate (es.map f)) (es.flatMap g) := by
  induction es with
  | nil => exact .empty
  | cons e es ih =>
    obtain ⟨he, hes⟩ := List.forall_mem_cons.1 h
    cases es with
    | nil => simpa using he
    | cons e' es =>
      rw [List.map_cons, String.intercalate_cons_of_ne_nil (by simp), String.append_assoc, List.flatMap_cons]
      exact he.append (hbreaks.append _) (hseparator.marks (ih hes))

theorem Skips.empty : Skips d "" := fun _ => rfl

theorem Skips.join {parts : List String} (h : ∀ part ∈ parts, Skips d part) : Skips d (String.join parts) := by
  induction parts with
  | nil => exact .empty
  | cons part parts ih =>
    obtain ⟨hpart, hparts⟩ := List.forall_mem_cons.1 h
    rw [String.join_cons]
    exact hpart.append (ih hparts)

end

/-! ## Parts of a query -/

/-- A column that is written whole, binds nothing and shows no placeholder. -/
structure Expr.Quiet (d : Dialect) (e : Expr) : Prop where
  fault : (e.script d).fault = none
  parameters : e.parameters d.pagination = []
  marks : Marks d (e.textIn d .named) []

/-- The keywords of queries by example. -/
def queryWords : List String := ["SELECT", "FROM", "WHERE", "AND", "LIKE", "AS"]

section

variable {d : Dialect} (hd : d = .mysql ∨ d = .sqlServer)

include hd

theorem mark_ne_quote : d.nameMark ≠ d.openQuote := by rcases hd with rfl | rfl <;> decide

theorem plain_of_isNameChar {c : Char} (hc : isNameChar c = true) : d.Plain c := by
  have hspecial : isNameChar d.openQuote = false ∧ isNameChar d.nameMark = false := by
    rcases hd with rfl | rfl <;> decide
  constructor
  · rintro rfl
    rw [hspecial.1] at hc
    cases hc
  · rintro rfl
    rw [hspecial.2] at hc
    cases hc

/-- No name in snake case holds a mark or a quote. -/
theorem plain_snake {name : String} : ∀ c ∈ (snake name).toList, d.Plain c := by
  intro c hc
  obtain hname | rfl | rfl := mem_snake hc
  · exact plain_of_isNameChar hd hname
  · rcases hd with rfl | rfl <;> decide
  · rcases hd with rfl | rfl <;> decide

theorem skips_signs {x : String} (hx : x ∈ [" ", ",", ".", "=", "*", ""]) : Skips d x := by
  have hplain : ∀ x ∈ [" ", ",", ".", "=", "*", ""], (x.toList.all fun c => decide (d.Plain c)) = true := by
    rcases hd with rfl | rfl <;> decide
  exact .plain (forall_mem_of_all (hplain x hx))

theorem skips_keyword {w : String} (hw : w ∈ queryWords) : Skips d (d.keyword w) := by
  have hplain : ∀ w ∈ queryWords, ((d.keyword w).toList.all fun c => decide (d.Plain c)) = true := by
    rcases hd with rfl | rfl <;> decide
  exact .plain (forall_mem_of_all (hplain w hw))

theorem skips_spaced {w : String} (hw : w ∈ queryWords) : Skips d (d.spaced w) := by
  have hblank : Skips d " " := skips_signs hd (by decide)
  exact (hblank.append (skips_keyword hd hw)).append hblank

theorem breaks_signs {x : String} (hx : x ∈ [" ", ",", ".", "="]) : Breaks d x := by
  simp only [List.mem_cons, List.not_mem_nil, or_false] at hx
  rcases hd with rfl | rfl <;> rcases hx with rfl | rfl | rfl | rfl <;> exact ⟨_, _, rfl, by decide, by decide⟩

theorem breaks_spaced (w : String) : Breaks d (d.spaced w) := ((breaks_signs hd (by decide)).append _).append _

/-! ## Names -/

theorem marks_identifierText (qualifiers : List String) (name : String) : Marks d (d.identifierText qualifiers name) [] := by
  have hqualifier (q : String) : Skips d (d.quote q ++ ".") :=
    (Marks.quote q).skips (breaks_signs hd (by decide)) (skips_signs hd (by decide))
  exact (Skips.join (List.forall_mem_map.2 fun q _ => hqualifier q)).marks (.quote name)

theorem quiet_identifier (qualifiers : List String) (name : String) : (Expr.identifier qualifiers name).Quiet d where
  fault := rfl
  parameters := rfl
  marks := by
    rw [Expr.textIn, Expr.script, Script.textIn_text]
    exact marks_identifierText hd qualifiers name

theorem quiet_star : Expr.star.Quiet d where
  fault := rfl
  parameters := rfl
  marks := by
    rw [Expr.textIn, Expr.star, Expr.script, Script.textIn_text]
    exact (skips_signs hd (x := "*") (by decide)).marks .empty

theorem quiet_alias {e : Expr} (he : e.Quiet d) (name : String) : (Expr.alias e name).Quiet d := by
  have hspells : (Expr.alias e name).Spells d .named (e.textIn d .named ++ d.spaced "AS" ++ d.quote name) := by
    rw [Expr.Spells, Expr.script]
    exact ((spells_textIn he.fault).append (spells_spacedWord "AS")).append (.literal _)
  refine ⟨hspells.fault, by rw [Expr.parameters, he.parameters], ?_⟩
  have htext : (Expr.alias e name).textIn d .named = _ := hspells.text
  rw [htext, String.append_assoc]
  exact he.marks.append ((breaks_spaced hd "AS").append _) ((skips_spaced hd (by decide)).marks (.quote name))

/-- The test of a column has one placeholder. -/
theorem marks_columnText {column : String} {value : Value} (hnull : value.isNull = false)
    (hcolumn : ∀ c ∈ column.toList, d.Plain c) :
    Marks d (Criteria.columnText d .named (column, value)) [column.toList.takeWhile isNameChar] := by
  have hplaceholder : Marks d (d.placeholderIn .named column) [column.toList.takeWhile isNameChar] :=
    .placeholder (mark_ne_quote hd) hcolumn
  have hequal : Marks d (d.quote column ++ "=" ++ d.placeholderIn .named column) [column.toList.takeWhile isNameChar] :=
    ((Marks.quote column).skips (breaks_signs hd (by decide)) (skips_signs hd (by decide))).marks hplaceholder
  cases value with
  | null => cases hnull
  | text s =>
    rw [Criteria.columnText]
    split
    · exact ((Marks.quote column).skips (breaks_spaced hd "LIKE") (skips_spaced hd (by decide))).marks hplaceholder
    · exact hequal
  | bool | int | uint | float | bytes | timestamp | numeric | other => exact hequal

/-! ## Queries -/

variable {b : Bindings Value} (hnull : ∀ entry ∈ b.entries, entry.2.isNull = false)
  (hnames : ∀ entry ∈ b.entries, ∀ c ∈ entry.1.toList, d.Plain c)

include hnull hnames

/-- The tests of a query have one placeholder each. -/
theorem marks_testsText {front : String} (hfront : Marks d front []) :
    Marks d (front ++ Criteria.testsText d .named b.entries)
      (b.entries.map fun entry => entry.1.toList.takeWhile isNameChar) := by
  rw [Criteria.testsText]
  cases hempty : b.entries.isEmpty with
  | true => simpa [List.isEmpty_iff.1 hempty] using hfront
  | false =>
    rw [if_neg Bool.false_ne_true]
    have htests := Marks.intercalate (skips_spaced hd (by decide)) (breaks_spaced hd "AND")
      fun entry hentry => marks_columnText hd (hnull entry hentry) (hnames entry hentry)
    rw [← List.map_eq_flatMap] at htests
    exact hfront.append ((breaks_spaced hd "WHERE").append _) ((skips_spaced hd (by decide)).marks htests)

theorem marks_toSelect (qualifiers : List String) (name : String) {columns : List Expr}
    (hcolumns : ∀ e ∈ columns, e.Quiet d) :
    Marks d (d.keyword "SELECT" ++ " " ++ (if columns.isEmpty then "*" else commaText d .named columns) ++
        (d.spaced "FROM" ++ (Expr.identifier qualifiers name).textIn d .named ++ Criteria.testsText d .named b.entries))
      (b.entries.map fun entry => entry.1.toList.takeWhile isNameChar) := by
  have hprojection : Marks d (if columns.isEmpty then "*" else commaText d .named columns) [] := by
    split
    · exact (skips_signs hd (x := "*") (by decide)).marks .empty
    · have hcommas := Marks.intercalate (g := fun _ => []) (skips_signs hd (x := ",") (by decide))
        (breaks_signs hd (by decide)) fun e he => (hcolumns e he).marks
      have hnone : columns.flatMap (fun _ => ([] : List (List Char))) = [] := by simp
      rwa [hnone] at hcommas
  have hselect : Skips d (d.keyword "SELECT" ++ " ") := (skips_keyword hd (by decide)).append (skips_signs hd (by decide))
  have htable : Marks d (d.spaced "FROM" ++ (Expr.identifier qualifiers name).textIn d .named) [] :=
    (skips_spaced hd (by decide)).marks (quiet_identifier hd qualifiers name).marks
  exact (hselect.marks hprojection).append (((breaks_spaced hd "FROM").append _).append _)
    (marks_testsText hd hnull hnames htable)

end

namespace Criteria

section

variable {d : Dialect} {style : ParamStyle} {b : Bindings Value} {table : Expr} {columns : List Expr}

/-- A query with conditions only has their text behind its table, and their values for arguments. -/
theorem render_conditions (hd : style = .named → d.supportsNamed = true) (htable : table.isIdentifier = true)
    (hcolumns : ∀ e ∈ columns, e.Quiet d) (hnull : ∀ entry ∈ b.entries, entry.2.isNull = false) :
    ∃ args, (Expr.select (({ conditions := b } : Criteria).toSelect table columns)).render d style =
        .ok ⟨d.keyword "SELECT" ++ " " ++ (if columns.isEmpty then "*" else commaText d style columns) ++
          (d.spaced "FROM" ++ table.textIn d style ++ testsText d style b.entries), args⟩ ∧
      args.Hold style b.entries := by
  let c : Criteria := { conditions := b }
  have hcondition : ∀ e ∈ saying? c.condition?, (e.script d).fault = none := by
    intro e he
    have hmem : c.condition? = some e := (Option.filter_eq_some_iff.1 he).1
    simpa [hmem, optionScript] using c.fault_condition d
  have hfault : ((Expr.select (c.toSelect table columns)).script d).fault = none := by
    refine (fault_query rfl).2 ⟨fun e he => (hcolumns e he).fault, ?_, hcondition, ?_, ?_, List.forall_mem_nil _⟩
    · rintro _ ⟨⟩
      exact fault_identifier htable d
    · exact fun _ h => absurd h (Option.not_mem_none _)
    · exact fun _ h => absurd h (Option.not_mem_none _)
  have hend : (c.toSelect table columns).endText d style = "" := by
    unfold Select.endText pageText
    cases d.pagination <;> rfl
  have hspells : (Expr.select (c.toSelect table columns)).Spells d style _ := spells_query hfault
  rw [rowsText_toSelect, hend, String.append_empty] at hspells
  have hcolumnsNone : allParameters d.pagination columns = [] := by
    rw [allParameters_eq, List.flatMap_eq_nil_iff]
    exact fun e he => (hcolumns e he).parameters
  exact render_of_spells hd hspells (parameters_conditions _ htable hcolumnsNone hnull) b.names_nodup

end

/-- The placeholders of a query by example are the names of its arguments, each as far as it is made of name characters. -/
theorem render_ofExample {d : Dialect} (hd : d = .mysql ∨ d = .sqlServer) {x : Example} {c : Criteria} (hc : ofExample x = .ok c)
    (qualifiers : List String) (name : String) {columns : List Expr} (hcolumns : ∀ e ∈ columns, e.Quiet d) :
    ∃ sql, (Expr.select (c.toSelect (.identifier qualifiers name) columns)).render d .named = .ok ⟨sql, .named c.conditions⟩ ∧
      placeholderNames d sql =
        c.conditions.entries.map fun entry => String.ofList (entry.1.toList.takeWhile isNameChar) := by
  have hnull := isNull_of_mem_ofExample hc
  cases hfields : x.fields with
  | error error =>
    rw [ofExample, Example.columnFields, hfields] at hc
    cases hc
  | ok fields =>
    obtain rfl := Except.ok.inj ((ofExample_eq hfields).symm.trans hc)
    have hplain : ∀ entry ∈ (Bindings.ofList (fields.map fun field => (Text.snake field.1, field.2))).entries,
        ∀ c ∈ entry.1.toList, d.Plain c := by
      intro entry hentry
      obtain ⟨field, -, rfl⟩ := List.mem_map.1 (Bindings.mem_of_mem_ofList hentry)
      exact plain_snake hd
    have hstyle : ParamStyle.named = .named → d.supportsNamed = true := fun _ => by rcases hd with rfl | rfl <;> rfl
    have htable : (Expr.identifier qualifiers name).isIdentifier = true := rfl
    obtain ⟨_, hrender, values, rfl, hvalues⟩ := render_conditions hstyle htable hcolumns hnull
    obtain rfl : values = Bindings.ofList (fields.map fun field => (Text.snake field.1, field.2)) := by
      refine Bindings.ext_of_mem ?_
      rintro ⟨name, value⟩
      rw [← Bindings.get?_eq_some_iff, hvalues]
    refine ⟨_, hrender, ?_⟩
    have hmarked := marks_toSelect hd hnull hplain qualifiers name hcolumns [] fun _ h => absurd h (Option.not_mem_none _)
    rw [List.append_nil, markedNames_nil, List.append_nil] at hmarked
    rw [placeholderNames, hmarked, List.map_map]
    rfl

/-- **Placeholders of a query by example** have the names of its arguments exactly if no key is a dotted path or holds a
capital I with a dot above. -/
theorem ofExample_placeholders {d : Dialect} (hd : d = .mysql ∨ d = .sqlServer) {x : Example}
    {fields : List (String × Value)} (hfields : x.fields = .ok fields) (qualifiers : List String) (name : String)
    {columns : List Expr} (hcolumns : ∀ e ∈ columns, e.Quiet d) :
    ∃ c sql values, ofExample x = .ok c ∧
      (Expr.select (c.toSelect (.identifier qualifiers name) columns)).render d .named = .ok ⟨sql, .named values⟩ ∧
      ((∀ field ∈ fields, '.' ∉ field.1.toList ∧ '\u0130' ∉ field.1.toList) →
        placeholderNames d sql = values.entries.map (·.1)) ∧
      ((∀ name, name ∈ placeholderNames d sql ↔ name ∈ values.entries.map (·.1)) →
        ∀ field ∈ fields, '.' ∉ field.1.toList ∧ '\u0130' ∉ field.1.toList) := by
  have hc := ofExample_eq hfields
  obtain ⟨sql, hrender, hfound⟩ := render_ofExample hd hc qualifiers name hcolumns
  refine ⟨_, sql, _, hc, hrender, fun hkeys => ?_, fun hsame field hfield => ?_⟩
  · rw [hfound]
    refine List.map_congr_left fun entry hentry => ?_
    obtain ⟨field, hfield, rfl⟩ := List.mem_map.1 (Bindings.mem_of_mem_ofList hentry)
    -- A name of name characters only is found whole.
    have hall := (Text.snake_isName_iff field.1).2 (hkeys field hfield)
    rw [List.takeWhile_eq_self_iff.2 hall, String.ofList_toList]
  · have hgiven : Text.snake field.1 ∈ (fields.map fun field => (Text.snake field.1, field.2)).map (·.1) :=
      List.mem_map_of_mem (List.mem_map_of_mem hfield)
    have hmarked := (hsame (Text.snake field.1)).2 (Bindings.mem_names_ofList.2 hgiven)
    rw [hfound] at hmarked
    obtain ⟨entry, -, hname⟩ := List.mem_map.1 hmarked
    rw [← Text.snake_isName_iff, ← hname, String.toList_ofList]
    exact fun c hc => List.all_eq_true.1 List.all_takeWhile c hc

/-- Keys in camel case, with letters beyond ASCII, with digits, and without any letter. -/
def plainKeys : Example :=
  .data (.ofFields [("userName", .text "gn%"), ("Größe", .integer 3), ("2nd", .bool true), ("--", .integer 0)])

theorem ofExample_placeholders_plainKeys :
    ∃ c sql values, ofExample plainKeys = .ok c ∧
      (Expr.select (c.toSelect (.name "user") [.star, .alias (.name "plan") "p"])).render .sqlServer .named =
        .ok ⟨sql, .named values⟩ ∧
      placeholderNames .sqlServer sql = values.entries.map (·.1) := by
  have hserver : Dialect.sqlServer = .mysql ∨ Dialect.sqlServer = .sqlServer := .inr rfl
  have hcolumns : ∀ e ∈ [Expr.star, .alias (.name "plan") "p"], e.Quiet .sqlServer :=
    List.forall_mem_cons.2 ⟨quiet_star hserver,
      List.forall_mem_singleton.2 (quiet_alias hserver (quiet_identifier hserver [] "plan") "p")⟩
  obtain ⟨c, sql, values, hc, hrender, hfound, -⟩ :=
    ofExample_placeholders hserver (x := plainKeys) rfl [] "user" hcolumns
  exact ⟨c, sql, values, hc, hrender, hfound (by decide)⟩

/-- A path, and a word that begins with a capital I with a dot above. -/
def cutKeys : Example := .data (.ofFields [("user.id", .integer 1), ("\u0130d", .integer 2)])

theorem ofExample_placeholders_cutKeys :
    ∃ c sql values, ofExample cutKeys = .ok c ∧
      (Expr.select (c.toSelect (.name "t") [])).render .mysql .named = .ok ⟨sql, .named values⟩ ∧
      values.entries.map (·.1) = ["i\u0307d", "user.id"] ∧ placeholderNames .mysql sql = ["i", "user"] := by
  obtain ⟨c, hc⟩ : ∃ c, ofExample cutKeys = .ok c := ⟨_, rfl⟩
  have hentries : c.conditions.entries = [("i\u0307d", .int 2), ("user.id", .int 1)] := by
    obtain rfl := Except.ok.inj hc
    rfl
  obtain ⟨sql, hrender, hfound⟩ := render_ofExample (d := .mysql) (.inl rfl) hc [] "t" (List.forall_mem_nil _)
  refine ⟨c, sql, c.conditions, hc, hrender, by rw [hentries]; rfl, ?_⟩
  rw [hfound, hentries]
  decide +kernel

end Criteria

end Sql
