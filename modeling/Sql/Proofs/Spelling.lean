/-
The texts of trees that can be written.

`Script.Spells` says of a script both that it is not at fault and what its text is in a style, so the text of a
statement is put together from those of its parts.
-/
import Sql.Proofs.TwoStyles

namespace Sql

/-- A script that is not at fault, and its text in a style. -/
structure Script.Spells (d : Dialect) (style : ParamStyle) (s : Script) (text : String) : Prop where
  fault : s.fault = none
  text : s.textIn d style = text

/-- The script of a tree spells a text. -/
def Expr.Spells (d : Dialect) (style : ParamStyle) (e : Expr) (text : String) : Prop := (e.script d).Spells d style text

namespace Script.Spells

variable {d : Dialect} {style : ParamStyle} {s t : Script} {x y : String}

theorem nil : Script.nil.Spells d style "" := ⟨rfl, rfl⟩

theorem literal (x : String) : (Script.text x).Spells d style x := ⟨rfl, textIn_text d style x⟩

theorem parameter (name : Option String) (value : Value) :
    (Script.parameter name value).Spells d style ((Piece.parameter name value).textIn d style) :=
  ⟨rfl, by simp [textIn, Piece.textOf, Script.parameter]⟩

theorem append (hs : s.Spells d style x) (ht : t.Spells d style y) : (s ++ t).Spells d style (x ++ y) := by
  refine ⟨fault_append_eq_none.2 ⟨hs.fault, ht.fault⟩, ?_⟩
  rw [textIn_append d style hs.fault, hs.text, ht.text]

theorem paren (hs : s.Spells d style x) : s.paren.Spells d style ("( " ++ x ++ " )") :=
  ((literal "( ").append hs).append (literal " )")

theorem join {separator : Script} (hsep : separator.Spells d style x) {es : List α} {f : α → Script} {g : α → String}
    (h : ∀ e ∈ es, (f e).Spells d style (g e)) :
    (Script.join separator (es.map f)).Spells d style (x.intercalate (es.map g)) := by
  induction es with
  | nil => exact nil
  | cons e es ih =>
    obtain ⟨he, hes⟩ := List.forall_mem_cons.1 h
    cases es with
    | nil => exact he
    | cons e' es =>
      have hrest := (he.append hsep).append (ih hes)
      rw [List.map_cons, List.map_cons (l := e' :: es), String.intercalate_cons_of_ne_nil (by simp)]
      exact hrest

end Script.Spells

section

variable {d : Dialect} {style : ParamStyle}

theorem Expr.Spells.sql {e : Expr} {text : String} (h : e.Spells d style text) {r : Rendered}
    (hr : e.render d style = .ok r) : r.sql = text := (render_ok hr).2.trans h.text

/-! ## Lists of texts -/

/-- Texts with a separator between them are equal exactly if they are equal one by one, where two of them that begin one
text before the separator are equal. -/
theorem intercalate_map_eq_iff {separator : String} {es : List α} {f g : α → String}
    (h : ∀ e ∈ es, ∀ x y, f e ++ (separator ++ x) = g e ++ (separator ++ y) → f e = g e) :
    separator.intercalate (es.map f) = separator.intercalate (es.map g) ↔ ∀ e ∈ es, f e = g e := by
  refine ⟨?_, fun heq => congrArg _ (List.map_congr_left heq)⟩
  induction es with
  | nil => exact fun _ => List.forall_mem_nil _
  | cons e es ih =>
    obtain ⟨he, hes⟩ := List.forall_mem_cons.1 h
    cases es with
    | nil =>
      intro heq
      exact List.forall_mem_singleton.2 (by simpa using heq)
    | cons e' es =>
      intro heq
      rw [List.map_cons, List.map_cons (l := e' :: es), String.intercalate_cons_of_ne_nil (by simp),
        String.intercalate_cons_of_ne_nil (by simp), String.append_assoc, String.append_assoc] at heq
      -- The first texts begin one text, so they are equal and can be taken off.
      have hfirst := he _ _ heq
      rw [hfirst, String.append_right_inj, String.append_right_inj] at heq
      exact List.forall_mem_cons.2 ⟨hfirst, ih hes heq⟩

/-! ## Names and tests -/

theorem spells_word (w : String) : (d.word w).Spells d style (d.keyword w) := .literal _

theorem spells_spacedWord (w : String) : (d.spacedWord w).Spells d style (d.spaced w) := .literal _

theorem spells_name (name : String) : (Expr.name name).Spells d style (d.quote name) := by
  have htext : d.identifierText [] name = d.quote name := by simp [Dialect.identifierText]
  rw [Expr.Spells, Expr.name, Expr.script, htext]
  exact .literal _

theorem spells_countOne : Expr.countOne.Spells d style (d.keyword "COUNT" ++ "(1)") := by
  have hspells : Script.Spells d style (d.word "COUNT" ++ .text "(" ++ .text "1" ++ .text ")") _ :=
    (((spells_word "COUNT").append (.literal "(")).append (.literal "1")).append (.literal ")")
  rw [String.append_assoc, String.append_assoc] at hspells
  exact hspells

theorem spells_commas {es : List α} {f : α → Expr} {g : α → String} (h : ∀ e ∈ es, (f e).Spells d style (g e)) :
    (Script.join (.text ",") (scripts d (es.map f))).Spells d style (",".intercalate (es.map g)) := by
  rw [scripts_eq, List.map_map]
  exact .join (.literal ",") h

/-- A binary operator between its operands, unless it tests membership in a set without members. -/
theorem spells_binary {left right : Expr} {x y : String} {op : BinaryOp} (hleft : left.Spells d style x)
    (hright : right.Spells d style y) (hmembers : (op.isMembership && right.isEmptySet) = false) :
    (Expr.binary ⟨left, op, right⟩).Spells d style
      (x ++ (if op.isKeyword then d.spaced op.text else op.text) ++ y) := by
  rw [Expr.Spells, Expr.script, binaryScript, if_neg (by simp [hmembers])]
  exact (hleft.append (.literal _)).append hright

/-- A list whose items all show, and need no parentheses. -/
theorem spells_listOf {separator : Separator} {x : String} (hsep : (d.separator separator).Spells d style x)
    {es : List α} {f : α → Expr} {g : α → String} (h : ∀ e ∈ es, (f e).Spells d style (g e))
    (hshown : ∀ e ∈ es, separator.drops (f e) = false) (hgroup : ∀ e ∈ es, (f e).needsGroupIn separator = false) :
    (Expr.listOf separator (es.map f)).Spells d style (x.intercalate (es.map g)) := by
  have hall : (es.map f).filter (!separator.drops ·) = es.map f := by
    refine List.filter_eq_self.2 fun e he => ?_
    obtain ⟨a, ha, rfl⟩ := List.mem_map.1 he
    rw [hshown a ha]
    rfl
  have hitems : itemScripts d separator (es.map f) = es.map fun e => (f e).script d := by
    rw [itemScripts_eq_map, hall, List.map_map]
    refine List.map_congr_left fun e he => ?_
    rw [Function.comp_apply, hgroup e he]
    rfl
  have hjoin := Script.Spells.join hsep h
  rw [← hitems] at hjoin
  simp only [Expr.Spells, Expr.listOf, Expr.script, Option.isSome_none, Bool.false_eq_true, if_false, Script.nil_append,
    Script.append_nil]
  exact hjoin

theorem isEmptySet_setOf (es : List Expr) : (Expr.setOf es).isEmptySet = es.isEmpty := by
  cases es <;> rfl

/-- A test of something against the members of a set. -/
theorem spells_membership {left : Expr} {x : String} (op : BinaryOp) {es : List α} {f : α → Expr} {g : α → String}
    (hleft : left.Spells d style x) (hes : es ≠ []) (h : ∀ e ∈ es, (f e).Spells d style (g e)) :
    (Expr.binary ⟨left, op, Expr.setOf (es.map f)⟩).Spells d style
      (x ++ (if op.isKeyword then d.spaced op.text else op.text) ++ ("( " ++ ",".intercalate (es.map g) ++ " )")) := by
  have hmembers : (Expr.setOf (es.map f)).isEmptySet = false := by
    rw [isEmptySet_setOf, List.isEmpty_eq_false_iff]
    simpa using hes
  have hset : (Expr.setOf (es.map f)).Spells d style ("( " ++ ",".intercalate (es.map g) ++ " )") := by
    rw [Expr.Spells, Expr.setOf, Expr.script]
    refine (spells_listOf (.literal ",") h (fun e _ => rfl) fun e _ => ?_).paren
    cases f e <;> rfl
  exact spells_binary hleft hset (by simp [hmembers])

/-- A test whether something is one of the members of a set. -/
theorem spells_isIn {left : Expr} {x : String} {es : List α} {f : α → Expr} {g : α → String}
    (hleft : left.Spells d style x) (hes : es ≠ []) (h : ∀ e ∈ es, (f e).Spells d style (g e)) :
    (Expr.binary (Expr.isIn left (es.map f))).Spells d style
      (x ++ d.spaced "IN" ++ ("( " ++ ",".intercalate (es.map g) ++ " )")) :=
  spells_membership .isIn hleft hes h

/-- Tests that must all hold. -/
theorem spells_allOf {es : List α} {f : α → Binary Expr} {g : α → String}
    (h : ∀ e ∈ es, (Expr.binary (f e)).Spells d style (g e)) :
    (Expr.allOf (es.map fun e => .binary (f e))).Spells d style ((d.spaced "AND").intercalate (es.map g)) := by
  have hsep : (d.separator .and).Spells d style (d.spaced "AND") := .literal _
  exact spells_listOf hsep h (fun _ _ => rfl) fun _ _ => rfl

theorem isEmptyCondition_allOf {es : List α} (hes : es ≠ []) (f : α → Binary Expr) :
    (Expr.allOf (es.map fun e => .binary (f e))).isEmptyCondition = false := by
  cases es with
  | nil => exact absurd rfl hes
  | cons e es => rfl

/-- Two tests that must both hold. -/
theorem spells_both {b b' : Binary Expr} {x y : String} (hb : (Expr.binary b).Spells d style x)
    (hb' : (Expr.binary b').Spells d style y) :
    (Expr.allOf [.binary b, .binary b']).Spells d style (x ++ d.spaced "AND" ++ y) := by
  have hitems : ∀ item ∈ [(b, x), (b', y)], (Expr.binary item.1).Spells d style item.2 := by simp [hb, hb']
  exact spells_allOf hitems

theorem spells_insert (table : String) {es : List α} {f g : α → Expr} {x y : α → String} (hes : es ≠ [])
    (hf : ∀ e ∈ es, (f e).Spells d style (x e)) (hg : ∀ e ∈ es, (g e).Spells d style (y e)) :
    (Expr.insert ⟨.name table, es.map f, es.map g⟩).Spells d style
      (d.keyword "INSERT INTO" ++ " " ++ d.quote table ++ " " ++ ("( " ++ ",".intercalate (es.map x) ++ " )") ++
        d.spaced "VALUES" ++ ("( " ++ ",".intercalate (es.map y) ++ " )")) := by
  have hnonempty : (es.map f).isEmpty = false := List.isEmpty_eq_false_iff.2 (by simpa using hes)
  rw [Expr.Spells, Expr.script, if_neg (by simp [hnonempty]), if_neg (by simp)]
  have hcolumns := (spells_commas hf).paren
  have hvalues := (spells_commas hg).paren
  exact ((((((spells_word "INSERT INTO").append (.literal " ")).append (spells_name table)).append
    (.literal " ")).append hcolumns).append (spells_spacedWord "VALUES")).append hvalues

theorem page_none (d : Dialect) : d.page none none = .nil := by
  unfold Dialect.page
  cases d.pagination <;> rfl

/-! ## Statements with a condition -/

variable (table : String) {condition : Expr} {text : String} (hcondition : condition.Spells d style text)
  (hsome : condition.isEmptyCondition = false)

include hcondition hsome

theorem spells_guard (verb : WriteVerb) :
    (d.guard verb (some condition) (optionScript d (some condition))).Spells d style (d.spaced "WHERE" ++ text) := by
  rw [Dialect.guard, if_neg (by simp [hsome]), optionScript]
  exact (spells_spacedWord "WHERE").append hcondition

theorem spells_delete : (Expr.delete { table := .name table, condition := some condition }).Spells d style
    (d.keyword "DELETE FROM" ++ " " ++ d.quote table ++ (d.spaced "WHERE" ++ text)) := by
  rw [Expr.Spells, Expr.script]
  exact (((spells_word "DELETE FROM").append (.literal " ")).append (spells_name table)).append
    (spells_guard hcondition hsome .delete)

theorem spells_update {es : List α} (hes : es ≠ []) {f : α → Expr} {g : α → String}
    (h : ∀ e ∈ es, (f e).Spells d style (g e)) :
    (Expr.update { table := .name table, assignments := es.map f, condition := some condition }).Spells d style
      (d.keyword "UPDATE" ++ " " ++ d.quote table ++ d.spaced "SET" ++ ", ".intercalate (es.map g) ++
        (d.spaced "WHERE" ++ text)) := by
  have hnonempty : (es.map f).isEmpty = false := List.isEmpty_eq_false_iff.2 (by simpa using hes)
  rw [Expr.Spells, Expr.script, if_neg (by simp [hnonempty]), scripts_eq, List.map_map]
  exact (((((spells_word "UPDATE").append (.literal " ")).append (spells_name table)).append
    (spells_spacedWord "SET")).append (.join (.literal ", ") h)).append (spells_guard hcondition hsome .update)

theorem spells_select {columns : List String} (hcolumns : columns ≠ []) :
    (Expr.select { columns := columns.map .name, source := some (.name table), condition := some condition }).Spells d
      style (d.keyword "SELECT" ++ " " ++ ",".intercalate (columns.map d.quote) ++ d.spaced "FROM" ++ d.quote table ++
        (d.spaced "WHERE" ++ text)) := by
  have hnonempty : (columns.map Expr.name).isEmpty = false := List.isEmpty_eq_false_iff.2 (by simpa using hcolumns)
  have hnames : (Script.join (.text ",") (scripts d (columns.map .name))).Spells d style
      (",".intercalate (columns.map d.quote)) := spells_commas fun name _ => spells_name name
  have hclause : (d.clause "WHERE" (saysNothing (some condition)) (optionScript d (some condition))).Spells d style
      (d.spaced "WHERE" ++ text) := by
    rw [saysNothing, hsome, Dialect.clause, if_neg Bool.false_ne_true, optionScript]
    exact (spells_spacedWord "WHERE").append hcondition
  have hhead := (((((spells_word "SELECT").append (.literal " ")).append hnames).append
    (spells_spacedWord "FROM")).append (spells_name table)).append hclause
  simp only [Expr.Spells, Expr.script, Option.isNone_none, Option.isNone_some, Bool.false_eq_true, if_false, hnonempty,
    page_none, Script.append_nil, List.isEmpty_nil, Dialect.clause, if_true, saysNothing] at hhead ⊢
  exact hhead

end

end Sql
