/-
Writing a tree is writing its script.

A writer goes through a tree and stops at the first step that fails. `Writing.Emits` says of some steps that they do to a
writer what writing a script does. It holds of single steps and passes to steps that follow each other (`Emits.bind`), so a node
is written as its script if the trees below it are (`writesScript_node`), and all trees are (`Writer.writeExpr_eq_write`).
-/
import Sql.Expr.Children
import Sql.Script.OfExpr
import Sql.Writer

namespace Sql

/-! ## Writing scripts -/

namespace Writer

def push (w : Writer) : Piece → Except Error Writer
  | .text s => .ok { w with sql := w.sql ++ s }
  | .parameter name value => w.pushParameter name value

/-- Writes pieces up to the first that is refused. -/
def pushAll (w : Writer) : List Piece → Writer × Option Error
  | [] => (w, none)
  | piece :: pieces =>
    match w.push piece with
    | .ok w => w.pushAll pieces
    | .error e => (w, some e)

/-- Writes a script as far as it goes. -/
def write (w : Writer) (s : Script) : Writer × Option Error :=
  match w.pushAll s.pieces with
  | (w, some e) => (w, some e)
  | (w, none) => (w, s.fault.map .invalidQuery)

/-- What comes behind a result: another step, unless the result is a failure. -/
def continued (next : Writer → Writer × Option Error) : Writer × Option Error → Writer × Option Error
  | (w, none) => next w
  | (w, some error) => (w, some error)

theorem pushAll_append (w : Writer) (before after : List Piece) :
    w.pushAll (before ++ after) = continued (·.pushAll after) (w.pushAll before) := by
  induction before generalizing w with
  | nil => rfl
  | cons piece before ih =>
    rw [List.cons_append, pushAll, pushAll]
    cases w.push piece with
    | ok w' => exact ih w'
    | error error => rfl

theorem write_append (w : Writer) (s t : Script) : w.write (s ++ t) = continued (·.write t) (w.write s) := by
  obtain ⟨pieces, fault⟩ := s
  cases fault with
  | none =>
    have happend : (⟨pieces, none⟩ : Script) ++ t = ⟨pieces ++ t.pieces, t.fault⟩ := rfl
    rw [happend, write, write, pushAll_append]
    rcases w.pushAll pieces with ⟨w', _ | error⟩ <;> rfl
  | some fault =>
    have hstop : (⟨pieces, some fault⟩ : Script) ++ t = ⟨pieces, some fault⟩ := rfl
    rw [hstop, write]
    rcases w.pushAll pieces with ⟨w', _ | error⟩ <;> rfl

/-- Two texts are written as one. -/
theorem write_texts (w : Writer) (x y : String) : w.write (.text x ++ .text y) = w.write (.text (x ++ y)) := by
  rw [write_append]
  simp [write, Script.text, pushAll, push, continued, String.append_assoc]

/-- What a piece does to a writer that takes it: text is appended, a parameter by position adds its value, and one by name adds
its value if the name holds none. -/
theorem push_cases {w w' : Writer} {piece : Piece} (h : w.push piece = .ok w') :
    (∃ s, piece = .text s ∧ w' = { w with sql := w.sql ++ s }) ∨
    (∃ name value values, piece = .parameter name value ∧ w.args = .positional values ∧
      w' = { w with sql := w.sql ++ w.dialect.placeholder, args := .positional (values ++ [value]) }) ∨
    (∃ name value held v, piece = .parameter (some name) value ∧ w.args = .named held ∧ held.get? name = some v ∧
      v.equals value = true ∧ w' = { w with sql := w.sql ++ w.dialect.namedParameter name }) ∨
    ∃ name value held, piece = .parameter (some name) value ∧ w.args = .named held ∧ held.get? name = none ∧
      w' = { w with sql := w.sql ++ w.dialect.namedParameter name, args := .named (held.insert name value) } := by
  cases piece with
  | text s => exact .inl ⟨s, rfl, (Except.ok.inj h).symm⟩
  | parameter name value =>
    rw [push, pushParameter] at h
    cases hargs : w.args with
    | positional values =>
      rw [hargs] at h
      exact .inr (.inl ⟨name, value, values, rfl, rfl, (Except.ok.inj h).symm⟩)
    | named held =>
      rw [hargs] at h
      cases name with
      | none => cases h
      | some name =>
        cases hheld : held.get? name with
        | none =>
          simp only [hheld] at h
          exact .inr (.inr (.inr ⟨name, value, held, rfl, rfl, hheld, (Except.ok.inj h).symm⟩))
        | some v =>
          simp only [hheld] at h
          split at h
          · next hequal =>
            exact .inr (.inr (.inl ⟨name, value, held, v, rfl, rfl, hheld, hequal, (Except.ok.inj h).symm⟩))
          · cases h

theorem dialect_push {w w' : Writer} {piece : Piece} (h : w.push piece = .ok w') : w'.dialect = w.dialect := by
  obtain ⟨_, -, rfl⟩ | ⟨_, _, _, -, -, rfl⟩ | ⟨_, _, _, _, -, -, -, -, rfl⟩ | ⟨_, _, _, -, -, -, rfl⟩ := push_cases h <;> rfl

theorem dialect_pushAll (w : Writer) (pieces : List Piece) : (w.pushAll pieces).1.dialect = w.dialect := by
  induction pieces generalizing w with
  | nil => rfl
  | cons piece pieces ih =>
    rw [pushAll]
    cases hpush : w.push piece with
    | ok w' => exact (ih w').trans (dialect_push hpush)
    | error error => rfl

theorem write_fst (w : Writer) (s : Script) : (w.write s).1 = (w.pushAll s.pieces).1 := by
  rw [write]
  split <;> next hrun => rw [hrun]

theorem dialect_write (w : Writer) (s : Script) : (w.write s).1.dialect = w.dialect := by
  rw [write_fst, dialect_pushAll]

end Writer

/-! ## Steps and scripts -/

namespace Writing

theorem outcome_bind (m : Writing Unit) (f : Unit → Writing Unit) (w : Writer) :
    outcome (m >>= f) w = Writer.continued (f ()).outcome (m.outcome w) := by
  simp only [outcome, bind, EStateM.bind]
  cases m w <;> rfl

/-- Some steps do to each writer of a dialect what writing a script does. -/
def Emits (d : Dialect) (m : Writing Unit) (s : Script) : Prop :=
  ∀ w : Writer, w.dialect = d → m.outcome w = w.write s

section

variable {d : Dialect} {m m' : Writing Unit} {s t : Script}

theorem Emits.bind (h : Emits d m s) (h' : Emits d m' t) : Emits d (m >>= fun _ => m') (s ++ t) := by
  intro w hw
  have hdialect := (w.dialect_write s).trans hw
  rw [outcome_bind, h w hw, Writer.write_append]
  rcases hwrite : w.write s with ⟨w', _ | error⟩
  · rw [hwrite] at hdialect
    exact h' w' hdialect
  · rfl

theorem emits_pure : Emits d (pure ()) .nil := fun _ _ => rfl

theorem emits_text (x : String) : Emits d (pushText x) (.text x) := fun _ _ => rfl

theorem emits_refuse (fault : QueryFault) : Emits d (refuse fault) (.fail fault) := fun _ _ => rfl

theorem emits_parameter (name : Option String) (v : Value) : Emits d (pushParameter name v) (.parameter name v) := by
  intro w _
  have hpush : w.push (.parameter name v) = w.pushParameter name v := rfl
  have hsteps : (pushParameter name v).outcome w = (ofExcept (w.pushParameter name v) >>= set : Writing Unit).outcome w := rfl
  rw [hsteps, Writer.write, Script.parameter, Writer.pushAll, hpush]
  cases w.pushParameter name v <;> rfl

/-- Steps that look at the dialect of the writer. -/
theorem emits_ofDialect {f : Dialect → Writing Unit} (h : Emits d (f d) s) : Emits d (do f (← get).dialect) s := by
  rintro w rfl
  exact h w rfl

theorem Emits.texts {x y : String} (h : Emits d m (.text x)) (h' : Emits d m' (.text y)) :
    Emits d (m >>= fun _ => m') (.text (x ++ y)) :=
  fun w hw => (h.bind h' w hw).trans (w.write_texts x y)

theorem Emits.ite {c : Prop} [Decidable c] (h : c → Emits d m s) (h' : ¬ c → Emits d m' t) :
    Emits d (if c then m else m') (if c then s else t) := by
  split
  · next hc => exact h hc
  · next hc => exact h' hc

theorem Emits.grouped (h : Emits d m s) (needed : Bool) : Emits d (grouped needed m) (Script.parenIf needed s) := by
  cases needed with
  | false => exact h
  | true =>
    have hparen := (emits_text "( ").bind (h.bind (emits_text " )"))
    rwa [← Script.append_assoc] at hparen

variable (d)

theorem emits_keyword (word : String) : Emits d (pushKeyword word) (d.word word) :=
  emits_ofDialect (f := fun d => pushText (d.keyword word)) (emits_text _)

theorem emits_spaced (word : String) : Emits d (pushSpaced word) (d.spacedWord word) := by
  have hword := (emits_text " ").texts ((emits_keyword d word).texts (emits_text " "))
  rwa [← String.append_assoc] at hword

theorem emits_quoted (name : String) : Emits d (pushQuoted name) (.text (d.quote name)) :=
  emits_ofDialect (f := fun d => pushText (d.quote name)) (emits_text _)

theorem emits_qualifiers (names : List String) :
    Emits d (names.forM pushQualifier) (.text (String.join (names.map fun q => d.quote q ++ "."))) := by
  induction names with
  | nil =>
    intro w _
    simp [outcome, pure, EStateM.pure, Writer.write, Script.text, Writer.pushAll, Writer.push]
  | cons name names ih =>
    have hname := (emits_quoted d name).texts (emits_text ".")
    rw [List.map_cons, String.join_cons]
    exact hname.texts ih

theorem emits_operator (op : BinaryOp) : Emits d (pushOperator op) (d.operator op) := by
  unfold pushOperator Dialect.operator
  split
  · exact emits_spaced d op.text
  · exact emits_text op.text

theorem emits_separator (separator : Separator) : Emits d (pushSeparator separator false) (d.separator separator) := by
  cases separator with
  | and => exact emits_spaced d "AND"
  | or => exact emits_spaced d "OR"
  | comma => exact emits_text ","
  | space => exact emits_text " "

theorem emits_rows (keyword name : String) (n : UInt64) :
    Emits d (writeRows keyword name n) (d.spacedWord keyword ++ .rowCount name n) :=
  (emits_spaced d keyword).bind (emits_parameter _ _)

theorem emits_rowsUnit (keyword name rows : String) (n : UInt64) :
    Emits d (writeRowsUnit keyword name rows n)
      (d.spacedWord keyword ++ .rowCount name n ++ .text " " ++ d.word rows) := by
  have hrows := (emits_rows d keyword name n).bind ((emits_text " ").bind (emits_keyword d rows))
  rwa [← Script.append_assoc] at hrows

theorem emits_page (limit offset : Option UInt64) : Emits d (writePage limit offset) (d.page limit offset) := by
  refine emits_ofDialect (f := fun d => writePageAs d.pagination limit offset) ?_
  unfold Dialect.page
  have hoffset (n : UInt64) := emits_rowsUnit d "OFFSET" "offset" "ROWS" n
  cases d.pagination with
  | limitOffset =>
    refine Emits.bind ?_ ?_
    · cases limit with
      | none => exact emits_pure
      | some n => exact emits_rows d "LIMIT" "limit" n
    · cases offset with
      | none => exact emits_pure
      | some n => exact emits_rows d "OFFSET" "offset" n
  | offsetFetch =>
    cases limit with
    | none =>
      cases offset with
      | none => exact emits_pure
      | some n => exact (hoffset n).bind emits_pure
    | some n => exact (hoffset _).bind (emits_rowsUnit d "FETCH NEXT" "limit" "ROWS ONLY" n)

end

/-! ## Trees and scripts -/

/-- A tree is written as its script. -/
def WritesScript (d : Dialect) (e : Expr) : Prop := Emits d (writeExpr e) (e.script d)

section

variable {d : Dialect} {e? : Option Expr} {es : List Expr}

theorem emits_joined (separator : String) (h : ∀ e ∈ es, WritesScript d e) :
    Emits d (writeJoined separator es) (Script.join (.text separator) (scripts d es)) := by
  induction es with
  | nil => exact emits_pure
  | cons e es ih =>
    rw [List.forall_mem_cons] at h
    cases es with
    | nil => exact h.1
    | cons next es =>
      have hjoined := h.1.bind ((emits_text separator).bind (ih h.2))
      rwa [← Script.append_assoc] at hjoined

/-- The items behind the first one, or behind one that was written. -/
theorem emits_laterItems (separator : Separator) (h : ∀ e ∈ es, WritesScript d e) :
    Emits d (writeItems separator false es) (Script.joinBehind (d.separator separator) (itemScripts d separator es)) := by
  induction es with
  | nil => exact emits_pure
  | cons e es ih =>
    rw [List.forall_mem_cons] at h
    rw [writeItems, itemScripts]
    split
    · exact ih h.2
    · have hitems := (emits_separator d separator).bind ((h.1.grouped (e.needsGroupIn separator)).bind (ih h.2))
      rwa [← Script.append_assoc] at hitems

theorem emits_items (separator : Separator) (h : ∀ e ∈ es, WritesScript d e) :
    Emits d (writeItems separator true es) (Script.join (d.separator separator) (itemScripts d separator es)) := by
  induction es with
  | nil => exact emits_pure
  | cons e es ih =>
    rw [List.forall_mem_cons] at h
    rw [writeItems, itemScripts]
    split
    · exact ih h.2
    · rw [Script.join_cons]
      exact emits_pure.bind ((h.1.grouped _).bind (emits_laterItems separator h.2))

theorem emits_clause (keyword : String) (h : ∀ e ∈ e?, WritesScript d e) :
    Emits d (writeClause keyword e?) (d.clause keyword (saysNothing e?) (optionScript d e?)) := by
  cases e? with
  | none => exact emits_pure
  | some e => exact .ite (fun _ => emits_pure) fun _ => (emits_spaced d keyword).bind (h e rfl)

theorem emits_groupBy (h : ∀ e ∈ e?, WritesScript d e) :
    Emits d (writeGroupBy e?) (d.clause "GROUP BY" e?.isNone (optionScript d e?)) := by
  cases e? with
  | none => exact emits_pure
  | some e => exact (emits_spaced d "GROUP BY").bind (h e rfl)

theorem emits_guarded (verb : WriteVerb) (h : ∀ e ∈ e?, WritesScript d e) :
    Emits d (writeGuarded verb e?) (d.guard verb e? (optionScript d e?)) := by
  cases e? with
  | none => exact emits_pure
  | some e => exact .ite (fun _ => emits_refuse _) fun _ => (emits_spaced d "WHERE").bind (h e rfl)

theorem emits_lead (h : ∀ e ∈ e?, WritesScript d e) :
    Emits d (writeLead e?) (if e?.isSome then optionScript d e? ++ .text " " else .nil) := by
  cases e? with
  | none => exact emits_pure
  | some e => exact (h e rfl).bind (emits_text " ")

theorem emits_trail (h : ∀ e ∈ e?, WritesScript d e) :
    Emits d (writeTrail e?) (if e?.isSome then .text " " ++ optionScript d e? else .nil) := by
  cases e? with
  | none => exact emits_pure
  | some e => exact (emits_text " ").bind (h e rfl)

end

variable {d : Dialect}

theorem writesScript_binary {b : Binary Expr} (hleft : WritesScript d b.left) (hright : WritesScript d b.right) :
    WritesScript d (.binary b) := by
  obtain ⟨left, op, right⟩ := b
  have hbinary := hleft.bind ((emits_operator d op).bind hright)
  rw [← Script.append_assoc] at hbinary
  exact .ite (fun _ => emits_text _) fun _ => hbinary

theorem writesScript_unary (op : UnaryOp) {operand : Expr} (h : WritesScript d operand) :
    WritesScript d (.unary op operand) := by
  have hunary := (emits_keyword d op.text).bind ((emits_text " ").bind (h.grouped operand.needsGroup))
  rw [← Script.append_assoc] at hunary
  rw [WritesScript, Expr.script]
  exact .ite (fun _ => emits_refuse _) fun _ => hunary

theorem writesScript_list {l : Listing Expr} (hitems : ∀ e ∈ l.items, WritesScript d e)
    (hlead : ∀ e ∈ l.lead, WritesScript d e) (htrail : ∀ e ∈ l.trail, WritesScript d e) : WritesScript d (.list l) := by
  obtain ⟨separator, items, lead, trail⟩ := l
  have hlist := (emits_lead hlead).bind ((emits_items separator hitems).bind (emits_trail htrail))
  rwa [← Script.append_assoc] at hlist

theorem writesScript_call (function : String) {args : List Expr} (h : ∀ e ∈ args, WritesScript d e) :
    WritesScript d (.call function args) := by
  have hcall := (emits_keyword d function).bind ((emits_text "(").bind ((emits_joined "," h).bind (emits_text ")")))
  rwa [← Script.append_assoc, ← Script.append_assoc] at hcall

theorem writesScript_between {operand low high : Expr} (hoperand : WritesScript d operand) (hlow : WritesScript d low)
    (hhigh : WritesScript d high) : WritesScript d (.between operand low high) := by
  have hbetween := hoperand.bind ((emits_spaced d "BETWEEN").bind (hlow.bind ((emits_spaced d "AND").bind hhigh)))
  rwa [← Script.append_assoc, ← Script.append_assoc, ← Script.append_assoc] at hbetween

theorem writesScript_alias {e : Expr} (name : String) (h : WritesScript d e) : WritesScript d (.alias e name) := by
  have halias := h.bind ((emits_spaced d "AS").bind (emits_quoted d name))
  rwa [← Script.append_assoc] at halias

theorem writesScript_select {s : Select Expr} (hcolumns : ∀ e ∈ s.columns, WritesScript d e)
    (hsource : ∀ e ∈ s.source, WritesScript d e) (hcondition : ∀ e ∈ s.condition, WritesScript d e)
    (hgroupBy : ∀ e ∈ s.groupBy, WritesScript d e) (hhaving : ∀ e ∈ s.having, WritesScript d e)
    (horderBy : ∀ e ∈ s.orderBy, WritesScript d e) : WritesScript d (.select s) := by
  obtain ⟨columns, source, condition, groupBy, having, orderBy, limit, offset, withCount⟩ := s
  cases source with
  | none => exact emits_refuse _
  | some source =>
    have hshown : Emits d (if columns.isEmpty then pushText "*" else writeJoined "," columns)
        (if columns.isEmpty then .text "*" else Script.join (.text ",") (scripts d columns)) :=
      .ite (fun _ => emits_text "*") fun _ => emits_joined "," hcolumns
    have hordered : Emits d (if orderBy.isEmpty then pure () else do pushSpaced "ORDER BY"; writeJoined "," orderBy)
        (d.clause "ORDER BY" orderBy.isEmpty (Script.join (.text ",") (scripts d orderBy))) :=
      .ite (fun _ => emits_pure) fun _ => (emits_spaced d "ORDER BY").bind (emits_joined "," horderBy)
    have hselect := (emits_keyword d "SELECT").bind ((emits_text " ").bind (hshown.bind ((emits_spaced d "FROM").bind
      ((hsource source rfl).bind ((emits_clause "WHERE" hcondition).bind ((emits_groupBy hgroupBy).bind
      ((emits_clause "HAVING" hhaving).bind (hordered.bind (emits_page d limit offset)))))))))
    simp only [← Script.append_assoc] at hselect
    exact hselect

theorem writesScript_insert {i : Insert Expr} (htable : WritesScript d i.table)
    (hcolumns : ∀ e ∈ i.columns, WritesScript d e) (hvalues : ∀ e ∈ i.values, WritesScript d e) :
    WritesScript d (.insert i) := by
  obtain ⟨table, columns, values⟩ := i
  have hinsert := (emits_keyword d "INSERT INTO").bind ((emits_text " ").bind (htable.bind ((emits_text " ").bind
    (((emits_joined "," hcolumns).grouped true).bind ((emits_spaced d "VALUES").bind
    ((emits_joined "," hvalues).grouped true))))))
  simp only [← Script.append_assoc] at hinsert
  rw [WritesScript, Expr.script]
  exact .ite (fun _ => emits_refuse _) fun _ => .ite (fun _ => emits_refuse _) fun _ => hinsert

theorem writesScript_update {u : Update Expr} (htable : WritesScript d u.table)
    (hassignments : ∀ e ∈ u.assignments, WritesScript d e) (hcondition : ∀ e ∈ u.condition, WritesScript d e) :
    WritesScript d (.update u) := by
  obtain ⟨table, assignments, condition⟩ := u
  have hupdate := (emits_keyword d "UPDATE").bind ((emits_text " ").bind (htable.bind ((emits_spaced d "SET").bind
    ((emits_joined ", " hassignments).bind (emits_guarded .update hcondition)))))
  simp only [← Script.append_assoc] at hupdate
  rw [WritesScript, Expr.script]
  exact .ite (fun _ => emits_refuse _) fun _ => hupdate

theorem writesScript_delete {x : Delete Expr} (htable : WritesScript d x.table)
    (hcondition : ∀ e ∈ x.condition, WritesScript d e) : WritesScript d (.delete x) := by
  obtain ⟨table, condition⟩ := x
  have hdelete := (emits_keyword d "DELETE FROM").bind ((emits_text " ").bind (htable.bind
    (emits_guarded .delete hcondition)))
  rwa [← Script.append_assoc, ← Script.append_assoc] at hdelete

/-- A node is written as its script if the trees below it are. -/
theorem writesScript_node {e : Expr} (h : ∀ c ∈ e.children, WritesScript d c) : WritesScript d e := by
  cases e with
  | identifier qualifiers name => exact (emits_qualifiers d _).texts (emits_quoted d name)
  | constant v => exact emits_ofDialect (f := fun d => pushText (v.literal d)) (emits_text _)
  | raw v => exact emits_ofDialect (f := fun d => pushText (v.raw d)) (emits_text _)
  | bound name v => exact emits_parameter name v
  | binary b =>
    simp only [Expr.children, List.forall_mem_cons] at h
    exact writesScript_binary h.1 h.2.1
  | unary op operand => exact writesScript_unary op (h operand (List.mem_singleton_self operand))
  | list l =>
    simp only [Expr.children, List.forall_mem_append, Option.mem_toList] at h
    exact writesScript_list h.1.1 h.1.2 h.2
  | call function args => exact writesScript_call function h
  | between operand low high =>
    simp only [Expr.children, List.forall_mem_cons] at h
    exact writesScript_between h.1 h.2.1 h.2.2.1
  | «alias» e name => exact writesScript_alias name (h e (List.mem_singleton_self e))
  | paren inner => exact (h inner (List.mem_singleton_self inner)).grouped true
  | select s =>
    simp only [Expr.children, List.forall_mem_append, Option.mem_toList, and_assoc] at h
    obtain ⟨hcolumns, hsource, hcondition, hgroupBy, hhaving, horderBy⟩ := h
    exact writesScript_select hcolumns hsource hcondition hgroupBy hhaving horderBy
  | insert i =>
    simp only [Expr.children, List.cons_append, List.forall_mem_cons, List.forall_mem_append] at h
    exact writesScript_insert h.1 h.2.1 h.2.2
  | update u =>
    simp only [Expr.children, List.cons_append, List.forall_mem_cons, List.forall_mem_append, Option.mem_toList] at h
    exact writesScript_update h.1 h.2.1 h.2.2
  | delete x =>
    simp only [Expr.children, List.forall_mem_cons, Option.mem_toList] at h
    exact writesScript_delete h.1 h.2

theorem writesScript (d : Dialect) (e : Expr) : WritesScript d e := by
  induction e using Expr.induct with
  | node e ih => exact writesScript_node ih

end Writing

/-- **A writer goes through a tree as through its script**, and stops where writing the script stops. -/
theorem Writer.writeExpr_eq_write (w : Writer) (e : Expr) : w.writeExpr e = w.write (e.script w.dialect) :=
  Writing.writesScript w.dialect e w rfl

theorem Writer.dialect_start {d : Dialect} {style : ParamStyle} {w : Writer} (h : Writer.start d style = .ok w) :
    w.dialect = d := by
  unfold Writer.start at h
  split at h
  · cases h
  · cases h
    rfl

/-- The text and the arguments of a script. -/
def Script.render (s : Script) (d : Dialect) (style : ParamStyle) : Except Error Rendered := do
  let w ← Writer.start d style
  Writer.result (w.write s)

theorem Expr.render_eq (e : Expr) (d : Dialect) (style : ParamStyle) : e.render d style = (e.script d).render d style := by
  rw [Expr.render, Script.render]
  cases hstart : Writer.start d style with
  | error error => rfl
  | ok w =>
    have hwrite : w.writeExpr e = w.write (e.script d) := Writer.dialect_start hstart ▸ w.writeExpr_eq_write e
    exact congrArg Writer.result hwrite

end Sql
