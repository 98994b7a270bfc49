/-
The script of a tree in a dialect: what a writer writes of the tree, whatever it has written before.
-/
import Sql.Expr.Condition
import Sql.Script.Basic
import Sql.Value.Literal

namespace Sql

open Script

/-- A test against a set without members has one outcome for all rows. -/
def BinaryOp.emptySetTest (op : BinaryOp) : Script :=
  .text (if op = isIn then "1=0" else "1=1")

namespace Script

/-- A number of rows as a parameter. -/
def rowCount (name : String) (n : UInt64) : Script :=
  .parameter (some name) (.uint n)

end Script

namespace Dialect

/-- A quoted name behind its qualifiers, of which empty ones are left out. -/
def identifierText (d : Dialect) (qualifiers : List String) (name : String) : String :=
  String.join ((qualifiers.filter (!·.isEmpty)).map fun q => d.quote q ++ ".") ++ d.quote name

/-- A keyword as the dialect spells it. -/
def word (d : Dialect) (w : String) : Script := .text (d.keyword w)

/-- A keyword between blanks. -/
def spacedWord (d : Dialect) (w : String) : Script := .text (d.spaced w)

def operator (d : Dialect) (op : BinaryOp) : Script :=
  .text (if op.isKeyword then d.spaced op.text else op.text)

def separator (d : Dialect) : Separator → Script
  | .and => d.spacedWord "AND"
  | .or => d.spacedWord "OR"
  | .comma => .text ","
  | .space => .text " "

/-- The end of a query. Where OFFSET comes first, it is written for a limit alone too. -/
def page (d : Dialect) (limit offset : Option UInt64) : Script :=
  match d.pagination with
  | .limitOffset =>
    (match limit with
      | some n => d.spacedWord "LIMIT" ++ rowCount "limit" n
      | none => .nil) ++
    (match offset with
      | some n => d.spacedWord "OFFSET" ++ rowCount "offset" n
      | none => .nil)
  | .offsetFetch =>
    match limit, offset with
    | none, none => .nil
    | _, _ =>
      d.spacedWord "OFFSET" ++ rowCount "offset" (offset.getD 0) ++ .text " " ++ d.word "ROWS" ++
      (match limit with
        | some n =>
          d.spacedWord "FETCH NEXT" ++ rowCount "limit" n ++ .text " " ++ d.word "ROWS ONLY"
        | none => .nil)

/-- A clause after its keyword, unless there is nothing to say. -/
def clause (d : Dialect) (keyword : String) (silent : Bool) (body : Script) : Script :=
  if silent then .nil else d.spacedWord keyword ++ body

/-- The WHERE clause of a statement that changes rows. One that tests nothing is refused, for the statement
would change all rows. -/
def guard (d : Dialect) (verb : WriteVerb) (condition : Option Expr) (body : Script) : Script :=
  match condition with
  | none => .nil
  | some e => if e.isEmptyCondition then .fail (.emptyWhere verb) else d.spacedWord "WHERE" ++ body

end Dialect

mutual

def Expr.script (d : Dialect) : Expr → Script
  | .identifier qualifiers name => .text (d.identifierText qualifiers name)
  | .constant v => .text (v.literal d)
  | .bound name v => .parameter name v
  | .raw v => .text (v.raw d)
  | .binary b => binaryScript d b
  | .unary op operand =>
    if operand.isEmptyCondition then .fail (.emptyOperand op.text)
    else d.word op.text ++ .text " " ++ parenIf operand.needsGroup (operand.script d)
  | .list ⟨separator, items, lead, trail⟩ =>
    (if lead.isSome then optionScript d lead ++ .text " " else .nil) ++
      join (d.separator separator) (itemScripts d separator items) ++
      (if trail.isSome then .text " " ++ optionScript d trail else .nil)
  | .call function args => d.word function ++ .text "(" ++ join (.text ",") (scripts d args) ++ .text ")"
  | .between operand low high =>
    operand.script d ++ d.spacedWord "BETWEEN" ++ low.script d ++ d.spacedWord "AND" ++ high.script d
  | .alias e name => e.script d ++ d.spacedWord "AS" ++ .text (d.quote name)
  | .paren inner => (inner.script d).paren
  | .select ⟨columns, source, condition, groupBy, having, orderBy, limit, offset, _⟩ =>
    if source.isNone then .fail .selectWithoutSource
    else
      d.word "SELECT" ++ .text " " ++
        (if columns.isEmpty then .text "*" else join (.text ",") (scripts d columns)) ++
        d.spacedWord "FROM" ++ optionScript d source ++
        d.clause "WHERE" (saysNothing condition) (optionScript d condition) ++
        d.clause "GROUP BY" groupBy.isNone (optionScript d groupBy) ++
        d.clause "HAVING" (saysNothing having) (optionScript d having) ++
        d.clause "ORDER BY" orderBy.isEmpty (join (.text ",") (scripts d orderBy)) ++
        d.page limit offset
  | .insert ⟨table, columns, values⟩ =>
    if columns.isEmpty then .fail .insertWithoutValues
    else if columns.length ≠ values.length then .fail (.insertUneven columns.length values.length)
    else
      d.word "INSERT INTO" ++ .text " " ++ table.script d ++ .text " " ++
        (join (.text ",") (scripts d columns)).paren ++ d.spacedWord "VALUES" ++
        (join (.text ",") (scripts d values)).paren
  | .update ⟨table, assignments, condition⟩ =>
    if assignments.isEmpty then .fail .updateWithoutSet
    else
      d.word "UPDATE" ++ .text " " ++ table.script d ++ d.spacedWord "SET" ++
        join (.text ", ") (scripts d assignments) ++
        d.guard .update condition (optionScript d condition)
  | .delete ⟨table, condition⟩ =>
    d.word "DELETE FROM" ++ .text " " ++ table.script d ++ d.guard .delete condition (optionScript d condition)

def binaryScript (d : Dialect) : Binary Expr → Script
  | ⟨left, op, right⟩ =>
    if op.isMembership && right.isEmptySet then op.emptySetTest
    else left.script d ++ d.operator op ++ right.script d

def scripts (d : Dialect) : List Expr → List Script
  | [] => []
  | e :: es => e.script d :: scripts d es

def optionScript (d : Dialect) : Option Expr → Script
  | none => .nil
  | some e => e.script d

/-- The scripts of the items that a list shows, with parentheses where the items need them. -/
def itemScripts (d : Dialect) (separator : Separator) : List Expr → List Script
  | [] => []
  | e :: es =>
    if separator.drops e then itemScripts d separator es
    else parenIf (e.needsGroupIn separator) (e.script d) :: itemScripts d separator es

end

theorem scripts_eq (d : Dialect) (es : List Expr) : scripts d es = es.map (·.script d) := by
  induction es with
  | nil => rfl
  | cons e es ih => rw [scripts, ih, List.map_cons]

/-- The items that are left out have no script. -/
theorem itemScripts_eq_map (d : Dialect) (separator : Separator) (es : List Expr) :
    itemScripts d separator es =
      (es.filter (!separator.drops ·)).map fun e => parenIf (e.needsGroupIn separator) (e.script d) := by
  induction es with
  | nil => rfl
  | cons e es ih => cases hdrops : separator.drops e <;> simp [itemScripts, hdrops, ih]

/-! ## Faults -/

section

variable (d : Dialect)

@[simp] theorem fault_rowCount (name : String) (n : UInt64) : (Script.rowCount name n).fault = none := rfl

@[simp] theorem fault_word (w : String) : (d.word w).fault = none := rfl

@[simp] theorem fault_spacedWord (w : String) : (d.spacedWord w).fault = none := rfl

@[simp] theorem fault_separator (separator : Separator) : (d.separator separator).fault = none := by
  cases separator <;> rfl

@[simp] theorem fault_page (limit offset : Option UInt64) : (d.page limit offset).fault = none := by
  unfold Dialect.page
  cases d.pagination <;> cases limit <;> cases offset <;> simp

theorem fault_clause (keyword : String) (silent : Bool) (body : Script) :
    (d.clause keyword silent body).fault = if silent then none else body.fault := by
  cases silent <;> simp [Dialect.clause, fault_append]

/-- A list is not at fault if its items are not. -/
theorem fault_list {separator : Separator} {es : List Expr} (h : ∀ e ∈ es, (e.script d).fault = none) :
    ((Expr.list ⟨separator, es, none, none⟩).script d).fault = none := by
  have hitems : ∀ s ∈ itemScripts d separator es, s.fault = none := by
    rw [itemScripts_eq_map, List.forall_mem_map]
    exact fun e he => fault_parenIf.2 (h e (List.mem_filter.1 he).1)
  have hjoin := (fault_join (fault_separator d separator)).2 hitems
  simp only [Expr.script, Option.isSome_none, Bool.false_eq_true, if_false, nil_append, append_nil, hjoin]

end

end Sql
