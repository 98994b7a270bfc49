/-
The clauses of a query.

Behind its columns, the text of a query is that of its clauses: `Select.clauses` lists those that are written, each as its
words and what stands behind them, and `textIn_select` puts the text together. Clauses come in the order of the grammar
because they are listed in it.
-/
import Sql.Proofs.StatementTexts

namespace Sql

/-- What a clause of a query begins with. -/
inductive ClauseWord where
  | source
  | condition
  | groupBy
  | having
  | orderBy
  | limit
  | offset
  | fetch
deriving DecidableEq

namespace ClauseWord

def text : ClauseWord → String
  | source => "FROM"
  | condition => "WHERE"
  | groupBy => "GROUP BY"
  | having => "HAVING"
  | orderBy => "ORDER BY"
  | limit => "LIMIT"
  | offset => "OFFSET"
  | fetch => "FETCH NEXT"

/-- The clauses in the order of the grammar. -/
def order : List ClauseWord := [source, condition, groupBy, having, orderBy, limit, offset, fetch]

end ClauseWord

/-- A clause as it is written. -/
structure Clause where
  word : ClauseWord
  /-- What stands behind the word. -/
  body : String

def Clause.text (d : Dialect) (c : Clause) : String := d.spaced c.word.text ++ c.body

namespace Select

/-- The tree of a clause that is written. The items of an order stand in a list. -/
def tree? (s : Select Expr) : ClauseWord → Option Expr
  | .source => s.source
  | .condition => saying? s.condition
  | .groupBy => s.groupBy
  | .having => saying? s.having
  | .orderBy => if s.orderBy.isEmpty then none else some (.listOf .comma s.orderBy)
  | .limit | .offset | .fetch => none

/-- What is written of a number of rows, if it is. Where OFFSET comes first, it is written for a limit alone too. -/
def pageText? (d : Dialect) (style : ParamStyle) (s : Select Expr) : ClauseWord → Option String
  | .limit =>
    match d.pagination with
    | .limitOffset => s.limit.map fun _ => d.placeholderIn style "limit"
    | .offsetFetch => none
  | .offset =>
    match d.pagination with
    | .limitOffset => s.offset.map fun _ => d.placeholderIn style "offset"
    | .offsetFetch => (s.limit.or s.offset).map fun _ => d.placeholderIn style "offset" ++ " " ++ d.keyword "ROWS"
  | .fetch =>
    match d.pagination with
    | .limitOffset => none
    | .offsetFetch => s.limit.map fun _ => d.placeholderIn style "limit" ++ " " ++ d.keyword "ROWS ONLY"
  | _ => none

/-- What stands behind the word of a clause, if the clause is written. -/
def body? (d : Dialect) (style : ParamStyle) (s : Select Expr) (word : ClauseWord) : Option String :=
  ((s.tree? word).map (·.textIn d style)).or (s.pageText? d style word)

/-- The clauses that are written, in the order of the grammar. -/
def clauses (d : Dialect) (style : ParamStyle) (s : Select Expr) : List Clause :=
  ClauseWord.order.filterMap fun word => (s.body? d style word).map (⟨word, ·⟩)

/-- The columns and the clauses of a query. -/
def text (d : Dialect) (style : ParamStyle) (s : Select Expr) : String :=
  d.keyword "SELECT" ++ " " ++ s.projectionText d style ++ String.join ((s.clauses d style).map (·.text d))

variable {d : Dialect} {style : ParamStyle} {s : Select Expr}

theorem mem_clauses {c : Clause} : c ∈ s.clauses d style ↔ s.body? d style c.word = some c.body := by
  obtain ⟨word, body⟩ := c
  have hmem : word ∈ ClauseWord.order := by cases word <;> decide
  simp only [clauses, List.mem_filterMap, Option.map_eq_some_iff, Clause.mk.injEq]
  constructor
  · rintro ⟨word, -, body, hbody, rfl, rfl⟩
    exact hbody
  · exact fun hbody => ⟨word, hmem, body, hbody, rfl, rfl⟩

/-- The words are those that have something behind them. -/
theorem words_eq :
    (s.clauses d style).map (·.word) = ClauseWord.order.filter fun word => (s.body? d style word).isSome := by
  rw [clauses, List.map_filterMap, ← List.filterMap_eq_filter]
  congr 1
  funext word
  cases hbody : s.body? d style word <;> simp [Option.guard, hbody]

theorem mem_words {word : ClauseWord} :
    word ∈ (s.clauses d style).map (·.word) ↔ (s.body? d style word).isSome = true := by
  rw [words_eq, List.mem_filter]
  exact and_iff_right (by cases word <;> decide)

/-! ## The text of a query -/

/-- A clause as a part of the text, which is empty if it is not written. -/
def part (d : Dialect) (style : ParamStyle) (s : Select Expr) (word : ClauseWord) : String :=
  match s.body? d style word with
  | none => ""
  | some body => d.spaced word.text ++ body

theorem join_clauses (words : List ClauseWord) :
    String.join ((words.filterMap fun word => (s.body? d style word).map (Clause.mk word)).map (·.text d)) =
      String.join (words.map (s.part d style)) := by
  induction words with
  | nil => rfl
  | cons word words ih =>
    rw [List.filterMap_cons, List.map_cons, String.join_cons, ← ih, part]
    cases s.body? d style word with
    | none => simp
    | some body => simp [Clause.text]

theorem part_of_tree (word : ClauseWord) (hpage : s.pageText? d style word = none) :
    s.part d style word = clauseText d style word.text (s.tree? word) := by
  rw [part, body?, hpage, Option.or_none]
  cases s.tree? word <;> rfl

theorem textIn_commas {es : List Expr} (hfault : ∀ e ∈ es, (e.script d).fault = none) :
    (Expr.listOf .comma es).textIn d style = commaText d style es := by
  have hall : ∀ e ∈ es, e.Spells d style (e.textIn d style) := fun e he => spells_textIn (hfault e he)
  have hsep : (d.separator .comma).Spells d style "," := .literal _
  have hspells := spells_listOf (f := fun e => e) hsep hall (fun _ _ => rfl) fun e _ => by cases e <;> rfl
  rw [List.map_id'] at hspells
  exact hspells.text

theorem part_orderBy (hfault : ∀ e ∈ s.orderBy, (e.script d).fault = none) :
    s.part d style .orderBy = if s.orderBy.isEmpty then "" else d.spaced "ORDER BY" ++ commaText d style s.orderBy := by
  rw [part_of_tree .orderBy rfl, tree?]
  split
  · rfl
  · rw [clauseText, textIn_commas hfault]
    rfl

theorem part_page :
    s.part d style .limit ++ s.part d style .offset ++ s.part d style .fetch = pageText d style s.limit s.offset := by
  unfold part body? pageText? pageText
  cases d.pagination <;> cases s.limit <;> cases s.offset <;>
    simp [tree?, ClauseWord.text, String.append_assoc]

/-- A query is its columns and its clauses. -/
theorem textIn_select (hfault : ((Expr.select s).script d).fault = none) :
    (Expr.select s).textIn d style = s.text d style := by
  have hsource : s.source.isSome = true := isSome_source (renders_positional_iff.2 hfault)
  obtain ⟨-, -, -, -, -, horderBy⟩ := (fault_query hsource).1 hfault
  rw [Expr.textIn, (spells_query hfault).text, text, clauses, join_clauses, rowsText, endText, ← part_orderBy horderBy, ← part_page]
  simp only [ClauseWord.order, List.map_cons, List.map_nil, String.join_cons, String.join_nil, String.append_empty,
    String.append_assoc, part_of_tree .source rfl, part_of_tree .condition rfl,
    part_of_tree .groupBy rfl, part_of_tree .having rfl]
  rfl

end Select

end Sql
