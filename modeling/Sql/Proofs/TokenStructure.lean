/-
What a name, a string or a number holds does not change the tokens of a statement.

`Expr.tokens` says for every tree what its tokens are, by recursion on the tree alone. `Expr.Plain` is the trees that
are spoken of: every text in them is quoted, and nothing is written verbatim but a few fixed words.
`lex_of_render` says that the text of such a tree lexes to its tokens. The proof follows the script of the
tree: each piece of it is a part of the statement (`Script.Lexes`), and parts that fit together are one.
-/
import Sql.Expr.Build
import Sql.Expr.Children
import Sql.Proofs.Lexer
import Sql.Proofs.TwoStyles

namespace Sql

/-! ## Tokens of trees -/

namespace Token

def words (ws : List String) : List Token := ws.map .word

def paren (ts : List Token) : List Token := .sign '(' :: ts ++ [.sign ')']

def parenIf (grouped : Bool) (ts : List Token) : List Token := if grouped then paren ts else ts

def commas (tss : List (List Token)) : List Token := List.intercalate [.sign ','] tss

end Token

open Token

def ParamStyle.token : ParamStyle → Option String → Token
  | .positional, _ => .placeholder
  | .named, name => .parameter (name.getD "")

/-- The token of a literal; other constants have no token here. SQL Server has no truth values. -/
def Value.tokens (d : Dialect) : Value → List Token
  | .null => [.word "NULL"]
  | .bool b =>
    if d = .sqlServer then [.number (if b then 1 else 0)] else [.word (if b then "TRUE" else "FALSE")]
  | .int n => [.number n.toInt]
  | .uint n => [.number n.toNat]
  | .text s | .other s => [.string s]
  | .bytes bs => [.string (Text.Utf8.decode bs)]
  | .float _ | .timestamp _ | .numeric _ => []

/-- What is written verbatim: `*`, `1` and the directions of a sort. -/
def Value.fragmentTokens (v : Value) : List Token :=
  if v = .text "*" then [.sign '*']
  else if v = .int 1 then [.number 1]
  else if v = .text "ASC" then [.word "ASC"]
  else if v = .text "DESC" then [.word "DESC"]
  else []

namespace BinaryOp

def isBuiltIn : BinaryOp → Bool
  | custom _ => false
  | _ => true

def tokens : BinaryOp → List Token
  | like => words ["LIKE"]
  | notLike => words ["NOT", "LIKE"]
  | isIn => words ["IN"]
  | notIn => words ["NOT", "IN"]
  | is => words ["IS"]
  | isNot => words ["IS", "NOT"]
  | op => [.operator op.text]

end BinaryOp

def Separator.tokens : Separator → List Token
  | and => words ["AND"]
  | or => words ["OR"]
  | comma => [.sign ',']
  | space => []

/-- The tokens at the end of a query. -/
def pageTokens (d : Dialect) (style : ParamStyle) (limit offset : Option UInt64) : List Token :=
  match d.pagination with
  | .limitOffset =>
    (if limit.isSome then [.word "LIMIT", style.token "limit"] else []) ++
      if offset.isSome then [.word "OFFSET", style.token "offset"] else []
  | .offsetFetch =>
    if limit.isNone && offset.isNone then []
    else
      [.word "OFFSET", style.token "offset", .word "ROWS"] ++
        if limit.isSome then words ["FETCH", "NEXT"] ++ style.token "limit" :: words ["ROWS", "ONLY"] else []

mutual

/-- **The tokens of a tree.** -/
@[simp] def Expr.tokens (d : Dialect) (style : ParamStyle) : Expr → List Token
  | .identifier qualifiers name =>
    ((qualifiers.filter (!·.isEmpty)).flatMap fun q => [.identifier q, .sign '.']) ++ [.identifier name]
  | .constant v => v.tokens d
  | .bound name _ => [style.token name]
  | .raw v => v.fragmentTokens
  | .binary b => binaryTokens d style b
  | .unary op operand => .word op.text :: parenIf operand.needsGroup (operand.tokens d style)
  | .list ⟨separator, items, lead, trail⟩ =>
    optionTokens d style lead ++ List.intercalate separator.tokens (itemTokens d style separator items) ++
      optionTokens d style trail
  | .call function args => .word function :: paren (commas (tokensOf d style args))
  | .between operand low high =>
    operand.tokens d style ++ .word "BETWEEN" :: low.tokens d style ++ .word "AND" :: high.tokens d style
  | .alias e name => e.tokens d style ++ [.word "AS", .identifier name]
  | .paren inner => paren (inner.tokens d style)
  | .select ⟨columns, source, condition, groupBy, having, orderBy, limit, offset, _⟩ =>
    .word "SELECT" :: (if columns.isEmpty then [.sign '*'] else commas (tokensOf d style columns)) ++
      .word "FROM" :: optionTokens d style source ++
      clauseTokens d style ["WHERE"] condition ++
      clauseTokens d style ["GROUP", "BY"] groupBy ++
      clauseTokens d style ["HAVING"] having ++
      (if orderBy.isEmpty then [] else words ["ORDER", "BY"] ++ commas (tokensOf d style orderBy)) ++
      pageTokens d style limit offset
  | .insert ⟨table, columns, values⟩ =>
    words ["INSERT", "INTO"] ++ table.tokens d style ++ paren (commas (tokensOf d style columns)) ++
      .word "VALUES" :: paren (commas (tokensOf d style values))
  | .update ⟨table, assignments, condition⟩ =>
    .word "UPDATE" :: table.tokens d style ++ .word "SET" :: commas (tokensOf d style assignments) ++
      clauseTokens d style ["WHERE"] condition
  | .delete ⟨table, condition⟩ =>
    words ["DELETE", "FROM"] ++ table.tokens d style ++ clauseTokens d style ["WHERE"] condition

def binaryTokens (d : Dialect) (style : ParamStyle) : Binary Expr → List Token
  | ⟨left, op, right⟩ => left.tokens d style ++ op.tokens ++ right.tokens d style

def tokensOf (d : Dialect) (style : ParamStyle) : List Expr → List (List Token)
  | [] => []
  | e :: es => e.tokens d style :: tokensOf d style es

def optionTokens (d : Dialect) (style : ParamStyle) : Option Expr → List Token
  | none => []
  | some e => e.tokens d style

def clauseTokens (d : Dialect) (style : ParamStyle) (keyword : List String) : Option Expr → List Token
  | none => []
  | some e => words keyword ++ e.tokens d style

def itemTokens (d : Dialect) (style : ParamStyle) (separator : Separator) : List Expr → List (List Token)
  | [] => []
  | e :: es => parenIf (e.needsGroupIn separator) (e.tokens d style) :: itemTokens d style separator es

end

/-! ## Plain trees -/

namespace Expr

/-- What a plain tree asks of one node. -/
def isPlainNode (style : ParamStyle) : Expr → Bool
  | constant v =>
    match v with
    | .float _ | .timestamp _ | .numeric _ => false
    | _ => true
  | bound name _ => style = .positional ∨ name.all Lexer.isWord
  | raw v => v ∈ [.text "*", .int 1, .text "ASC", .text "DESC"]
  | binary b => b.op.isBuiltIn
  | unary op _ => op = .not ∨ op = .exists
  | list l => !l.items.isEmpty
  | call function _ => Lexer.isWord function && function != "TRUE" && function != "FALSE"
  | _ => true

/-- Trees whose texts are all quoted, named by words, or among the fixed fragments. -/
inductive Plain (style : ParamStyle) : Expr → Prop where
  | node {e : Expr} : e.isPlainNode style = true → (∀ c ∈ e.children, Plain style c) → Plain style e

end Expr

theorem tokensOf_eq (d : Dialect) (style : ParamStyle) (es : List Expr) :
    tokensOf d style es = es.map (·.tokens d style) := by
  induction es with
  | nil => rfl
  | cons e es ih => rw [tokensOf, ih, List.map_cons]

theorem itemTokens_eq (d : Dialect) (style : ParamStyle) (separator : Separator) (es : List Expr) :
    itemTokens d style separator es =
      es.map fun e => parenIf (e.needsGroupIn separator) (e.tokens d style) := by
  induction es with
  | nil => rfl
  | cons e es ih => rw [itemTokens, ih, List.map_cons]

/-- Items that say something are all written. -/
theorem itemScripts_eq (d : Dialect) (separator : Separator) {es : List Expr}
    (h : ∀ e ∈ es, e.isEmptyCondition = false) :
    itemScripts d separator es = es.map fun e => Script.parenIf (e.needsGroupIn separator) (e.script d) := by
  have hshown : es.filter (!separator.drops ·) = es :=
    List.filter_eq_self.2 fun e he => by simp [Separator.drops, h e he]
  rw [itemScripts_eq_map, hshown]

/-! ## Plain trees test something -/

namespace Expr.Plain

variable {style : ParamStyle} {e : Expr}

theorem isPlainNode (h : e.Plain style) : e.isPlainNode style = true := by
  cases h
  assumption

theorem children (h : e.Plain style) : ∀ c ∈ e.children, c.Plain style := by
  cases h
  assumption

theorem isEmptyCondition (h : e.Plain style) : e.isEmptyCondition = false := by
  induction h with
  | @node e hnode hchildren ih =>
    cases hempty : e.isEmptyCondition with
    | false => rfl
    | true =>
      rcases Expr.isEmptyCondition_cases hempty with ⟨separator, items, rfl, -, hall⟩ | ⟨inner, rfl, hinner⟩
      · cases items with
        | nil => cases hnode
        | cons item items =>
          rw [allEmptyConditions, ih item (by simp [Expr.children])] at hall
          cases hall
      · rw [ih inner (by simp [Expr.children])] at hinner
        cases hinner

theorem isEmptySet (h : e.Plain style) : e.isEmptySet = false := by
  induction h with
  | @node e hnode hchildren ih =>
    cases hempty : e.isEmptySet with
    | false => rfl
    | true =>
      rcases Expr.isEmptySet_cases hempty with rfl | ⟨inner, rfl, hinner⟩
      · cases hnode
      · rw [ih inner (by simp [Expr.children])] at hinner
        cases hinner

theorem saysNothing {condition : Option Expr} (h : ∀ e ∈ condition, e.Plain style) :
    saysNothing condition = condition.isNone := by
  cases condition with
  | none => rfl
  | some e => exact (h e rfl).isEmptyCondition

end Expr.Plain

/-! ## Scripts and tokens -/

namespace Script

/-- What is not refused where parameters are named, up to names that occur twice. -/
def Renderable (style : ParamStyle) (s : Script) : Prop :=
  s.fault = none ∧ (style = .named → ∀ v, .parameter none v ∉ s.pieces)

theorem renderable_append {style : ParamStyle} {s t : Script} :
    (s ++ t).Renderable style ↔ s.Renderable style ∧ t.Renderable style := by
  obtain ⟨pieces, fault⟩ := s
  cases fault with
  | some fault => simp [Renderable, append_def, append]
  | none =>
    simp only [Renderable, append_def, append, true_and, List.mem_append, not_or]
    constructor
    · rintro ⟨hfault, hnamed⟩
      exact ⟨fun h v => (hnamed h v).1, hfault, fun h v => (hnamed h v).2⟩
    · rintro ⟨hs, hfault, ht⟩
      exact ⟨hfault, fun h v => ⟨hs h v, ht h v⟩⟩

/-- A script whose text is a part with these tokens, wherever it can be rendered. -/
def Lexes (d : Dialect) (style : ParamStyle) (a b : Boundary) (s : Script) (ts : List Token) : Prop :=
  s.Renderable style → Part d a b (s.textIn d style).toList ts

namespace Lexes

variable {d : Dialect} {style : ParamStyle} {a b c : Boundary} {s t : Script} {ts us : List Token}

theorem nil : Lexes d style a a .nil [] := fun _ => Part.nil

theorem fail {fault : QueryFault} : Lexes d style a b (.fail fault) ts := fun h => nomatch h.1

theorem append (hs : Lexes d style a b s ts) (ht : Lexes d style b c t us) :
    Lexes d style a c (s ++ t) (ts ++ us) := by
  intro h
  obtain ⟨hs', ht'⟩ := renderable_append.1 h
  rw [textIn_append d style hs'.1, String.toList_append]
  exact (hs hs').append (ht ht')

theorem text {x : String} (h : Part d a b x.toList ts) : Lexes d style a b (.text x) ts := by
  intro _
  rwa [textIn_text]

/-- One or more scripts with a separator between each two. -/
theorem join {separator : Script} (hsep : Lexes d style .closed .plain separator us) {es : List α} (hne : es ≠ [])
    {f : α → Script} {g : α → List Token} (h : ∀ e ∈ es, Lexes d style .plain .closed (f e) (g e)) :
    Lexes d style .plain .closed (.join separator (es.map f)) (List.intercalate us (es.map g)) := by
  induction es with
  | nil => exact absurd rfl hne
  | cons e es ih =>
    obtain ⟨he, hes⟩ := List.forall_mem_cons.1 h
    cases es with
    | nil => simpa [Script.join, List.intercalate] using he
    | cons e' es =>
      have hrest := (he.append hsep).append (ih (List.cons_ne_nil e' es) hes)
      simpa [Script.join, List.intercalate] using hrest

theorem blank : Lexes d style a b (.text " ") [] := text Part.blank

section

variable (hd : d = .mysql ∨ d = .sqlServer)

include hd

theorem comma : Lexes d style .closed b (.text ",") [.sign ','] := text (Part.sign hd rfl rfl)

theorem paren (hs : Lexes d style .plain .closed s ts) : Lexes d style .plain .closed s.paren (Token.paren ts) := by
  have hopen : Part d .plain .plain (['('] ++ [' ']) ([.sign '('] ++ []) :=
    Part.append (b := .plain) (Part.sign hd rfl rfl) Part.blank
  have hclose : Part d .closed .closed ([' '] ++ [')']) ([] ++ [.sign ')']) :=
    Part.append (b := .plain) Part.blank (Part.sign hd rfl rfl)
  have hall := ((text (x := "( ") hopen).append hs).append (text (x := " )") hclose)
  simpa [Token.paren, Script.paren] using hall

theorem parenIf (grouped : Bool) (hs : Lexes d style .plain .closed s ts) :
    Lexes d style .plain .closed (Script.parenIf grouped s) (Token.parenIf grouped ts) := by
  cases grouped with
  | false => exact hs
  | true => exact hs.paren hd

end

end Lexes

end Script

/-! ## Keywords -/

/-- A keyword of one or more words, which no dialect replaces. -/
def IsPhrase (w : String) (ws : List String) : Prop :=
  w.toList = List.intercalate [' '] (ws.map String.toList) ∧ ws ≠ [] ∧ (∀ x ∈ ws, Lexer.isWord x = true) ∧
    w ≠ "TRUE" ∧ w ≠ "FALSE"

instance (w : String) (ws : List String) : Decidable (IsPhrase w ws) := by
  unfold IsPhrase
  infer_instance

section

variable {d : Dialect} {style : ParamStyle} {a b c : Boundary} (hd : d = .mysql ∨ d = .sqlServer)

include hd

theorem keyword_eq {w : String} (htrue : w ≠ "TRUE") (hfalse : w ≠ "FALSE") : d.keyword w = w := by
  rcases hd with rfl | rfl
  · rfl
  · have h₁ : (w == "TRUE") = false := by simpa using htrue
    have h₂ : (w == "FALSE") = false := by simpa using hfalse
    simp [Dialect.keyword, Dialect.sqlServer, List.lookup_cons, h₁, h₂]

theorem part_phrase {w : String} {ws : List String} (h : IsPhrase w ws) :
    Part d .plain .closed (d.keyword w).toList (Token.words ws) := by
  obtain ⟨hw, hne, hws, htrue, hfalse⟩ := h
  rw [keyword_eq hd htrue hfalse, hw]
  exact Part.words hd hne hws

theorem lexes_word (w : String) (ws : List String) (h : IsPhrase w ws) :
    (d.word w).Lexes d style .plain .closed (Token.words ws) :=
  .text (part_phrase hd h)

theorem lexes_spacedWord (w : String) (ws : List String) (h : IsPhrase w ws) :
    (d.spacedWord w).Lexes d style .closed .plain (Token.words ws) := by
  have hall := (Part.append (a := .closed) Part.blank (part_phrase hd h)).append (Part.blank (b := .plain))
  refine .text ?_
  simpa [Dialect.spaced] using hall

theorem lexes_parameter {name : Option String} {v : Value}
    (hname : style = .positional ∨ ∀ n ∈ name, Lexer.isWord n = true) :
    (Script.parameter name v).Lexes d style .plain .closed [style.token name] := by
  intro h
  cases style with
  | positional =>
    have hplaceholder : d.placeholder = "?" := by rcases hd with rfl | rfl <;> rfl
    simpa [Script.textIn, Piece.textOf, Script.parameter, Piece.textIn, hplaceholder, ParamStyle.token] using
      Part.placeholder hd (b := .closed)
  | named =>
    cases name with
    | none => exact absurd (List.mem_singleton_self _) (h.2 rfl v)
    | some n =>
      have hn : Lexer.isWord n = true := by simpa using hname
      simpa [Script.textIn, Piece.textOf, Script.parameter, Piece.textIn, Dialect.namedParameter,
        ParamStyle.token] using Part.parameter hd hn

theorem lexes_operator {op : BinaryOp} (hop : op.isBuiltIn = true) :
    (d.operator op).Lexes d style .closed .plain op.tokens := by
  cases op with
  | custom text => cases hop
  | eq | ne | gt | ge | lt | le =>
    rw [Dialect.operator, if_neg (by decide)]
    exact .text (Part.operator hd (by decide))
  | like => exact lexes_spacedWord hd "LIKE" ["LIKE"] (by decide)
  | notLike => exact lexes_spacedWord hd "NOT LIKE" ["NOT", "LIKE"] (by decide)
  | isIn => exact lexes_spacedWord hd "IN" ["IN"] (by decide)
  | notIn => exact lexes_spacedWord hd "NOT IN" ["NOT", "IN"] (by decide)
  | is => exact lexes_spacedWord hd "IS" ["IS"] (by decide)
  | isNot => exact lexes_spacedWord hd "IS NOT" ["IS", "NOT"] (by decide)

theorem lexes_separator (separator : Separator) :
    (d.separator separator).Lexes d style .closed .plain separator.tokens := by
  cases separator with
  | and => exact lexes_spacedWord hd "AND" ["AND"] (by decide)
  | or => exact lexes_spacedWord hd "OR" ["OR"] (by decide)
  | comma => exact .comma hd
  | space => exact .blank

/-! ## Leaves -/

theorem part_quote (name : String) : Part d .plain .named (d.quote name).toList [.identifier name] := by
  have h := Part.quote hd name.toList
  rwa [String.ofList_toList, ← String.toList_ofList (l := d.quoteChars name.toList)] at h

theorem part_qualifiers (qualifiers : List String) :
    Part d .plain .plain (String.join (qualifiers.map fun q => d.quote q ++ ".")).toList
      (qualifiers.flatMap fun q => [.identifier q, .sign '.']) := by
  induction qualifiers with
  | nil => exact Part.nil
  | cons q qs ih =>
    have hdot : Part d .named .plain ['.'] [.sign '.'] := Part.sign hd rfl rfl
    have hall := ((part_quote hd q).append hdot).append ih
    simpa using hall

theorem lexes_identifier (qualifiers : List String) (name : String) :
    (Script.text (d.identifierText qualifiers name)).Lexes d style .plain .closed
      (Expr.tokens d style (.identifier qualifiers name)) := by
  refine .text ?_
  rw [Dialect.identifierText, String.toList_append, Expr.tokens]
  exact (part_qualifiers hd _).append (part_quote hd name).ofNamed

theorem part_string (x : String) : Part d .plain .closed (d.stringLiteral x).toList [.string x] := by
  have h := Part.string hd x.toList
  rwa [String.ofList_toList, ← String.toList_ofList (l := d.literalChars x.toList)] at h

theorem part_literal {v : Value} (hv : (Expr.constant v).isPlainNode style = true) :
    Part d .plain .closed (v.literal d).toList (v.tokens d) := by
  cases v with
  | null =>
    have hnull : IsPhrase "NULL" ["NULL"] := by decide
    exact part_phrase hd hnull
  | bool b =>
    rcases hd with rfl | rfl
    · cases b
      · exact Part.word (.inl rfl) (by decide)
      · exact Part.word (.inl rfl) (by decide)
    · cases b
      · exact Part.nat (.inr rfl) 0
      · exact Part.nat (.inr rfl) 1
  | int n =>
    have h := Part.int hd n.toInt
    simpa [Value.literal, Value.raw, Number.intText, Value.tokens] using h
  | uint n =>
    have h := Part.nat hd n.toNat
    simpa [Value.literal, Value.raw, Number.natText, Value.tokens] using h
  | text x | other x => exact part_string hd x
  | bytes bs => exact part_string hd _
  | float | timestamp | numeric => cases hv

theorem part_fragment {v : Value} (hv : (Expr.raw v).isPlainNode style = true) :
    Part d .plain .closed (v.raw d).toList v.fragmentTokens := by
  simp only [Expr.isPlainNode, decide_eq_true_eq, List.mem_cons, List.not_mem_nil, or_false] at hv
  rcases hv with rfl | rfl | rfl | rfl
  · have hstar : Part d .plain .closed ['*'] [.sign '*'] := Part.sign hd rfl rfl
    have htext : (Value.raw d (.text "*")).toList = ['*'] := by simp [Value.raw]
    have htokens : (Value.text "*").fragmentTokens = [.sign '*'] := by decide
    rwa [htext, htokens]
  · have hone := Part.int hd (1 : Int64).toInt
    rwa [← String.toList_ofList (l := Number.intDigits _)] at hone
  · have hword : Lexer.isWord "ASC" = true := by decide
    exact Part.word hd hword
  · have hword : Lexer.isWord "DESC" = true := by decide
    exact Part.word hd hword

/-! ## Clauses -/

/-- A clause with one tree, or without it. -/
theorem lexes_clause (keyword : String) (ws : List String) (h : IsPhrase keyword ws) {body : Option Expr}
    (hbody : ∀ e ∈ body, (e.script d).Lexes d style .plain .closed (e.tokens d style)) :
    (d.clause keyword body.isNone (optionScript d body)).Lexes d style .closed .closed
      (clauseTokens d style ws body) := by
  cases body with
  | none => exact .nil
  | some e => exact (lexes_spacedWord hd keyword ws h).append (hbody e rfl)

theorem lexes_guard (verb : WriteVerb) {condition : Option Expr} (hplain : ∀ e ∈ condition, e.Plain style)
    (hbody : ∀ e ∈ condition, (e.script d).Lexes d style .plain .closed (e.tokens d style)) :
    (d.guard verb condition (optionScript d condition)).Lexes d style .closed .closed
      (clauseTokens d style ["WHERE"] condition) := by
  cases condition with
  | none => exact .nil
  | some e =>
    have hempty := (hplain e rfl).isEmptyCondition
    rw [Dialect.guard, hempty, if_neg Bool.false_ne_true]
    exact (lexes_spacedWord hd "WHERE" ["WHERE"] (by decide)).append (hbody e rfl)

theorem lexes_rowCount {name : String} (hname : Lexer.isWord name = true) (n : UInt64) :
    (Script.rowCount name n).Lexes d style .plain .closed [style.token name] :=
  lexes_parameter hd (.inr fun m hm => by cases hm; exact hname)

theorem lexes_page (limit offset : Option UInt64) :
    (d.page limit offset).Lexes d style .closed .closed (pageTokens d style limit offset) := by
  have hlimit (n : UInt64) : (Script.rowCount "limit" n).Lexes d style .plain .closed [style.token "limit"] :=
    lexes_rowCount hd (by decide) n
  have hoffset (n : UInt64) : (Script.rowCount "offset" n).Lexes d style .plain .closed [style.token "offset"] :=
    lexes_rowCount hd (by decide) n
  unfold Dialect.page pageTokens
  cases d.pagination with
  | limitOffset =>
    have hlimits (n : UInt64) : Script.Lexes d style .closed .closed
        (d.spacedWord "LIMIT" ++ Script.rowCount "limit" n) [.word "LIMIT", style.token "limit"] :=
      (lexes_spacedWord hd "LIMIT" ["LIMIT"] (by decide)).append (hlimit n)
    have hoffsets (n : UInt64) : Script.Lexes d style .closed .closed
        (d.spacedWord "OFFSET" ++ Script.rowCount "offset" n) [.word "OFFSET", style.token "offset"] :=
      (lexes_spacedWord hd "OFFSET" ["OFFSET"] (by decide)).append (hoffset n)
    cases limit with
    | none =>
      cases offset with
      | none => exact .append .nil .nil
      | some n => exact .append .nil (hoffsets n)
    | some m =>
      cases offset with
      | none => exact (hlimits m).append .nil
      | some n => exact (hlimits m).append (hoffsets n)
  | offsetFetch =>
    have hrows (n : UInt64) : Script.Lexes d style .closed .closed
        (d.spacedWord "OFFSET" ++ Script.rowCount "offset" n ++ .text " " ++ d.word "ROWS")
        [.word "OFFSET", style.token "offset", .word "ROWS"] :=
      (((lexes_spacedWord hd "OFFSET" ["OFFSET"] (by decide)).append (hoffset n)).append
        (.blank (b := .plain))).append (lexes_word hd "ROWS" ["ROWS"] (by decide))
    have hfetch (n : UInt64) : Script.Lexes d style .closed .closed
        (d.spacedWord "FETCH NEXT" ++ Script.rowCount "limit" n ++ .text " " ++ d.word "ROWS ONLY")
        (Token.words ["FETCH", "NEXT"] ++ style.token "limit" :: Token.words ["ROWS", "ONLY"]) :=
      (((lexes_spacedWord hd "FETCH NEXT" ["FETCH", "NEXT"] (by decide)).append (hlimit n)).append
        (.blank (b := .plain))).append (lexes_word hd "ROWS ONLY" ["ROWS", "ONLY"] (by decide))
    cases limit with
    | none =>
      cases offset with
      | none => exact .nil
      | some n => exact (hrows n).append .nil
    | some n => exact (hrows _).append (hfetch n)

/-! ## Nodes -/

/-- The script of a tree is an operand with the tokens of the tree. -/
def Operand (d : Dialect) (style : ParamStyle) (e : Expr) : Prop :=
  (e.script d).Lexes d style .plain .closed (e.tokens d style)

theorem lexes_commas {es : List Expr} (hne : es ≠ []) (h : ∀ e ∈ es, Operand d style e) :
    (Script.join (.text ",") (scripts d es)).Lexes d style .plain .closed (Token.commas (tokensOf d style es)) := by
  rw [scripts_eq, tokensOf_eq]
  exact .join (.comma hd) hne h

theorem lexes_binary {b : Binary Expr} (hop : b.op.isBuiltIn = true) (hset : b.right.isEmptySet = false)
    (hleft : Operand d style b.left) (hright : Operand d style b.right) :
    (binaryScript d b).Lexes d style .plain .closed (binaryTokens d style b) := by
  obtain ⟨left, op, right⟩ := b
  simp only at hset
  simp only [binaryScript, hset, Bool.and_false, Bool.false_eq_true, if_false, binaryTokens]
  exact (hleft.append (lexes_operator hd hop)).append hright

theorem lexes_unary {op : UnaryOp} {e : Expr} (hop : op = .not ∨ op = .exists) (hempty : e.isEmptyCondition = false)
    (h : Operand d style e) : Operand d style (.unary op e) := by
  have hword : (d.word op.text).Lexes d style .plain .closed [.word op.text] := by
    rcases hop with rfl | rfl
    · exact lexes_word hd "NOT" ["NOT"] (by decide)
    · exact lexes_word hd "EXISTS" ["EXISTS"] (by decide)
  unfold Operand
  simp only [Expr.script, hempty, Bool.false_eq_true, if_false, Expr.tokens]
  exact (hword.append .blank).append (h.parenIf hd e.needsGroup)

theorem lexes_list {separator : Separator} {items : List Expr} {lead trail : Option Expr} (hne : items ≠ [])
    (hempty : ∀ e ∈ items, e.isEmptyCondition = false) (hitems : ∀ e ∈ items, Operand d style e)
    (hlead : ∀ e ∈ lead, Operand d style e) (htrail : ∀ e ∈ trail, Operand d style e) :
    Operand d style (.list ⟨separator, items, lead, trail⟩) := by
  have hbody : (Script.join (d.separator separator) (itemScripts d separator items)).Lexes d style .plain .closed
      (List.intercalate separator.tokens (itemTokens d style separator items)) := by
    rw [itemScripts_eq d separator hempty, itemTokens_eq]
    exact .join (lexes_separator hd separator) hne fun e he => (hitems e he).parenIf hd _
  have hfront : Script.Lexes d style .plain .plain
      (if lead.isSome then optionScript d lead ++ .text " " else .nil) (optionTokens d style lead) := by
    cases lead with
    | none => exact .nil
    | some e => simpa [optionScript, optionTokens] using (hlead e rfl).append (.blank (b := .plain))
  have hback : Script.Lexes d style .closed .closed
      (if trail.isSome then .text " " ++ optionScript d trail else .nil) (optionTokens d style trail) := by
    cases trail with
    | none => exact .nil
    | some e => exact Script.Lexes.blank.append (htrail e rfl)
  unfold Operand
  simp only [Expr.script, Expr.tokens]
  exact (hfront.append hbody).append hback

theorem lexes_call {function : String} {args : List Expr} (hword : Lexer.isWord function = true)
    (htrue : function ≠ "TRUE") (hfalse : function ≠ "FALSE") (hargs : ∀ e ∈ args, Operand d style e) :
    Operand d style (.call function args) := by
  have hname : (d.word function).Lexes d style .plain .closed [.word function] := by
    rw [Dialect.word, keyword_eq hd htrue hfalse]
    exact .text (Part.word hd hword)
  have hopen {b : Boundary} : (Script.text "(").Lexes d style .closed b [.sign '('] := .text (Part.sign hd rfl rfl)
  have hclose : (Script.text ")").Lexes d style .closed .closed [.sign ')'] := .text (Part.sign hd rfl rfl)
  unfold Operand
  simp only [Expr.script, Expr.tokens]
  by_cases hnil : args = []
  · rw [hnil]
    exact ((hname.append (hopen (b := .closed))).append .nil).append hclose
  · have hall := ((hname.append (hopen (b := .plain))).append (lexes_commas hd hnil hargs)).append hclose
    simpa [Token.paren] using hall

theorem lexes_between {operand low high : Expr} (h : Operand d style operand) (hlow : Operand d style low)
    (hhigh : Operand d style high) : Operand d style (.between operand low high) := by
  have hall := (((h.append (lexes_spacedWord hd "BETWEEN" ["BETWEEN"] (by decide))).append hlow).append
    (lexes_spacedWord hd "AND" ["AND"] (by decide))).append hhigh
  unfold Operand
  simpa [Expr.script, Expr.tokens, Token.words] using hall

theorem lexes_alias {e : Expr} (h : Operand d style e) (name : String) : Operand d style (.alias e name) := by
  have hall := (h.append (lexes_spacedWord hd "AS" ["AS"] (by decide))).append (.text (part_quote hd name).ofNamed)
  unfold Operand
  simpa [Expr.script, Expr.tokens, Token.words] using hall

/-! ## Statements -/

theorem lexes_orderBy {orderBy : List Expr} (h : ∀ e ∈ orderBy, Operand d style e) :
    (d.clause "ORDER BY" orderBy.isEmpty (.join (.text ",") (scripts d orderBy))).Lexes d style .closed .closed
      (if orderBy.isEmpty then [] else Token.words ["ORDER", "BY"] ++ Token.commas (tokensOf d style orderBy)) := by
  cases orderBy with
  | nil => exact .nil
  | cons e es =>
    have hbody := lexes_commas hd (List.cons_ne_nil e es) h
    exact (lexes_spacedWord hd "ORDER BY" ["ORDER", "BY"] (by decide)).append hbody

theorem lexes_columns {columns : List Expr} (h : ∀ e ∈ columns, Operand d style e) :
    Script.Lexes d style .plain .closed
      (if columns.isEmpty then .text "*" else .join (.text ",") (scripts d columns))
      (if columns.isEmpty then [.sign '*'] else Token.commas (tokensOf d style columns)) := by
  cases columns with
  | nil =>
    have hstar : Part d .plain .closed ['*'] [.sign '*'] := Part.sign hd rfl rfl
    exact .text hstar
  | cons e es => exact lexes_commas hd (List.cons_ne_nil e es) h

theorem lexes_select {s : Select Expr} (hplain : ∀ e ∈ (Expr.select s).children, e.Plain style)
    (h : ∀ e ∈ (Expr.select s).children, Operand d style e) : Operand d style (.select s) := by
  obtain ⟨columns, source, condition, groupBy, having, orderBy, limit, offset, withCount⟩ := s
  simp only [Expr.children, List.mem_append, Option.mem_toList, or_assoc] at h hplain
  unfold Operand
  simp only [Expr.script, Expr.tokens]
  cases source with
  | none => exact .fail
  | some source =>
    have hcolumns := lexes_columns hd fun e he => h e (.inl he)
    have hsource := h source (.inr (.inl rfl))
    have hcondition := lexes_clause hd "WHERE" ["WHERE"] (by decide) fun e he => h e (.inr (.inr (.inl he)))
    have hgroupBy := lexes_clause hd "GROUP BY" ["GROUP", "BY"] (by decide)
      fun e he => h e (.inr (.inr (.inr (.inl he))))
    have hhaving := lexes_clause hd "HAVING" ["HAVING"] (by decide)
      fun e he => h e (.inr (.inr (.inr (.inr (.inl he)))))
    have horderBy := lexes_orderBy hd fun e he => h e (.inr (.inr (.inr (.inr (.inr he)))))
    have hquiet : saysNothing condition = condition.isNone :=
      Expr.Plain.saysNothing fun e he => hplain e (.inr (.inr (.inl he)))
    have hquiet' : saysNothing having = having.isNone :=
      Expr.Plain.saysNothing fun e he => hplain e (.inr (.inr (.inr (.inr (.inl he)))))
    have hhead := ((((lexes_word hd "SELECT" ["SELECT"] (by decide)).append (.blank (b := .plain))).append
      hcolumns).append (lexes_spacedWord hd "FROM" ["FROM"] (by decide))).append hsource
    have hall := ((((hhead.append hcondition).append hgroupBy).append hhaving).append horderBy).append
      (lexes_page hd limit offset)
    rw [hquiet, hquiet']
    simpa [Token.words, optionScript, optionTokens] using hall

theorem lexes_insert {i : Insert Expr} (h : ∀ e ∈ (Expr.insert i).children, Operand d style e) :
    Operand d style (.insert i) := by
  obtain ⟨table, columns, values⟩ := i
  simp only [Expr.children, List.cons_append, List.mem_cons, List.mem_append] at h
  unfold Operand
  simp only [Expr.script, Expr.tokens]
  by_cases hcolumns : columns = []
  · rw [hcolumns]
    exact .fail
  by_cases hlength : columns.length ≠ values.length
  · rw [if_pos hlength]
    split <;> exact .fail
  have hvalues : values ≠ [] := by
    rintro rfl
    exact hlength fun heq => hcolumns (List.length_eq_zero_iff.1 heq)
  rw [if_neg (by simpa using hcolumns), if_neg hlength]
  have htable := h table (.inl rfl)
  have hleft := (lexes_commas hd hcolumns fun e he => h e (.inr (.inl he))).paren hd
  have hright := (lexes_commas hd hvalues fun e he => h e (.inr (.inr he))).paren hd
  have hhead := (((lexes_word hd "INSERT INTO" ["INSERT", "INTO"] (by decide)).append (.blank (b := .plain))).append
    htable).append (.blank (b := .plain))
  have hall := ((hhead.append hleft).append (lexes_spacedWord hd "VALUES" ["VALUES"] (by decide))).append hright
  simpa [Token.words] using hall

theorem lexes_update {u : Update Expr} (hplain : ∀ e ∈ (Expr.update u).children, e.Plain style)
    (h : ∀ e ∈ (Expr.update u).children, Operand d style e) : Operand d style (.update u) := by
  obtain ⟨table, assignments, condition⟩ := u
  simp only [Expr.children, List.cons_append, List.mem_cons, List.mem_append, Option.mem_toList] at h hplain
  unfold Operand
  simp only [Expr.script, Expr.tokens]
  by_cases hassignments : assignments = []
  · rw [hassignments]
    exact .fail
  have hcomma : (Script.text ", ").Lexes d style .closed .plain [.sign ','] := by
    have hpart : Part d .closed .plain ([','] ++ [' ']) ([.sign ','] ++ []) :=
      Part.append (b := .plain) (Part.sign hd rfl rfl) Part.blank
    exact .text hpart
  have hset : (Script.join (.text ", ") (scripts d assignments)).Lexes d style .plain .closed
      (Token.commas (tokensOf d style assignments)) := by
    rw [scripts_eq, tokensOf_eq]
    exact .join hcomma hassignments fun e he => h e (.inr (.inl he))
  have htable := h table (.inl rfl)
  have hguard := lexes_guard hd .update (fun e he => hplain e (.inr (.inr he))) fun e he => h e (.inr (.inr he))
  have hhead := (((lexes_word hd "UPDATE" ["UPDATE"] (by decide)).append (.blank (b := .plain))).append htable).append
    (lexes_spacedWord hd "SET" ["SET"] (by decide))
  have hall := (hhead.append hset).append hguard
  rw [if_neg (by simpa using hassignments)]
  simpa [Token.words] using hall

theorem lexes_delete {x : Delete Expr} (hplain : ∀ e ∈ (Expr.delete x).children, e.Plain style)
    (h : ∀ e ∈ (Expr.delete x).children, Operand d style e) : Operand d style (.delete x) := by
  obtain ⟨table, condition⟩ := x
  simp only [Expr.children, List.mem_cons, Option.mem_toList] at h hplain
  have htable := h table (.inl rfl)
  have hguard := lexes_guard hd .delete (fun e he => hplain e (.inr he)) fun e he => h e (.inr he)
  have hhead := ((lexes_word hd "DELETE FROM" ["DELETE", "FROM"] (by decide)).append (.blank (b := .plain))).append
    htable
  unfold Operand
  simpa [Expr.script, Expr.tokens] using hhead.append hguard

/-- **A plain tree is an operand with its tokens**, from its nodes up. -/
theorem Expr.Plain.operand {e : Expr} (h : e.Plain style) : Operand d style e := by
  induction h with
  | @node e hnode hchildren ih =>
    cases e with
    | identifier qualifiers name => exact lexes_identifier hd qualifiers name
    | constant v => exact .text (part_literal hd hnode)
    | bound name v =>
      refine lexes_parameter hd ?_
      simp only [Expr.isPlainNode, decide_eq_true_eq] at hnode
      refine hnode.imp_right fun hall n hn => ?_
      rw [Option.mem_def] at hn
      rwa [hn, Option.all_some] at hall
    | raw v => exact .text (part_fragment hd hnode)
    | binary b =>
      obtain ⟨hleft, hright⟩ : Operand d style b.left ∧ Operand d style b.right := by
        simpa [Expr.children] using ih
      have hset := (hchildren b.right (by simp [Expr.children])).isEmptySet
      exact lexes_binary hd hnode hset hleft hright
    | unary op operand =>
      have hoperand : operand ∈ (Expr.unary op operand).children := List.mem_singleton_self operand
      have hop : op = .not ∨ op = .exists := by simpa [Expr.isPlainNode] using hnode
      exact lexes_unary hd hop (hchildren operand hoperand).isEmptyCondition (ih operand hoperand)
    | list l =>
      obtain ⟨separator, items, lead, trail⟩ := l
      simp only [Expr.children, List.mem_append, Option.mem_toList, or_assoc] at ih hchildren
      have hne : items ≠ [] := by simpa [Expr.isPlainNode] using hnode
      exact lexes_list hd hne (fun e he => (hchildren e (.inl he)).isEmptyCondition) (fun e he => ih e (.inl he))
        (fun e he => ih e (.inr (.inl he))) fun e he => ih e (.inr (.inr he))
    | call function args =>
      obtain ⟨⟨hword, htrue⟩, hfalse⟩ : (Lexer.isWord function = true ∧ function ≠ "TRUE") ∧ function ≠ "FALSE" := by
        simpa [Expr.isPlainNode] using hnode
      exact lexes_call hd hword htrue hfalse ih
    | between operand low high =>
      obtain ⟨hoperand, hlow, hhigh⟩ : Operand d style operand ∧ Operand d style low ∧ Operand d style high := by
        simpa [Expr.children] using ih
      exact lexes_between hd hoperand hlow hhigh
    | «alias» e name => exact lexes_alias hd (ih e (List.mem_singleton_self e)) name
    | paren inner =>
      have hinner := (ih inner (List.mem_singleton_self inner)).paren hd
      unfold Operand
      simpa only [Expr.script, Expr.tokens] using hinner
    | select s => exact lexes_select hd hchildren ih
    | insert i => exact lexes_insert hd ih
    | update u => exact lexes_update hd hchildren ih
    | delete x => exact lexes_delete hd hchildren ih

end

/-! ## Texts -/

theorem renderable_of_render {d : Dialect} {style : ParamStyle} {e : Expr} {r : Rendered}
    (hd : d.supportsNamed = true) (hr : e.render d style = .ok r) : (e.script d).Renderable style := by
  refine ⟨(render_ok hr).1, ?_⟩
  rintro rfl v hmem
  obtain ⟨before, after, hpieces⟩ := List.append_of_mem hmem
  have haccepted := (render_named_ok hd hr).1 before _ after hpieces
  cases haccepted

/-- **The tokens of a statement do not depend on what its texts hold.** The text of a plain tree lexes to the
tokens of the tree, with every name, string, number and parameter decoded to what it was. -/
theorem lex_of_render {d : Dialect} {style : ParamStyle} (hd : d = .mysql ∨ d = .sqlServer) {e : Expr}
    (he : e.Plain style) {r : Rendered} (hr : e.render d style = .ok r) :
    lex d r.sql.toList = some (e.tokens d style) := by
  have hnamed : d.supportsNamed = true := by rcases hd with rfl | rfl <;> rfl
  rw [(render_ok hr).2]
  exact (he.operand hd (renderable_of_render hnamed hr)).lex_eq

/-- Quotes in a name and in a text, under a name that is no word. -/
def quotedTest : Expr := .binary ⟨.name "a`b", .eq, .constant (.text "x' OR '1'='1")⟩

theorem lex_of_render_quotes :
    (Dialect.mysql = .mysql ∨ Dialect.mysql = .sqlServer) ∧ quotedTest.Plain .positional ∧
      ∃ r, quotedTest.render .mysql .positional = .ok r ∧
        lex .mysql r.sql.toList = some [.identifier "a`b", .operator "=", .string "x' OR '1'='1"] := by
  have hplain : quotedTest.Plain .positional := by
    refine .node rfl fun c hc => ?_
    simp only [quotedTest, Expr.children, List.mem_cons, List.not_mem_nil, or_false] at hc
    rcases hc with rfl | rfl
    · exact .node rfl fun c hc => absurd hc List.not_mem_nil
    · exact .node rfl fun c hc => absurd hc List.not_mem_nil
  obtain ⟨r, hr⟩ : ∃ r, quotedTest.render .mysql .positional = .ok r := ⟨_, rfl⟩
  exact ⟨.inl rfl, hplain, r, hr, lex_of_render (.inl rfl) hplain hr⟩

end Sql
