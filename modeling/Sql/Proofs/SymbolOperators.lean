/-
Operators of symbols, which stand between their operands without blanks.

`symbolOperators_read` says when the text of `left op right` is read as the tokens of the one operand, those of the operator
and those of the other one, and what is read where a minus sign stands before a negative number.
-/
import Sql.Proofs.NamedParameters
import Sql.Proofs.ServerLexer
import Sql.Proofs.StatementTexts
import Sql.Proofs.TokenStructure

namespace Sql

open Lexer

/-! ## Operands -/

/-- The tokens of a whole number: its digits, behind a sign if it is negative. -/
def Token.signed (n : Int) : List Token :=
  if n < 0 then [.operator "-", .number (-n)] else [.number n]

namespace Expr

/-- The characters of a tree for SQL Server. -/
def serverChars (style : ParamStyle) (e : Expr) : List Char := (e.textIn .sqlServer style).toList

/-- The tokens of an operand for SQL Server, where a sign is a token of its own. -/
def operandTokens (style : ParamStyle) : Expr → List Token
  | .constant (.int n) => Token.signed n.toInt
  | e => e.tokens .sqlServer style

/-- A name, a whole number or a bound value. Where parameters have names, the name is one token. -/
inductive Simple : ParamStyle → Expr → Prop where
  | identifier (style : ParamStyle) (qualifiers : List String) (name : String) : Simple style (.identifier qualifiers name)
  | int (style : ParamStyle) (n : Int64) : Simple style (.constant (.int n))
  | uint (style : ParamStyle) (n : UInt64) : Simple style (.constant (.uint n))
  | placeholder (name : Option String) (value : Value) : Simple .positional (.bound name value)
  | parameter {name : String} (value : Value) : isName name = true → Simple .named (.bound (some name) value)

def isNegative : Expr → Bool
  | .constant (.int n) => n.toInt < 0
  | _ => false

/-- A number whose text begins with a digit. -/
def isUnsigned : Expr → Bool
  | .constant (.int n) => 0 ≤ n.toInt
  | .constant (.uint _) => true
  | _ => false

/-- A bound value that is written by name. -/
def isNamed (style : ParamStyle) : Expr → Bool
  | .bound _ _ => style = .named
  | _ => false

def isConstant : Expr → Bool
  | .constant _ => true
  | _ => false

/-- The character does not go on with the last token of an operand. -/
def ends (style : ParamStyle) : Expr → Char → Bool
  | .identifier _ _, c => c != ']'
  | .bound _ _, c => style = .positional || !isNameChar c
  | _, c => endsNumber c

/-- The first character of an operand. -/
inductive Begins (style : ParamStyle) (e : Expr) : Char → Prop where
  | mark {c : Char} : c ∈ ['[', '?'] → Begins style e c
  | sign : e.isNegative = true → Begins style e '-'
  | digit {c : Char} : c.isDigit = true → e.isUnsigned = true → Begins style e c
  | name : e.isNamed style = true → Begins style e '@'

end Expr

section

variable {style : ParamStyle}

theorem reads_qualifiers (qualifiers : List String) :
    Reads (fun _ => true) (String.join (qualifiers.map fun q => Dialect.sqlServer.quote q ++ ".")).toList
      (qualifiers.flatMap fun q => [.identifier q, .sign '.']) := by
  induction qualifiers with
  | nil => exact .nil
  | cons q qualifiers ih =>
    have hfirst := ((Reads.quote q).append_cons .point (by decide)).append ih fun _ _ _ _ => rfl
    simpa [String.join_cons] using hfirst

theorem reads_identifier (qualifiers : List String) (name : String) :
    Reads (· != ']') (Dialect.sqlServer.identifierText qualifiers name).toList
      ((Expr.identifier qualifiers name).operandTokens style) := by
  have htokens : (Expr.identifier qualifiers name).operandTokens style =
      ((qualifiers.filter (!·.isEmpty)).flatMap fun q => [.identifier q, .sign '.']) ++ [.identifier name] := by
    simp [Expr.operandTokens]
  rw [Dialect.identifierText, String.toList_append, htokens]
  exact (reads_qualifiers _).append (.quote name) fun _ _ _ _ => rfl

theorem reads_int (n : Int) : Reads endsNumber (Number.intDigits n) (Token.signed n) := by
  cases n with
  | ofNat n => exact .nat n
  | negSucc n =>
    have hdigits := Reads.negated (Number.natDigits_ne_nil (n + 1)) fun _ => Number.isDigit_of_mem_natDigits
    rw [Number.ofDigits_natDigits] at hdigits
    rw [Token.signed, if_pos (Int.negSucc_lt_zero n)]
    exact hdigits

theorem serverChars_constant (v : Value) : (Expr.constant v).serverChars style = (v.literal .sqlServer).toList := by
  rw [Expr.serverChars, Expr.textIn, Expr.script, Script.textIn_text]

theorem serverChars_int (n : Int64) : (Expr.constant (.int n)).serverChars style = Number.intDigits n.toInt := by
  rw [serverChars_constant]
  exact String.toList_ofList

theorem serverChars_uint (n : UInt64) : (Expr.constant (.uint n)).serverChars style = Number.natDigits n.toNat := by
  rw [serverChars_constant]
  exact String.toList_ofList

theorem serverChars_bound (name : Option String) (v : Value) :
    (Expr.bound name v).serverChars style = ((Piece.parameter name v).textIn .sqlServer style).toList := by
  rw [Expr.serverChars, Expr.textIn, Expr.script, (Script.Spells.parameter name v).text]

theorem serverChars_placeholder (name : Option String) (v : Value) :
    (Expr.bound name v).serverChars .positional = ['?'] := by
  rw [serverChars_bound]
  show "?".toList = ['?']
  rfl

theorem serverChars_parameter (name : String) (v : Value) :
    (Expr.bound (some name) v).serverChars .named = '@' :: name.toList := by
  rw [serverChars_bound]
  exact String.toList_append

theorem isName_iff {name : String} :
    isName name = true ↔ name.toList ≠ [] ∧ ∀ c ∈ name.toList, isNameChar c = true := by
  simp [isName]

/-- An operand is read as its tokens. -/
theorem Expr.Simple.reads {e : Expr} (h : e.Simple style) :
    Reads (e.ends style) (e.serverChars style) (e.operandTokens style) := by
  cases h with
  | identifier style qualifiers name =>
    rw [Expr.serverChars, Expr.textIn, Expr.script, Script.textIn_text]
    exact reads_identifier qualifiers name
  | int style n =>
    rw [serverChars_int]
    exact reads_int n.toInt
  | uint style n =>
    have htokens : (Expr.constant (.uint n)).operandTokens style = [.number n.toNat] := by
      simp [Expr.operandTokens, Value.tokens]
    rw [serverChars_uint, htokens]
    exact .nat n.toNat
  | placeholder name value =>
    have htokens : Expr.operandTokens .positional (.bound name value) = [.placeholder] := by
      simp [Expr.operandTokens, ParamStyle.token]
    rw [serverChars_placeholder, htokens]
    exact Reads.placeholder.mono fun _ _ => rfl
  | @parameter name value hname =>
    obtain ⟨hne, hchars⟩ := isName_iff.1 hname
    have hreads := Reads.parameter hne hchars
    rw [String.ofList_toList] at hreads
    have htokens : Expr.operandTokens .named (.bound (some name) value) = [.parameter name] := by
      simp [Expr.operandTokens, ParamStyle.token]
    rw [serverChars_parameter, htokens]
    exact hreads.mono fun _ hc => hc

theorem isDigit_of_mem_intDigits {n : Int} (hn : 0 ≤ n) {c : Char} (hc : c ∈ Number.intDigits n) : c.isDigit = true := by
  cases n with
  | ofNat n => exact Number.isDigit_of_mem_natDigits hc
  | negSucc n => exact absurd hn (by simp)

/-- A number without a sign is made of digits. -/
theorem Expr.Simple.digits {e : Expr} (h : e.Simple style) (hunsigned : e.isUnsigned = true) :
    e.serverChars style ≠ [] ∧ ∀ c ∈ e.serverChars style, c.isDigit = true := by
  cases h with
  | identifier | placeholder | parameter => cases hunsigned
  | int style n =>
    have hn : 0 ≤ n.toInt := of_decide_eq_true hunsigned
    rw [serverChars_int]
    refine ⟨?_, fun c hc => isDigit_of_mem_intDigits hn hc⟩
    obtain ⟨k, hk⟩ := Int.eq_ofNat_of_zero_le hn
    rw [hk]
    exact Number.natDigits_ne_nil k
  | uint style n =>
    rw [serverChars_uint]
    exact ⟨Number.natDigits_ne_nil _, fun c hc => Number.isDigit_of_mem_natDigits hc⟩

/-- A negative number is a sign and digits. -/
theorem Expr.Simple.negative {e : Expr} (h : e.Simple style) (hnegative : e.isNegative = true) :
    ∃ ds, e.serverChars style = '-' :: ds ∧ ∀ c ∈ ds, c.isDigit = true := by
  cases h with
  | identifier | uint | placeholder | parameter => cases hnegative
  | int style n =>
    have hn : n.toInt < 0 := of_decide_eq_true hnegative
    obtain ⟨k, hk⟩ := Int.eq_negSucc_of_lt_zero hn
    rw [serverChars_int, hk]
    exact ⟨_, rfl, fun c hc => Number.isDigit_of_mem_natDigits hc⟩

theorem exists_identifierText (qualifiers : List String) (name : String) :
    ∃ cs, (Dialect.sqlServer.identifierText qualifiers name).toList = '[' :: cs := by
  have hquote (name : String) : ∃ cs, (Dialect.sqlServer.quote name).toList = '[' :: cs := ⟨_, String.toList_ofList⟩
  rw [Dialect.identifierText, String.toList_append]
  cases qualifiers.filter (!·.isEmpty) with
  | nil =>
    obtain ⟨cs, hcs⟩ := hquote name
    exact ⟨cs, by simp [hcs]⟩
  | cons q qualifiers =>
    obtain ⟨cs, hcs⟩ := hquote q
    exact ⟨_, by simp [String.join_cons, hcs]; rfl⟩

theorem Expr.Simple.begins {e : Expr} (h : e.Simple style) :
    ∃ c cs, e.serverChars style = c :: cs ∧ e.Begins style c := by
  by_cases hnegative : e.isNegative = true
  · obtain ⟨ds, hds, -⟩ := h.negative hnegative
    exact ⟨'-', ds, hds, .sign hnegative⟩
  by_cases hunsigned : e.isUnsigned = true
  · obtain ⟨hne, hdigits⟩ := h.digits hunsigned
    obtain ⟨c, cs, hcs⟩ := List.exists_cons_of_ne_nil hne
    exact ⟨c, cs, hcs, .digit (hdigits c (hcs ▸ List.mem_cons_self)) hunsigned⟩
  cases h with
  | identifier style qualifiers name =>
    obtain ⟨cs, hcs⟩ := exists_identifierText qualifiers name
    refine ⟨'[', cs, ?_, .mark (by decide)⟩
    rw [Expr.serverChars, Expr.textIn, Expr.script, Script.textIn_text, hcs]
  | int style n =>
    have hn : ¬ n.toInt < 0 := fun h => hnegative (decide_eq_true h)
    exact absurd (decide_eq_true (Int.not_lt.1 hn)) hunsigned
  | uint => exact absurd rfl hunsigned
  | placeholder name value => exact ⟨'?', [], serverChars_placeholder name value, .mark (by decide)⟩
  | @parameter name value hname => exact ⟨'@', name.toList, serverChars_parameter name value, .name rfl⟩

/-! ## Operators between operands -/

/-- Operators and operands whose characters make other tokens where they meet: a minus sign and that of a number begin a
comment, and where there is no operator at all, digits and names go on with what stands before them. -/
inductive Fuses (style : ParamStyle) (op : String) (left right : Expr) : Prop where
  | comment : op.toList.getLast? = some '-' → right.isNegative = true → Fuses style op left right
  | digits : op = "" → left.isConstant = true ∨ left.isNamed style = true → right.isUnsigned = true →
      Fuses style op left right
  | names : op = "" → left.isNamed style = true → right.isNamed style = true → Fuses style op left right

variable {op : String} {left right : Expr}

theorem ends_of_endsOperand {e : Expr} (h : e.Simple style) {c : Char} (hc : endsOperand c = true) :
    e.ends style c = true := by
  obtain ⟨⟨hname, hpoint⟩, hclose⟩ : (isNameChar c = false ∧ c ≠ '.') ∧ c ≠ ']' := by simpa [endsOperand] using hc
  have hword : isWordChar c = false := (Bool.or_eq_false_iff.1 (Bool.or_eq_false_iff.1 hname).1).1
  cases h with
  | identifier => simp [Expr.ends, hclose]
  | int | uint => simp [Expr.ends, endsNumber, hword, hpoint]
  | placeholder => rfl
  | parameter => simp [Expr.ends, hname]

theorem endsOperand_of_mem_symbols {c : Char} (hc : c ∈ symbols) : endsOperand c = true := by
  obtain ⟨-, -, -, hname, hpoint, hclose⟩ := symbol_class hc
  simp [endsOperand, hname, hpoint, hclose]

/-- Operands that do not run together may stand next to each other. -/
theorem ends_of_not_fuses (hleft : left.Simple style) (hnot : ¬ Fuses style "" left right) {c : Char}
    (hc : right.Begins style c) : left.ends style c = true := by
  cases hc with
  | mark hc =>
    have hall : ∀ c ∈ ['[', '?'], endsOperand c = true := forall_mem_of_all (by decide)
    exact ends_of_endsOperand hleft (hall c hc)
  | sign _ => exact ends_of_endsOperand hleft (by decide)
  | digit hdigit hunsigned =>
    cases hleft with
    | identifier =>
      have hclose : c ≠ ']' := by
        rintro rfl
        cases hdigit
      simp [Expr.ends, hclose]
    | int | uint => exact absurd (.digits rfl (.inl rfl) hunsigned) hnot
    | placeholder => rfl
    | parameter => exact absurd (.digits rfl (.inr rfl) hunsigned) hnot
  | name hnamed =>
    cases hleft with
    | identifier | int | uint | placeholder => rfl
    | parameter => exact absurd (.names rfl rfl hnamed) hnot

/-- The first character of an operand goes on with no operator. -/
theorem stops_of_begins {cs : List Char} {c : Char} (hc : right.Begins style c)
    (hnot : ¬(cs.getLast? = some '-' ∧ right.isNegative = true)) : stops cs c = true := by
  have hplain {c : Char} (h : c ∉ ['=', '<', '>', '*', '-']) : stops cs c = true := by
    simp only [List.mem_cons, List.not_mem_nil, or_false, not_or] at h
    simp [stops, h]
  cases hc with
  | mark hc =>
    have hall : ∀ c ∈ ['[', '?'], c ∉ ['=', '<', '>', '*', '-'] := forall_mem_of_all (by decide)
    exact hplain (hall c hc)
  | sign hnegative =>
    have hlast : cs.getLast? ≠ some '-' := fun h => hnot ⟨h, hnegative⟩
    simp [stops, hlast]
  | digit hdigit _ =>
    have hall : ∀ c ∈ ['=', '<', '>', '*', '-'], c.isDigit = false := forall_mem_of_all (by decide)
    refine hplain fun h => ?_
    rw [hall c h] at hdigit
    cases hdigit
  | name _ => exact hplain (by decide)

/-- **Operands and an operator that do not fuse** are read one after the other. -/
theorem reads_apart (hop : Symbolic op.toList) (hleft : left.Simple style) (hright : right.Simple style)
    (hnot : ¬ Fuses style op left right) :
    Reads endsOperand
      (left.serverChars style ++ (op.toList ++ right.serverChars style))
      (left.operandTokens style ++ (symbolTokens op.toList ++ right.operandTokens style)) := by
  obtain ⟨c, cs, hcs, hc⟩ := hright.begins
  have hend := hright.reads.mono fun _ => ends_of_endsOperand hright
  rw [hcs] at hend ⊢
  have hstops : stops op.toList c = true := stops_of_begins hc fun h => hnot (.comment h.1 h.2)
  have hback := hop.reads.append_cons hend hstops
  -- Without an operator, the right operand itself stands behind the left one.
  cases hchars : op.toList with
  | nil =>
    obtain rfl : op = "" := String.toList_eq_nil_iff.1 hchars
    exact hleft.reads.append_cons hend (ends_of_not_fuses hleft hnot hc)
  | cons x xs =>
    rw [hchars] at hback
    have hx : x ∈ symbols := hop.symbols x (hchars ▸ List.mem_cons_self)
    exact hleft.reads.append_cons hback (ends_of_endsOperand hleft (endsOperand_of_mem_symbols hx))

/-! ## What becomes of fused texts -/

theorem reads_before_minus {cs : List Char} (hop : Symbolic (cs ++ ['-'])) (rest : List Char) :
    scan (cs ++ '-' :: rest) = (scan ('-' :: rest)).map (symbolTokens cs ++ ·) := by
  obtain ⟨hcs, hlast⟩ := hop.before_minus
  refine hcs.reads ('-' :: rest) fun c hc => ?_
  cases hc
  simp [stops, hlast]

theorem symbolTokens_concat_minus {cs : List Char} (hop : Symbolic (cs ++ ['-'])) :
    symbolTokens (cs ++ ['-']) = symbolTokens cs ++ [.operator "-"] := by
  have hall := hop.reads.scan_eq
  rw [reads_before_minus hop [], Reads.minus.scan_eq] at hall
  exact (Option.some.inj hall).symm

/-- A minus sign before a negative number hides the number and all of the line behind it. -/
theorem scan_hidden {cs : List Char} (hop : Symbolic (cs ++ ['-'])) (hleft : left.Simple style)
    (hright : right.Simple style) (hnegative : right.isNegative = true) (rest : List Char) :
    scan (left.serverChars style ++ (cs ++ ['-'] ++ right.serverChars style) ++ rest) =
      (scan (rest.dropWhile (· ≠ '\n'))).map (left.operandTokens style ++ symbolTokens cs ++ ·) := by
  obtain ⟨ds, hds, hdigits⟩ := hright.negative hnegative
  have hline : ∀ c ∈ ds, decide (c ≠ '\n') = true := fun c hc => decide_eq_true fun heq => by
    have hdigit := hdigits c hc
    rw [heq] at hdigit
    cases hdigit
  have hback : scan (cs ++ '-' :: '-' :: (ds ++ rest)) =
      (scan (rest.dropWhile (· ≠ '\n'))).map (symbolTokens cs ++ ·) := by
    rw [reads_before_minus hop, scan_comment, List.dropWhile_append_of_pos hline]
  have hend : ∀ c ∈ (cs ++ '-' :: '-' :: (ds ++ rest)).head?, left.ends style c = true := by
    intro c hc
    refine ends_of_endsOperand hleft (endsOperand_of_mem_symbols (hop.symbols c ?_))
    cases cs with
    | nil => exact List.mem_append_right _ (by cases hc; exact List.mem_cons_self)
    | cons x xs => cases hc; exact List.mem_append_left _ List.mem_cons_self
  -- The last sign of the operator and that of the number are next to each other.
  have htext : left.serverChars style ++ (cs ++ ['-'] ++ '-' :: ds) ++ rest =
      left.serverChars style ++ (cs ++ '-' :: '-' :: (ds ++ rest)) := by simp
  rw [hds, htext, hleft.reads _ hend, hback, Option.map_map]
  simp only [Function.comp_def, List.append_assoc]

/-- What goes on with a name becomes a part of it. -/
theorem absorbs_name (hleft : left.Simple style) (hnamed : left.isNamed style = true) {cs : List Char}
    (hcs : ∀ c ∈ cs, isNameChar c = true) :
    ∃ ts, scan (left.serverChars style ++ cs) = some ts ∧
      ts.length = (left.operandTokens style).length := by
  cases hleft with
  | identifier | int | uint | placeholder => cases hnamed
  | @parameter name value hname =>
    obtain ⟨hne, hchars⟩ := isName_iff.1 hname
    have hall : ∀ c ∈ name.toList ++ cs, isNameChar c = true := List.forall_mem_append.2 ⟨hchars, hcs⟩
    rw [serverChars_parameter, List.cons_append]
    exact ⟨_, (Reads.parameter (List.append_ne_nil_of_left_ne_nil hne cs) hall).scan_eq, by simp [Expr.operandTokens]⟩

/-- Digits behind a number become a part of it. -/
theorem absorbs_digits (hleft : left.Simple style) (hconstant : left.isConstant = true) {ds : List Char}
    (hds : ∀ c ∈ ds, c.isDigit = true) :
    ∃ ts, scan (left.serverChars style ++ ds) = some ts ∧
      ts.length = (left.operandTokens style).length := by
  have hne (n : Nat) : Number.natDigits n ++ ds ≠ [] := List.append_ne_nil_of_left_ne_nil (Number.natDigits_ne_nil n) ds
  have hall (n : Nat) : ∀ c ∈ Number.natDigits n ++ ds, c.isDigit = true :=
    List.forall_mem_append.2 ⟨fun _ => Number.isDigit_of_mem_natDigits, hds⟩
  cases hleft with
  | identifier | placeholder | parameter => cases hconstant
  | uint style n =>
    rw [serverChars_uint]
    exact ⟨_, (Reads.digits (hne _) (hall _)).scan_eq, by simp [Expr.operandTokens, Value.tokens]⟩
  | int style n =>
    rw [serverChars_int, Expr.operandTokens]
    cases n.toInt with
    | ofNat k => exact ⟨_, (Reads.digits (hne k) (hall k)).scan_eq, rfl⟩
    | negSucc k =>
      rw [Token.signed, if_pos (Int.negSucc_lt_zero k)]
      exact ⟨_, (Reads.negated (hne (k + 1)) (hall (k + 1))).scan_eq, rfl⟩

theorem operandTokens_ne_nil {e : Expr} (h : e.Simple style) : e.operandTokens style ≠ [] := by
  cases h with
  | identifier => simp [Expr.operandTokens]
  | int style n =>
    rw [Expr.operandTokens, Token.signed]
    split <;> exact List.cons_ne_nil _ _
  | uint | placeholder | parameter => simp [Expr.operandTokens, Value.tokens]

/-- Operands that run together are one token less than they should be. -/
theorem not_reads_of_runs (hleft : left.Simple style) (hright : right.Simple style)
    (hruns : (left.isConstant = true ∨ left.isNamed style = true) ∧ right.isUnsigned = true ∨
      left.isNamed style = true ∧ right.isNamed style = true) :
    scan (left.serverChars style ++ right.serverChars style) ≠
      some (left.operandTokens style ++ right.operandTokens style) := by
  obtain ⟨ts, hts, hlength⟩ : ∃ ts,
      scan (left.serverChars style ++ right.serverChars style) = some ts ∧
        ts.length = (left.operandTokens style).length := by
    rcases hruns with ⟨hconstant | hnamed, hunsigned⟩ | ⟨hnamed, hnamed'⟩
    · exact absorbs_digits hleft hconstant (hright.digits hunsigned).2
    · refine absorbs_name hleft hnamed fun c hc => ?_
      simp [isNameChar, isWordChar, Char.isAlphanum, (hright.digits hunsigned).2 c hc]
    · refine absorbs_name hleft hnamed ?_
      cases hright with
      | identifier | int | uint | placeholder => cases hnamed'
      | @parameter name value hname =>
        rw [serverChars_parameter]
        exact List.forall_mem_cons.2 ⟨rfl, (isName_iff.1 hname).2⟩
  intro h
  rw [hts, Option.some.injEq] at h
  rw [h, List.length_append] at hlength
  have := List.length_pos_iff.2 (operandTokens_ne_nil hright)
  omega

theorem Expr.Simple.spells {e : Expr} (h : e.Simple style) : e.Spells .sqlServer style (e.textIn .sqlServer style) := by
  refine spells_textIn ?_
  cases h <;> rfl

theorem Expr.Simple.names {e : Expr} (h : e.Simple style) :
    ∀ q ∈ e.parameters .offsetFetch, style = .named → q.name.isSome = true := by
  cases h with
  | identifier | int | uint => exact fun _ hq => absurd hq (by simp [Expr.parameters])
  | placeholder => exact fun _ _ h => (by cases h)
  | parameter => simp [Expr.parameters]

/-- **Where operands and operator fuse**, the text is read otherwise. -/
theorem reads_apart_iff (hop : Symbolic op.toList) (hleft : left.Simple style) (hright : right.Simple style) :
    Reads endsOperand
        (left.serverChars style ++ (op.toList ++ right.serverChars style))
        (left.operandTokens style ++ (symbolTokens op.toList ++ right.operandTokens style)) ↔
      ¬ Fuses style op left right := by
  refine ⟨fun hreads hfuses => ?_, reads_apart hop hleft hright⟩
  have hscan := hreads.scan_eq
  cases hfuses with
  | comment hlast hnegative =>
    obtain ⟨cs, hcs⟩ := List.getLast?_eq_some_iff.1 hlast
    rw [hcs] at hop hscan
    have hhidden := scan_hidden hop hleft hright hnegative []
    rw [List.append_nil] at hhidden
    rw [hhidden, List.dropWhile_nil, scan_nil, symbolTokens_concat_minus hop, Option.map_some, Option.some.injEq] at hscan
    have hlength := congrArg List.length hscan
    simp only [List.length_append, List.length_cons, List.length_nil] at hlength
    omega
  | digits hop' hword hunsigned =>
    subst hop'
    exact not_reads_of_runs hleft hright (.inl ⟨hword, hunsigned⟩) hscan
  | names hop' hnamed hnamed' =>
    subst hop'
    exact not_reads_of_runs hleft hright (.inr ⟨hnamed, hnamed'⟩) hscan

/-! ## Statements -/

theorem spells_symbolic (hop : Symbolic op.toList) (hleft : left.Simple style) (hright : right.Simple style) :
    (Expr.binary ⟨left, .custom op, right⟩).Spells .sqlServer style
      (left.textIn .sqlServer style ++ op ++ right.textIn .sqlServer style) := by
  have hkeyword : (BinaryOp.custom op).isKeyword = false := by
    rw [BinaryOp.isKeyword, BinaryOp.text]
    cases hchars : op.toList with
    | nil => rfl
    | cons c cs => exact (symbol_class (hop.symbols c (hchars ▸ List.mem_cons_self))).2.1
  have hspells : (Expr.binary ⟨left, .custom op, right⟩).Spells .sqlServer style _ :=
    spells_binary hleft.spells hright.spells rfl
  rw [hkeyword] at hspells
  exact hspells

theorem renders_symbolic_iff (hop : Symbolic op.toList) (hleft : left.Simple style) (hright : right.Simple style) :
    (∃ r, (Expr.binary ⟨left, .custom op, right⟩).render .sqlServer style = .ok r) ↔
      (style = .named →
        (left.parameters .offsetFetch ++ right.parameters .offsetFetch).Pairwise Parameter.Agree) := by
  have hfault := (spells_symbolic hop hleft hright).fault
  cases style with
  | positional => exact ⟨fun _ h => (by cases h), fun _ => renders_positional_iff.2 hfault⟩
  | named =>
    have hparameters : (Expr.binary ⟨left, .custom op, right⟩).parameters .offsetFetch =
        left.parameters .offsetFetch ++ right.parameters .offsetFetch := by
      rw [Expr.parameters, binaryParameters, if_neg (by simp [BinaryOp.isMembership])]
    have hnames : ∀ q ∈ left.parameters .offsetFetch ++ right.parameters .offsetFetch, q.name.isSome = true :=
      List.forall_mem_append.2 ⟨fun q hq => hleft.names q hq rfl, fun q hq => hright.names q hq rfl⟩
    have hiff := renders_named_iff (d := .sqlServer) rfl hfault
    rw [show Dialect.sqlServer.pagination = .offsetFetch from rfl, hparameters] at hiff
    exact ⟨fun h _ => (hiff.1 h).2, fun h => hiff.2 ⟨hnames, h rfl⟩⟩

/-- **Operators of symbols stand apart from their operands** in what SQL Server reads, unless a minus sign meets a negative
number or no operator stands between characters of one token. -/
theorem symbolOperators_read (hop : Symbolic op.toList) (hleft : left.Simple style) (hright : right.Simple style) :
    ((∃ r, (Expr.binary ⟨left, .custom op, right⟩).render .sqlServer style = .ok r) ↔
      (style = .named →
        (left.parameters .offsetFetch ++ right.parameters .offsetFetch).Pairwise Parameter.Agree)) ∧
    ∀ r, (Expr.binary ⟨left, .custom op, right⟩).render .sqlServer style = .ok r →
      (Reads endsOperand r.sql.toList
          (left.operandTokens style ++ (symbolTokens op.toList ++ right.operandTokens style)) ↔
        ¬ Fuses style op left right) ∧
      ∀ shown, op = shown ++ "-" → right.isNegative = true → ∀ rest,
        scan (r.sql.toList ++ rest) =
          (scan (rest.dropWhile (· ≠ '\n'))).map (left.operandTokens style ++ symbolTokens shown.toList ++ ·) := by
  refine ⟨renders_symbolic_iff hop hleft hright, fun r hr => ?_⟩
  have hsql : r.sql.toList =
      left.serverChars style ++ (op.toList ++ right.serverChars style) := by
    rw [(spells_symbolic hop hleft hright).sql hr, String.toList_append, String.toList_append, List.append_assoc]
    rfl
  rw [hsql]
  refine ⟨reads_apart_iff hop hleft hright, ?_⟩
  rintro shown rfl hnegative rest
  rw [String.toList_append] at hop ⊢
  exact scan_hidden hop hleft hright hnegative rest

end

/-- A column that is at most minus five. -/
def belowZero : Expr := .binary ⟨.name "a", .custom "<=", .constant (.int (-5))⟩

theorem symbolOperators_read_belowZero :
    ∃ r, belowZero.render .sqlServer .positional = .ok r ∧ r.sql = "[a]<=-5" ∧
      scan r.sql.toList = some [.identifier "a", .operator "<=", .operator "-", .number 5] := by
  have hop : Symbolic "<=".toList := ⟨forall_mem_of_all (by decide), by decide, by decide⟩
  obtain ⟨r, hr, hsql⟩ : ∃ r, belowZero.render .sqlServer .positional = .ok r ∧ r.sql = "[a]<=-5" := ⟨_, rfl, by decide⟩
  have hapart : ¬ Fuses .positional "<=" (.name "a") (.constant (.int (-5))) := by
    intro h
    cases h with
    | comment hlast _ => exact absurd hlast (by decide)
    | digits hop _ _ | names hop _ _ => exact absurd hop (by decide)
  have htokens : (Expr.name "a").operandTokens .positional ++ (symbolTokens "<=".toList ++
      (Expr.constant (.int (-5))).operandTokens .positional) =
        [.identifier "a", .operator "<=", .operator "-", .number 5] := by decide
  have hread := ((symbolOperators_read hop (.identifier .positional [] "a") (.int .positional (-5))).2 r hr).1.2 hapart
  exact ⟨r, hr, hsql, hread.scan_eq.trans (congrArg some htokens)⟩

/-- A minus sign before a negative number. -/
def minusNegative : Expr := .binary ⟨.name "a", .custom "-", .constant (.int (-5))⟩

/-- The number and the test behind it are hidden. -/
theorem symbolOperators_hide :
    (∃ r, minusNegative.render .sqlServer .positional = .ok r ∧ r.sql = "[a]--5" ∧
      scan r.sql.toList = some [.identifier "a"]) ∧
    ∃ r, (Expr.allOf [minusNegative, .binary ⟨.name "b", .eq, .constant (.int 1)⟩]).render .sqlServer .positional =
      .ok r ∧ r.sql = "[a]--5 AND [b]=1" ∧ scan r.sql.toList = some [.identifier "a"] := by
  have hop : Symbolic ([] ++ ['-']) := ⟨forall_mem_of_all (by decide), by decide, by decide⟩
  have hname : (Expr.name "a").Simple .positional := .identifier .positional [] "a"
  have hhidden := scan_hidden hop hname (.int .positional (-5)) rfl
  have hchars : (Expr.name "a").serverChars .positional ++ ([] ++ ['-'] ++
      (Expr.constant (.int (-5))).serverChars .positional) = "[a]--5".toList := by decide
  have hline {rest : List Char} (hrest : rest.dropWhile (· ≠ '\n') = []) :
      scan ("[a]--5".toList ++ rest) = some [.identifier "a"] := by
    have htokens : (Expr.name "a").operandTokens .positional ++ symbolTokens [] = [.identifier "a"] := by decide
    rw [← hchars, hhidden, hrest, scan_nil, ← htokens]
    rfl
  have halone : scan "[a]--5".toList = some [.identifier "a"] := by
    rw [← List.append_nil "[a]--5".toList]
    exact hline rfl
  have hbefore : scan "[a]--5 AND [b]=1".toList = some [.identifier "a"] := by
    have hrest : "[a]--5 AND [b]=1".toList = "[a]--5".toList ++ " AND [b]=1".toList := by decide
    rw [hrest]
    exact hline (by decide)
  obtain ⟨r, hr, hsql⟩ : ∃ r, minusNegative.render .sqlServer .positional = .ok r ∧ r.sql = "[a]--5" := ⟨_, rfl, by decide⟩
  refine ⟨⟨r, hr, hsql, hsql ▸ halone⟩, ?_⟩
  obtain ⟨r, hr, hsql⟩ : ∃ r, (Expr.allOf [minusNegative, .binary ⟨.name "b", .eq, .constant (.int 1)⟩]).render
      .sqlServer .positional = .ok r ∧ r.sql = "[a]--5 AND [b]=1" := ⟨_, rfl, by decide⟩
  exact ⟨r, hr, hsql, hsql ▸ hbefore⟩

end Sql
