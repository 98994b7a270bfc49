/-
A lexer for SQL Server that knows comments and all operators of symbols.

`scan` reads a text as SQL Server does: two minus signs begin a comment that lasts to the end of the line, of operators the
longest one is taken, and a sign before a number is an operator. `Reads` are texts that are read as the same tokens
whatever follows; `Symbolic.reads` says so of the texts of operators, and the lemmas behind it of names and numbers.
-/
import Sql.Proofs.Lexer

namespace Sql

namespace Lexer

/-! ## Comments and operators -/

/-- The characters that operators are made of. -/
def symbols : List Char := ['+', '-', '*', '/', '%', '&', '|', '^', '~', '<', '>', '=', '!']

/-- The operators of two characters. -/
def pairs : List (Char × Char) :=
  [('<', '='), ('>', '='), ('<', '>'), ('!', '='), ('!', '<'), ('!', '>'), ('+', '='), ('-', '='), ('*', '='), ('/', '='),
    ('%', '='), ('&', '='), ('|', '='), ('^', '=')]

/-- The first operator in a text that begins with a symbol, and what follows it. -/
def readSymbol (c : Char) : List Char → Token × List Char
  | [] => (.operator (String.singleton c), [])
  | c' :: cs =>
    if (c, c') ∈ pairs then (.operator (String.ofList [c, c']), cs) else (.operator (String.singleton c), c' :: cs)

/-- The operators in a text of symbols. -/
def symbolTokens : List Char → List Token
  | [] => []
  | [c] => [.operator (String.singleton c)]
  | c :: c' :: cs =>
    if (c, c') ∈ pairs then .operator (String.ofList [c, c']) :: symbolTokens cs
    else .operator (String.singleton c) :: symbolTokens (c' :: cs)

/-- Characters of parameter names: those of words, a few signs, the mark of parameters among them, and all beyond ASCII. -/
def isNameChar (c : Char) : Bool := isWordChar c || ['@', '#', '$'].contains c || 0x80 ≤ c.toNat

def isName (name : String) : Bool := !name.toList.isEmpty && name.toList.all isNameChar

/-- The token that begins with a character outside of comments, and what follows it. -/
def readToken (c : Char) (cs : List Char) : Option (Token × List Char) :=
  if c ∈ symbols then some (readSymbol c cs)
  else if c = '@' then
    let name := cs.takeWhile isNameChar
    if name = [] then none else some (.parameter (String.ofList name), cs.dropWhile isNameChar)
  else next .sqlServer c cs

theorem readSymbol_length (c : Char) (cs : List Char) : (readSymbol c cs).2.length ≤ cs.length := by
  fun_cases readSymbol c cs with
  | case1 => exact Nat.le_refl _
  | case2 c' cs hpair => exact Nat.le_succ _
  | case3 c' cs hpair => exact Nat.le_refl _

theorem readToken_length {c : Char} {cs rest : List Char} {t : Token} (h : readToken c cs = some (t, rest)) :
    rest.length ≤ cs.length := by
  unfold readToken at h
  dsimp only at h
  split at h
  · have hlength := readSymbol_length c cs
    rwa [Option.some.inj h] at hlength
  split at h
  · split at h
    · cases h
    · cases h
      exact length_dropWhile isNameChar cs
  · exact next_length h

end Lexer

open Lexer

/-- The tokens of a text for SQL Server. A comment that begins with a slash and a star is refused. -/
def scan : List Char → Option (List Token)
  | [] => some []
  | c :: cs =>
    if c.isWhitespace then scan cs
    else if c = '-' ∧ cs.head? = some '-' then scan (cs.dropWhile (· ≠ '\n'))
    else if c = '/' ∧ cs.head? = some '*' then none
    else
      match _h : readToken c cs with
      | none => none
      | some (t, rest) => (scan rest).map (t :: ·)
termination_by cs => cs.length
decreasing_by
  · simp
  · have := length_dropWhile (· ≠ '\n') cs
    simp only [List.length_cons]
    omega
  · have := readToken_length _h
    simp only [List.length_cons]
    omega

theorem scan_nil : scan [] = some [] := by
  rw [scan]

theorem scan_comment (cs : List Char) : scan ('-' :: '-' :: cs) = scan (cs.dropWhile (· ≠ '\n')) := by
  rw [scan, if_neg (by decide), if_pos ⟨rfl, rfl⟩, List.dropWhile_cons_of_pos (by decide)]

theorem scan_read {c : Char} {cs rest : List Char} {t : Token} (hblank : c.isWhitespace = false)
    (hline : ¬(c = '-' ∧ cs.head? = some '-')) (hblock : ¬(c = '/' ∧ cs.head? = some '*'))
    (h : readToken c cs = some (t, rest)) : scan (c :: cs) = (scan rest).map (t :: ·) := by
  rw [scan, if_neg (by simp [hblank]), if_neg hline, if_neg hblock]
  split
  · next hnone =>
    rw [h] at hnone
    cases hnone
  · next t' rest' hsome =>
    rw [h] at hsome
    cases hsome
    rfl

/-- A token that begins with no symbol. -/
theorem scan_next {c : Char} {cs rest : List Char} {t : Token} (hblank : c.isWhitespace = false) (hsymbol : c ∉ symbols)
    (hmark : c ≠ '@') (h : next .sqlServer c cs = some (t, rest)) : scan (c :: cs) = (scan rest).map (t :: ·) := by
  have hline : c ≠ '-' := by
    rintro rfl
    exact hsymbol (by decide)
  have hblock : c ≠ '/' := by
    rintro rfl
    exact hsymbol (by decide)
  refine scan_read hblank (fun h => hline h.1) (fun h => hblock h.1) ?_
  rw [readToken, if_neg hsymbol, if_neg hmark, h]

/-! ## Texts that are read -/

/-- A text that is read as the same tokens in front of everything that begins with such a character. -/
def Reads (follow : Char → Bool) (s : List Char) (ts : List Token) : Prop :=
  ∀ rest, (∀ c ∈ rest.head?, follow c = true) → scan (s ++ rest) = (scan rest).map (ts ++ ·)

namespace Reads

variable {f g : Char → Bool} {s s' : List Char} {ts ts' : List Token}

theorem nil : Reads f [] [] := by
  intro rest _
  rw [List.nil_append]
  cases scan rest <;> rfl

theorem mono (h : Reads f s ts) (hfg : ∀ c, g c = true → f c = true) : Reads g s ts :=
  fun rest hrest => h rest fun c hc => hfg c (hrest c hc)

theorem append (h : Reads f s ts) (h' : Reads g s' ts')
    (hnext : ∀ rest, (∀ c ∈ rest.head?, g c = true) → ∀ c ∈ (s' ++ rest).head?, f c = true) :
    Reads g (s ++ s') (ts ++ ts') := by
  intro rest hrest
  rw [List.append_assoc, h _ (hnext rest hrest), h' rest hrest, Option.map_map]
  simp only [Function.comp_def, List.append_assoc]

theorem append_cons {c : Char} (h : Reads f s ts) (h' : Reads g (c :: s') ts') (hc : f c = true) :
    Reads g (s ++ c :: s') (ts ++ ts') :=
  h.append h' fun _ _ _ hx => by
    cases hx
    exact hc

/-- The whole text. -/
theorem scan_eq (h : Reads f s ts) : scan s = some ts := by
  have hall := h [] fun _ hc => by cases hc
  rw [List.append_nil, scan_nil] at hall
  simpa using hall

end Reads

/-! ## Texts of symbols -/

theorem not_pair {c c' : Char} (h : c' ∉ ['=', '<', '>']) : (c, c') ∉ pairs := by
  have hall : ∀ x ∈ pairs.map Prod.snd, x ∈ ['=', '<', '>'] := forall_mem_of_all (by decide)
  exact fun hpair => h (hall c' (List.mem_map_of_mem (f := Prod.snd) hpair))

theorem readSymbol_single {c : Char} {cs : List Char} (h : ∀ c' ∈ cs.head?, (c, c') ∉ pairs) :
    readSymbol c cs = (.operator (String.singleton c), cs) := by
  cases cs with
  | nil => rfl
  | cons c' cs => rw [readSymbol, if_neg (h c' rfl)]

theorem symbol_class {c : Char} (hc : c ∈ symbols) : c.isWhitespace = false ∧ c.isAlpha = false ∧ c.isDigit = false ∧
    isNameChar c = false ∧ c ≠ '.' ∧ c ≠ ']' := by
  have hall : ∀ c ∈ symbols, c.isWhitespace = false ∧ c.isAlpha = false ∧ c.isDigit = false ∧
      isNameChar c = false ∧ c ≠ '.' ∧ c ≠ ']' := forall_mem_of_all (by decide)
  exact hall c hc

theorem scan_symbol {c : Char} {cs : List Char} (hc : c ∈ symbols) (hline : ¬(c = '-' ∧ cs.head? = some '-'))
    (hblock : ¬(c = '/' ∧ cs.head? = some '*')) :
    scan (c :: cs) = (scan (readSymbol c cs).2).map ((readSymbol c cs).1 :: ·) :=
  scan_read (symbol_class hc).1 hline hblock (by rw [readToken, if_pos hc])

/-- Symbols among which no comment begins. -/
structure Symbolic (cs : List Char) : Prop where
  symbols : ∀ c ∈ cs, c ∈ symbols
  line : ¬ ['-', '-'] <:+: cs
  block : ¬ ['/', '*'] <:+: cs

namespace Symbolic

variable {c c' : Char} {cs : List Char}

theorem tail (h : Symbolic (c :: cs)) : Symbolic cs where
  symbols x hx := h.symbols x (List.mem_cons_of_mem c hx)
  line hline := h.line (List.infix_cons hline)
  block hblock := h.block (List.infix_cons hblock)

/-- No comment begins at the first of two symbols. -/
theorem scan_first (h : Symbolic (c :: c' :: cs)) (rest : List Char) :
    scan (c :: c' :: rest) = (scan (readSymbol c (c' :: rest)).2).map ((readSymbol c (c' :: rest)).1 :: ·) := by
  refine scan_symbol (h.symbols c List.mem_cons_self) ?_ ?_
  · rintro ⟨rfl, hhead⟩
    exact h.line ⟨[], cs, by rw [Option.some.inj hhead]; rfl⟩
  · rintro ⟨rfl, hhead⟩
    exact h.block ⟨[], cs, by rw [Option.some.inj hhead]; rfl⟩

/-- The symbols before a last minus sign, which do not end with another one. -/
theorem before_minus (h : Symbolic (cs ++ ['-'])) : Symbolic cs ∧ cs.getLast? ≠ some '-' := by
  have hbefore {l : List Char} (hl : l <:+: cs) : l <:+: cs ++ ['-'] := hl.trans (List.prefix_append cs ['-']).isInfix
  refine ⟨⟨fun c hc => h.symbols c (List.mem_append_left _ hc), fun hl => h.line (hbefore hl),
    fun hl => h.block (hbefore hl)⟩, fun hlast => h.line ?_⟩
  obtain ⟨front, rfl⟩ := List.getLast?_eq_some_iff.1 hlast
  exact ⟨front, [], by simp⟩

end Symbolic

/-- The character goes on with no operator, and begins no comment behind the last one. -/
def stops (cs : List Char) (c : Char) : Bool :=
  !(['=', '<', '>', '*'].contains c) && !(c == '-' && cs.getLast? == some '-')

theorem stops_tail {c x : Char} {cs : List Char} (h : stops (c :: cs) x = true) : stops cs x = true := by
  cases cs with
  | nil => simpa [stops] using (Bool.and_eq_true_iff.1 h).1
  | cons c' cs => rwa [stops, List.getLast?_cons_cons] at h

theorem stops_cases {cs : List Char} {c : Char} (h : stops cs c = true) :
    c ∉ ['=', '<', '>'] ∧ c ≠ '*' ∧ (c = '-' → cs.getLast? ≠ some '-') := by
  have hall : (c ≠ '=' ∧ c ≠ '<' ∧ c ≠ '>' ∧ c ≠ '*') ∧ (c ≠ '-' ∨ cs.getLast? ≠ some '-') := by
    simpa [stops] using h
  obtain ⟨⟨hequal, hless, hgreater, hstar⟩, hline⟩ := hall
  exact ⟨by simp [hequal, hless, hgreater], hstar, fun hc => hline.resolve_left (not_not_intro hc)⟩

/-- **Symbols are read as their operators**, in the order of the pairs that are taken together. -/
theorem Symbolic.reads {cs : List Char} (h : Symbolic cs) : Reads (stops cs) cs (symbolTokens cs) := by
  -- Two symbols at the front are one operator or the first of them is, and the rest is read by itself.
  induction cs using symbolTokens.induct with
  | case1 => exact .nil
  | case2 c =>
    intro rest hrest
    have hsingle : readSymbol c rest = (.operator (String.singleton c), rest) :=
      readSymbol_single fun c' hc' => not_pair (stops_cases (hrest c' hc')).1
    have hline : ¬(c = '-' ∧ rest.head? = some '-') := fun ⟨hc, hhead⟩ =>
      (stops_cases (hrest '-' hhead)).2.2 rfl (by rw [hc]; rfl)
    have hblock : ¬(c = '/' ∧ rest.head? = some '*') := fun ⟨_, hhead⟩ => (stops_cases (hrest '*' hhead)).2.1 rfl
    rw [List.singleton_append, scan_symbol (h.symbols c List.mem_cons_self) hline hblock, hsingle]
    rfl
  | case3 c c' cs hpair ih =>
    intro rest hrest
    have hread : readSymbol c (c' :: (cs ++ rest)) = (.operator (String.ofList [c, c']), cs ++ rest) := by
      rw [readSymbol, if_pos hpair]
    have hcs := ih h.tail.tail rest fun x hx => stops_tail (stops_tail (hrest x hx))
    rw [List.cons_append, List.cons_append, h.scan_first, hread, hcs, Option.map_map, symbolTokens, if_pos hpair]
    rfl
  | case4 c c' cs hpair ih =>
    intro rest hrest
    have hread : readSymbol c (c' :: (cs ++ rest)) = (.operator (String.singleton c), c' :: (cs ++ rest)) := by
      rw [readSymbol, if_neg hpair]
    have hcs := ih h.tail rest fun x hx => stops_tail (hrest x hx)
    rw [List.cons_append, List.cons_append, h.scan_first, hread, ← List.cons_append, hcs, Option.map_map, symbolTokens,
      if_neg hpair]
    rfl

/-! ## Texts of names and numbers -/

/-- The character goes on with no number. -/
def endsNumber (c : Char) : Bool := !isWordChar c && c != '.'

/-- The character goes on with no name, number or parameter. -/
def endsOperand (c : Char) : Bool := !isNameChar c && c != '.' && c != ']'

namespace Reads

theorem quote (name : String) : Reads (· != ']') (Dialect.sqlServer.quote name).toList [.identifier name] := by
  intro rest hrest
  have hclose : rest.head? ≠ some ']' := fun h => absurd (hrest _ h) (by decide)
  have hchars : (Dialect.sqlServer.quote name).toList = '[' :: (Quoting.double ']' name.toList ++ [']']) := by
    rw [Dialect.quote, String.toList_ofList]
    rfl
  have hnext := Part.next_quote (d := .sqlServer) hclose name.toList
  rw [String.ofList_toList] at hnext
  rw [hchars]
  exact scan_next rfl (by decide) (by decide) hnext

theorem point : Reads (fun _ => true) ['.'] [.sign '.'] := by
  intro rest _
  exact scan_next rfl (by decide) (by decide) rfl

theorem placeholder : Reads (fun _ => true) ['?'] [.placeholder] := by
  intro rest _
  exact scan_next rfl (by decide) (by decide) rfl

theorem parameter {name : List Char} (hne : name ≠ []) (hname : ∀ c ∈ name, isNameChar c = true) :
    Reads (!isNameChar ·) ('@' :: name) [.parameter (String.ofList name)] := by
  intro rest hrest
  have hend : ∀ c ∈ rest.head?, isNameChar c = false := fun c hc => by simpa using hrest c hc
  have hread : readToken '@' (name ++ rest) = some (.parameter (String.ofList name), rest) := by
    rw [readToken, if_neg (by decide), if_pos rfl, takeWhile_run hname hend, dropWhile_run hname hend, if_neg hne]
  exact scan_read rfl (fun h => absurd h.1 (by decide)) (fun h => absurd h.1 (by decide)) hread

theorem digits {ds : List Char} (hne : ds ≠ []) (hds : ∀ c ∈ ds, c.isDigit = true) :
    Reads endsNumber ds [.number (Number.ofDigits ds)] := by
  intro rest hrest
  have hend : ∀ c ∈ rest.head?, isWordChar c = false ∧ c ≠ '.' := fun c hc => by
    simpa [endsNumber] using hrest c hc
  obtain ⟨c, cs, rfl⟩ := List.exists_cons_of_ne_nil hne
  have hc : c.isDigit = true := hds c List.mem_cons_self
  have hword : isWordChar c = true := by simp [isWordChar, Char.isAlphanum, hc]
  have hsymbol : c ∉ symbols := fun h => by
    rw [(symbol_class h).2.2.1] at hc
    cases hc
  have hmark : c ≠ '@' := by
    rintro rfl
    cases hc
  have hblank : c.isWhitespace = false := (Part.next_of_not_special (.inr rfl) (not_special (.inl hword)) []).1
  have hnext := Part.next_digits (d := .sqlServer) (.inr rfl) hds (fun c hc => (hend c hc).1) fun h => (hend _ h).2 rfl
  exact scan_next hblank hsymbol hmark hnext

theorem nat (n : Nat) : Reads endsNumber (Number.natDigits n) [.number n] := by
  have h := digits (Number.natDigits_ne_nil n) fun _ => Number.isDigit_of_mem_natDigits
  rwa [Number.ofDigits_natDigits] at h

/-- A sign before digits is an operator. -/
theorem minus : Reads Char.isDigit ['-'] [.operator "-"] := by
  intro rest hrest
  have hnot {c : Char} (hc : c.isDigit = false) : rest.head? ≠ some c := fun h => by
    rw [hrest c h] at hc
    cases hc
  have hsingle : readSymbol '-' rest = (.operator "-", rest) :=
    readSymbol_single fun c hc => not_pair fun hsecond => by
      have hall : ∀ c ∈ ['=', '<', '>'], c.isDigit = false := forall_mem_of_all (by decide)
      exact hnot (hall c hsecond) hc
  have hscan : scan ('-' :: rest) = _ :=
    scan_symbol (by decide) (fun h => hnot rfl h.2) (fun h => absurd h.1 (by decide))
  rw [List.singleton_append, hscan, hsingle]
  rfl

theorem negated {ds : List Char} (hne : ds ≠ []) (hds : ∀ c ∈ ds, c.isDigit = true) :
    Reads endsNumber ('-' :: ds) [.operator "-", .number (Number.ofDigits ds)] := by
  obtain ⟨c, cs, rfl⟩ := List.exists_cons_of_ne_nil hne
  exact minus.append_cons (digits hne hds) (hds c List.mem_cons_self)

end Reads

end Sql
