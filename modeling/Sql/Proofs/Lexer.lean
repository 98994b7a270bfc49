/-
A lexer for statements of either dialect, and the texts that are one token each.

`lex` splits a text into tokens and decodes names, strings and numbers. It refuses what is no token: quotes that are
not closed, digits that letters follow, runs of operator characters that are no operator, and all characters
that do not occur outside of quotes, so that nothing can begin a comment.

A text may be a part of a statement (`Part`) if it lexes to the same tokens in front of everything that can
stand behind it. `Part.append` puts parts together; the rest of the module has one lemma for each kind of token.
-/
import Sql.Dialect
import Sql.Proofs.QuotedText

namespace Sql

inductive Token where
  | word (w : String)
  | identifier (name : String)
  | string (text : String)
  | number (n : Int)
  | operator (op : String)
  | sign (c : Char)
  | placeholder
  | parameter (name : String)
deriving DecidableEq, Repr

namespace Lexer

def isWordStart (c : Char) : Bool := c.isAlpha || c == '_'

def isWordChar (c : Char) : Bool := c.isAlphanum || c == '_'

/-- A letter or underscore, and then letters, digits and underscores. -/
def isWord (w : String) : Bool :=
  w.toList.head?.any isWordStart && w.toList.all isWordChar

def isOperatorChar (c : Char) : Bool := c == '=' || c == '!' || c == '<' || c == '>'

def operators : List String := ["=", "!=", ">", ">=", "<", "<="]

def isSign (c : Char) : Bool := c == '(' || c == ')' || c == ',' || c == '.' || c == '*'

/-- Digits that neither letters nor a point follow. -/
def readDigits (cs : List Char) : Option (Nat × List Char) :=
  let digits := cs.takeWhile isWordChar
  let rest := cs.dropWhile isWordChar
  if digits ≠ [] ∧ digits.all Char.isDigit ∧ rest.head? ≠ some '.' then some (Number.ofDigits digits, rest) else none

/-- The text of a string and what follows its closing quote. A second quote right behind that one would go on
with the string; where strings have backslashes, it is refused. -/
def readString (d : Dialect) (cs : List Char) : Option (List Char × List Char) :=
  match d.stringEscape with
  | .backslash => (Quoting.readBackslash cs).filter fun (_, rest) => rest.head? ≠ some '\x27'
  | .doubled => Quoting.readDoubled '\x27' cs

/-- The token that begins with a character, and what follows it. A minus sign belongs to the digits
behind it. -/
def next (d : Dialect) (c : Char) (cs : List Char) : Option (Token × List Char) :=
  if c = d.openQuote then
    (Quoting.readDoubled d.closeQuote cs).map fun (name, rest) => (.identifier (String.ofList name), rest)
  else if c = '\x27' then
    (readString d cs).map fun (text, rest) => (.string (String.ofList text), rest)
  else if c = '?' then some (.placeholder, cs)
  else if c = d.nameMark then
    let name := String.ofList (cs.takeWhile isWordChar)
    if isWord name then some (.parameter name, cs.dropWhile isWordChar) else none
  else if isSign c then some (.sign c, cs)
  else if isOperatorChar c then
    let op := String.ofList (c :: cs.takeWhile isOperatorChar)
    if op ∈ operators then some (.operator op, cs.dropWhile isOperatorChar) else none
  else if isWordStart c then
    some (.word (String.ofList (c :: cs.takeWhile isWordChar)), cs.dropWhile isWordChar)
  else if c = '-' then (readDigits cs).map fun (n, rest) => (.number (-n), rest)
  else (readDigits (c :: cs)).map fun (n, rest) => (.number n, rest)

theorem length_dropWhile (p : Char → Bool) (cs : List Char) : (cs.dropWhile p).length ≤ cs.length :=
  (List.dropWhile_sublist p).length_le

theorem readDigits_length {cs rest : List Char} {n : Nat} (h : readDigits cs = some (n, rest)) :
    rest.length < cs.length := by
  unfold readDigits at h
  dsimp only at h
  split at h
  · next hrun =>
    cases h
    cases cs with
    | nil => exact absurd rfl hrun.1
    | cons c cs =>
      have hc : isWordChar c = true := by
        cases hc : isWordChar c with
        | true => rfl
        | false => simp [hc] at hrun
      rw [List.dropWhile_cons_of_pos hc, List.length_cons]
      have := length_dropWhile isWordChar cs
      omega
  · cases h

theorem readString_length {d : Dialect} {cs text rest : List Char} (h : readString d cs = some (text, rest)) :
    rest.length < cs.length := by
  unfold readString at h
  split at h
  · exact Quoting.readBackslash_length (Option.filter_eq_some_iff.1 h).1
  · exact Quoting.readDoubled_length h

theorem next_length {d : Dialect} {c : Char} {cs rest : List Char} {t : Token}
    (h : next d c cs = some (t, rest)) : rest.length ≤ cs.length := by
  have hdrop := length_dropWhile
  unfold next at h
  dsimp only at h
  split at h
  · obtain ⟨text, hread⟩ := Quoting.exists_of_map h
    exact Nat.le_of_lt (Quoting.readDoubled_length hread)
  split at h
  · obtain ⟨text, hread⟩ := Quoting.exists_of_map h
    exact Nat.le_of_lt (readString_length hread)
  split at h
  · cases h
    exact Nat.le_refl _
  split at h
  · split at h
    · cases h
      exact hdrop _ _
    · cases h
  split at h
  · cases h
    exact Nat.le_refl _
  split at h
  · split at h
    · cases h
      exact hdrop _ _
    · cases h
  split at h
  · cases h
    exact hdrop _ _
  split at h
  · obtain ⟨n, hread⟩ := Quoting.exists_of_map h
    exact Nat.le_of_lt (readDigits_length hread)
  · obtain ⟨n, hread⟩ := Quoting.exists_of_map h
    exact Nat.le_of_lt_succ (readDigits_length hread)

end Lexer

open Lexer

/-- The tokens of a text, if it has no place that is no token. -/
def lex (d : Dialect) : List Char → Option (List Token)
  | [] => some []
  | c :: cs =>
    if c.isWhitespace then lex d cs
    else
      match _h : next d c cs with
      | none => none
      | some (t, rest) => (lex d rest).map (t :: ·)
termination_by cs => cs.length
decreasing_by
  · simp
  · have := next_length _h
    simp only [List.length_cons]
    omega

theorem lex_nil (d : Dialect) : lex d [] = some [] := by
  rw [lex]

theorem lex_blank (d : Dialect) {c : Char} (hc : c.isWhitespace = true) (cs : List Char) :
    lex d (c :: cs) = lex d cs := by
  rw [lex, if_pos hc]

theorem lex_next {d : Dialect} {c : Char} {cs rest : List Char} {t : Token} (hc : c.isWhitespace = false)
    (h : next d c cs = some (t, rest)) : lex d (c :: cs) = (lex d rest).map (t :: ·) := by
  rw [lex, if_neg (by simp [hc])]
  split
  · next hnone =>
    rw [h] at hnone
    cases hnone
  · next t' rest' hsome =>
    rw [h] at hsome
    cases hsome
    rfl

/-! ## Parts of a statement -/

/-- What may stand behind a part. -/
inductive Boundary where
  /-- The end, or a character that ends words, numbers, names and strings. -/
  | closed
  /-- What ends a name, or a point behind it. -/
  | named
  /-- The end, or a character that no operator goes on with. -/
  | plain

namespace Boundary

def allows : Boundary → Char → Bool
  | closed, c => c == ' ' || c == ',' || c == '(' || c == ')' || isOperatorChar c
  | named, c => c == ' ' || c == ',' || c == '(' || c == ')' || isOperatorChar c || c == '.'
  | plain, c => !isOperatorChar c

/-- The text may stand there. -/
def Before (b : Boundary) (rest : List Char) : Prop := ∀ c ∈ rest.head?, b.allows c = true

theorem before_nil (b : Boundary) : b.Before [] := fun _ h => nomatch h

theorem before_cons {b : Boundary} {c : Char} (hc : b.allows c = true) (cs : List Char) : b.Before (c :: cs) := by
  intro c' h
  cases h
  exact hc

/-- What ends everything ends names. -/
theorem Before.named {rest : List Char} (h : closed.Before rest) : Boundary.named.Before rest := by
  intro c hc
  have hclosed : closed.allows c = true := h c hc
  simp only [allows] at hclosed ⊢
  rw [hclosed, Bool.true_or]

end Boundary

/-- A text that lexes to the same tokens in front of all that its end allows. -/
structure Part (d : Dialect) (start stop : Boundary) (s : List Char) (ts : List Token) : Prop where
  starts : ∀ rest, stop.Before rest → start.Before (s ++ rest)
  lexes : ∀ rest, stop.Before rest → lex d (s ++ rest) = (lex d rest).map (ts ++ ·)

namespace Part

variable {d : Dialect} {a b c : Boundary} {s s' : List Char} {ts ts' : List Token}

theorem nil : Part d a a [] [] where
  starts _ h := h
  lexes rest _ := by
    rw [List.nil_append]
    cases lex d rest <;> rfl

/-- Parts that fit together are one. -/
theorem append (h : Part d a b s ts) (h' : Part d b c s' ts') : Part d a c (s ++ s') (ts ++ ts') where
  starts rest hrest := by
    rw [List.append_assoc]
    exact h.starts _ (h'.starts rest hrest)
  lexes rest hrest := by
    rw [List.append_assoc, h.lexes _ (h'.starts rest hrest), h'.lexes rest hrest, Option.map_map]
    simp only [Function.comp_def, List.append_assoc]

/-- The whole text. -/
theorem lex_eq (h : Part d a b s ts) : lex d s = some ts := by
  have hall := h.lexes [] b.before_nil
  rw [List.append_nil, lex_nil] at hall
  simpa using hall

/-- A blank fits everywhere. -/
theorem blank : Part d a b [' '] [] where
  starts rest _ := by
    refine Boundary.before_cons ?_ rest
    cases a <;> rfl
  lexes rest _ := by
    rw [List.cons_append, List.nil_append, lex_blank d rfl]
    cases lex d rest <;> rfl

/-- Nothing but a point makes a difference. -/
theorem ofNamed (h : Part d a .named s ts) : Part d a .closed s ts where
  starts rest hrest := h.starts rest hrest.named
  lexes rest hrest := h.lexes rest hrest.named

/-- A token that is read as soon as its first character is seen. -/
theorem ofNext {ch : Char} {cs : List Char} {t : Token} (hblank : ch.isWhitespace = false)
    (hstart : a.allows ch = true) (hnext : ∀ rest, b.Before rest → next d ch (cs ++ rest) = some (t, rest)) :
    Part d a b (ch :: cs) [t] where
  starts rest _ := Boundary.before_cons hstart _
  lexes rest hrest := by
    rw [List.cons_append, lex_next hblank (hnext rest hrest)]
    rfl

end Part

/-! ## Runs of characters -/

section

variable {p : Char → Bool} {cs rest : List Char}

theorem takeWhile_run (hcs : ∀ c ∈ cs, p c = true) (hrest : ∀ c ∈ rest.head?, p c = false) :
    (cs ++ rest).takeWhile p = cs := by
  rw [List.takeWhile_append_of_pos hcs]
  cases rest with
  | nil => rw [List.takeWhile_nil, List.append_nil]
  | cons c rest =>
    have hc : ¬ p c = true := by simp [hrest c rfl]
    rw [List.takeWhile_cons_of_neg hc, List.append_nil]

theorem dropWhile_run (hcs : ∀ c ∈ cs, p c = true) (hrest : ∀ c ∈ rest.head?, p c = false) :
    (cs ++ rest).dropWhile p = rest := by
  rw [List.dropWhile_append_of_pos hcs]
  cases rest with
  | nil => rfl
  | cons c rest =>
    have hc : ¬ p c = true := by simp [hrest c rfl]
    rw [List.dropWhile_cons_of_neg hc]

end

/-- A closed list of characters is checked one by one. The instance for all characters would go through every
code point. -/
theorem forall_mem_of_all {p : Char → Prop} [DecidablePred p] {cs : List Char}
    (h : (cs.all fun c => decide (p c)) = true) : ∀ c ∈ cs, p c := by
  intro c hc
  exact of_decide_eq_true (List.all_eq_true.1 h c hc)

theorem Boundary.mem_named {c : Char} (h : named.allows c = true) :
    c ∈ [' ', ',', '(', ')', '=', '!', '<', '>', '.'] := by
  simpa [allows, isOperatorChar, or_assoc] using h

theorem Boundary.mem_closed {c : Char} (h : closed.allows c = true) :
    c ∈ [' ', ',', '(', ')', '=', '!', '<', '>'] := by
  simpa [allows, isOperatorChar, or_assoc] using h

theorem Boundary.not_wordChar {rest : List Char} (h : closed.Before rest) :
    ∀ c ∈ rest.head?, isWordChar c = false := by
  intro c hc
  have hall : ∀ c ∈ [' ', ',', '(', ')', '=', '!', '<', '>'], isWordChar c = false :=
    forall_mem_of_all (by decide)
  exact hall c (mem_closed (h c hc))

theorem Boundary.head_ne {rest : List Char} (h : closed.Before rest) {c : Char} (hc : closed.allows c = false) :
    rest.head? ≠ some c := by
  intro heq
  rw [h c heq] at hc
  cases hc

theorem Boundary.not_operatorChar {rest : List Char} (h : plain.Before rest) :
    ∀ c ∈ rest.head?, isOperatorChar c = false := by
  intro c hc
  simpa [allows] using h c hc

/-- What no word or number begins with. -/
def special : List Char :=
  ['\x60', '[', '\x27', '?', ':', '@', '(', ')', ',', '.', '*', '=', '!', '<', '>', ' ', '\t', '\r', '\n']

/-- Characters of words, and the minus sign, begin neither a quotation nor a parameter nor an operator. -/
theorem not_special {c : Char} (hc : isWordChar c = true ∨ c = '-') : c ∉ special := by
  have hall : ∀ c ∈ special, isWordChar c = false ∧ c ≠ '-' := forall_mem_of_all (by decide)
  intro h
  rcases hc with hc | hc
  · rw [(hall c h).1] at hc
    cases hc
  · exact (hall c h).2 hc

namespace Part

variable {d : Dialect} {a b : Boundary} (hd : d = .mysql ∨ d = .sqlServer)

include hd

/-- Words and numbers are all that is left. -/
theorem next_of_not_special {c : Char} (hc : c ∉ special) (cs : List Char) :
    c.isWhitespace = false ∧ Boundary.plain.allows c = true ∧
      next d c cs = if isWordStart c then
          some (.word (String.ofList (c :: cs.takeWhile isWordChar)), cs.dropWhile isWordChar)
        else if c = '-' then (readDigits cs).map fun (n, rest) => (.number (-n), rest)
        else (readDigits (c :: cs)).map fun (n, rest) => (.number n, rest) := by
  simp only [special, List.mem_cons, List.not_mem_nil, or_false, not_or] at hc
  obtain ⟨h₁, h₂, h₃, h₄, h₅, h₆, h₇, h₈, h₉, h₁₀, h₁₁, h₁₂, h₁₃, h₁₄, h₁₅, h₁₆, h₁₇, h₁₈, h₁₉⟩ := hc
  refine ⟨?_, ?_, ?_⟩
  · simp [Char.isWhitespace, h₁₆, h₁₇, h₁₈, h₁₉]
  · simp [Boundary.allows, isOperatorChar, h₁₂, h₁₃, h₁₄, h₁₅]
  · rcases hd with rfl | rfl
    · simp [next, Dialect.mysql, isSign, isOperatorChar, h₁, h₃, h₄, h₅, h₇, h₈, h₉, h₁₀, h₁₁, h₁₂, h₁₃, h₁₄,
        h₁₅]
    · simp [next, Dialect.sqlServer, isSign, isOperatorChar, h₂, h₃, h₄, h₆, h₇, h₈, h₉, h₁₀, h₁₁, h₁₂, h₁₃, h₁₄,
        h₁₅]

theorem word {w : String} (hw : isWord w = true) : Part d .plain .closed w.toList [.word w] := by
  simp only [isWord, Bool.and_eq_true, List.all_eq_true] at hw
  obtain ⟨hstart, hall⟩ := hw
  cases hcs : w.toList with
  | nil =>
    rw [hcs] at hstart
    cases hstart
  | cons c cs =>
    rw [hcs] at hstart hall
    have hc : isWordStart c = true := hstart
    obtain ⟨hc', hcs'⟩ := List.forall_mem_cons.1 hall
    have hclass := fun cs => next_of_not_special hd (not_special (.inl hc')) cs
    refine ofNext (hclass []).1 (hclass []).2.1 fun rest hrest => ?_
    have hrest' := Boundary.not_wordChar hrest
    rw [(hclass (cs ++ rest)).2.2, if_pos hc, takeWhile_run hcs' hrest', dropWhile_run hcs' hrest', ← hcs,
      String.ofList_toList]

/-- Words with a blank between each two. -/
theorem words {ws : List String} (hne : ws ≠ []) (hws : ∀ w ∈ ws, isWord w = true) :
    Part d .plain .closed (List.intercalate [' '] (ws.map String.toList)) (ws.map .word) := by
  induction ws with
  | nil => exact absurd rfl hne
  | cons w ws ih =>
    obtain ⟨hw, hws⟩ := List.forall_mem_cons.1 hws
    cases ws with
    | nil =>
      simpa [List.intercalate] using word hd hw
    | cons w' ws =>
      have hrest := ih (List.cons_ne_nil w' ws) hws
      have := ((word hd hw).append (blank (b := .plain))).append hrest
      simpa [List.intercalate] using this

omit hd in
theorem readDigits_append {ds rest : List Char} (hne : ds ≠ []) (hds : ∀ c ∈ ds, c.isDigit = true)
    (hword : ∀ c ∈ rest.head?, isWordChar c = false) (hpoint : rest.head? ≠ some '.') :
    readDigits (ds ++ rest) = some (Number.ofDigits ds, rest) := by
  have hrun : ∀ c ∈ ds, isWordChar c = true := fun c hc => by
    simp [isWordChar, Char.isAlphanum, hds c hc]
  unfold readDigits
  rw [takeWhile_run hrun hword, dropWhile_run hrun hword, if_pos ⟨hne, List.all_eq_true.2 hds, hpoint⟩]

omit hd in
theorem readDigits_natDigits {rest : List Char} (hrest : Boundary.closed.Before rest) (n : Nat) :
    readDigits (Number.natDigits n ++ rest) = some (n, rest) := by
  rw [readDigits_append (Number.natDigits_ne_nil n) (fun _ => Number.isDigit_of_mem_natDigits)
    (Boundary.not_wordChar hrest) (Boundary.head_ne hrest rfl), Number.ofDigits_natDigits]

omit hd in
theorem not_start_of_isDigit {c : Char} (hc : c.isDigit = true) : isWordStart c = false ∧ c ≠ '-' := by
  have h57 : c.toNat ≤ 57 := (Char.isDigit_iff_toNat.1 hc).2
  -- Letters come after the digits.
  have hupper : c.isUpper = false := by
    refine decide_eq_false fun h => ?_
    have h65 : 65 ≤ c.toNat := UInt32.le_iff_toNat_le.1 h.1
    omega
  have hlower : c.isLower = false := by
    have h : ¬ 'a'.val ≤ c.val := fun h => by
      have h97 : 97 ≤ c.toNat := UInt32.le_iff_toNat_le.1 h
      omega
    exact Bool.and_eq_false_iff.2 (.inl (decide_eq_false h))
  have halpha : c.isAlpha = false := Bool.or_eq_false_iff.2 ⟨hupper, hlower⟩
  constructor
  · have hline : c ≠ '_' := by
      rintro rfl
      cases hc
    simp [isWordStart, halpha, hline]
  · rintro rfl
    cases hc

/-- Digits are read as a number up to what no word or fraction goes on with. -/
theorem next_digits {c : Char} {cs rest : List Char} (hdigits : ∀ x ∈ c :: cs, x.isDigit = true)
    (hword : ∀ x ∈ rest.head?, isWordChar x = false) (hpoint : rest.head? ≠ some '.') :
    next d c (cs ++ rest) = some (.number (Number.ofDigits (c :: cs)), rest) := by
  have hdigit : c.isDigit = true := hdigits c List.mem_cons_self
  obtain ⟨hstart, hminus⟩ := not_start_of_isDigit hdigit
  have hchar : isWordChar c = true := by simp [isWordChar, Char.isAlphanum, hdigit]
  rw [(next_of_not_special hd (not_special (.inl hchar)) (cs ++ rest)).2.2, hstart, if_neg Bool.false_ne_true,
    if_neg hminus, ← List.cons_append, readDigits_append (List.cons_ne_nil c cs) hdigits hword hpoint, Option.map_some]

theorem nat (n : Nat) : Part d .plain .closed (Number.natDigits n) [.number n] := by
  cases hcs : Number.natDigits n with
  | nil => exact absurd hcs (Number.natDigits_ne_nil n)
  | cons c cs =>
    have hdigits : ∀ x ∈ c :: cs, x.isDigit = true := fun x hx => Number.isDigit_of_mem_natDigits (hcs ▸ hx)
    have hword : isWordChar c = true := by simp [isWordChar, Char.isAlphanum, hdigits c List.mem_cons_self]
    have hclass := next_of_not_special hd (not_special (.inl hword)) []
    refine ofNext hclass.1 hclass.2.1 fun rest hrest => ?_
    rw [next_digits hd hdigits (Boundary.not_wordChar hrest) (Boundary.head_ne hrest rfl), ← hcs,
      Number.ofDigits_natDigits]

theorem int (n : Int) : Part d .plain .closed (Number.intDigits n) [.number n] := by
  cases n with
  | ofNat n => exact nat hd n
  | negSucc n =>
    have hclass := fun cs => next_of_not_special hd (not_special (.inr rfl)) cs
    refine ofNext (hclass []).1 (hclass []).2.1 fun rest hrest => ?_
    rw [(hclass (_ ++ rest)).2.2, if_neg (by decide), if_pos rfl, readDigits_natDigits hrest, Option.map_some]
    rfl

/-! ## Quotations -/

omit hd in
theorem next_quote {rest : List Char} (hrest : rest.head? ≠ some d.closeQuote) (name : List Char) :
    next d d.openQuote (Quoting.double d.closeQuote name ++ [d.closeQuote] ++ rest) =
      some (.identifier (String.ofList name), rest) := by
  rw [next, if_pos rfl, List.append_assoc, List.singleton_append, Quoting.readDoubled_double hrest, Option.map_some]

theorem quote (name : List Char) : Part d .plain .named (d.quoteChars name) [.identifier (String.ofList name)] := by
  have hclose {rest : List Char} (hrest : Boundary.named.Before rest) : rest.head? ≠ some d.closeQuote := by
    intro h
    have hmem := Boundary.mem_named (hrest _ h)
    rcases hd with rfl | rfl <;> revert hmem <;> decide
  have hchars : d.quoteChars name = d.openQuote :: (Quoting.double d.closeQuote name ++ [d.closeQuote]) := rfl
  rw [hchars]
  refine ofNext ?_ ?_ fun rest hrest => next_quote (hclose hrest) name
  · rcases hd with rfl | rfl <;> rfl
  · rcases hd with rfl | rfl <;> rfl

theorem string (text : List Char) : Part d .plain .closed (d.literalChars text) [.string (String.ofList text)] := by
  have hopen : '\x27' ≠ d.openQuote := by
    rcases hd with rfl | rfl <;> decide
  have hread {rest : List Char} (hrest : Boundary.closed.Before rest) {cs : List Char}
      (hcs : d.literalChars text = '\x27' :: cs) : readString d (cs ++ rest) = some (text, rest) := by
    unfold Dialect.literalChars at hcs
    unfold readString
    cases hescape : d.stringEscape with
    | backslash =>
      rw [hescape] at hcs
      cases hcs
      rw [List.append_eq, List.append_assoc, List.singleton_append]
      have hquote : rest.head? ≠ some '\x27' := Boundary.head_ne hrest rfl
      simp only [Quoting.readBackslash_backslash]
      exact Option.filter_some_pos (decide_eq_true hquote)
    | doubled =>
      rw [hescape] at hcs
      cases hcs
      rw [List.append_eq, List.append_assoc, List.singleton_append]
      exact Quoting.readDoubled_double (Boundary.head_ne hrest rfl) text
  obtain ⟨cs, hcs⟩ : ∃ cs, d.literalChars text = '\x27' :: cs := ⟨_, rfl⟩
  rw [hcs]
  refine ofNext (by decide) (by decide) fun rest hrest => ?_
  rw [next, if_neg hopen, if_pos rfl, hread hrest hcs, Option.map_some]

/-! ## Parameters, signs and operators -/

theorem placeholder : Part d .plain b ['?'] [.placeholder] := by
  refine ofNext (by decide) (by decide) fun rest hrest => ?_
  have hopen : '?' ≠ d.openQuote := by
    rcases hd with rfl | rfl <;> decide
  rw [List.nil_append, next, if_neg hopen, if_neg (by decide), if_pos rfl]

theorem parameter {name : String} (hname : isWord name = true) :
    Part d .plain .closed (d.nameMark :: name.toList) [.parameter name] := by
  have hall : ∀ c ∈ name.toList, isWordChar c = true := by
    simp only [isWord, Bool.and_eq_true, List.all_eq_true] at hname
    exact hname.2
  refine ofNext ?_ ?_ fun rest hrest => ?_
  · rcases hd with rfl | rfl <;> rfl
  · rcases hd with rfl | rfl <;> rfl
  · have hrest' := Boundary.not_wordChar hrest
    have hmark : d.nameMark ≠ d.openQuote ∧ d.nameMark ≠ '\x27' ∧ d.nameMark ≠ '?' := by
      rcases hd with rfl | rfl <;> decide
    rw [next, if_neg hmark.1, if_neg hmark.2.1, if_neg hmark.2.2, if_pos rfl, takeWhile_run hall hrest',
      dropWhile_run hall hrest', String.ofList_toList]
    simp only [hname, if_true]

theorem sign {c : Char} (hc : isSign c = true) (ha : a.allows c = true) : Part d a b [c] [.sign c] := by
  have hmem : c ∈ ['(', ')', ',', '.', '*'] := by simpa [isSign, or_assoc] using hc
  have hall : ∀ c ∈ ['(', ')', ',', '.', '*'],
      c.isWhitespace = false ∧ c ≠ d.openQuote ∧ c ≠ '\x27' ∧ c ≠ '?' ∧ c ≠ d.nameMark := by
    rcases hd with rfl | rfl <;> exact forall_mem_of_all (by decide)
  obtain ⟨h₁, h₂, h₃, h₄, h₅⟩ := hall c hmem
  refine ofNext h₁ ha fun rest _ => ?_
  rw [List.nil_append, next, if_neg h₂, if_neg h₃, if_neg h₄, if_neg h₅, if_pos hc]

theorem operator {op : String} (hop : op ∈ operators) : Part d .closed .plain op.toList [.operator op] := by
  have hall : ∀ op ∈ operators, op.toList ≠ [] ∧ op.toList.all isOperatorChar = true := by decide
  obtain ⟨hne, hchars⟩ := hall op hop
  rw [List.all_eq_true] at hchars
  obtain ⟨c, cs, hcs⟩ := List.exists_cons_of_ne_nil hne
  rw [hcs] at hchars ⊢
  obtain ⟨hc, hcs'⟩ := List.forall_mem_cons.1 hchars
  have hmem : c ∈ ['=', '!', '<', '>'] := by simpa [isOperatorChar, or_assoc] using hc
  have hclass : ∀ c ∈ ['=', '!', '<', '>'],
      c.isWhitespace = false ∧ Boundary.closed.allows c = true ∧ isSign c = false ∧ c ≠ d.openQuote ∧
        c ≠ '\x27' ∧ c ≠ '?' ∧ c ≠ d.nameMark := by
    rcases hd with rfl | rfl <;> exact forall_mem_of_all (by decide)
  obtain ⟨h₁, h₂, h₃, h₄, h₅, h₆, h₇⟩ := hclass c hmem
  refine ofNext h₁ h₂ fun rest hrest => ?_
  have hrest' := Boundary.not_operatorChar hrest
  have hop' : String.ofList (c :: cs) = op := by rw [← hcs, String.ofList_toList]
  rw [next, if_neg h₄, if_neg h₅, if_neg h₆, if_neg h₇, h₃, if_neg Bool.false_ne_true, if_pos hc,
    takeWhile_run hcs' hrest', dropWhile_run hcs' hrest', hop']
  simp only [hop, if_true]

end Part

end Sql
