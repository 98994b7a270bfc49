/-
Quoted names and string literals end where they were written to end.

A reader passes over an encoded text and goes on with what follows (`readDoubled_append`, `readEither_append`), so what
stands behind the text decides alone whether the quote there closes it: it does unless another quote follows (`closes_iff`).
`quoted_texts_end` says so of every dialect, whatever the text holds and whatever comes behind it.
-/
import Sql.Dialect
import Sql.Proofs.QuotedText

namespace Sql

namespace Quoting

/-! ## Backslashes beside doubled quotes -/

/-- Reads up to a single quote that neither a backslash escapes nor another quote doubles: the text before it, and what
follows it. -/
def readEither : List Char → Option (List Char × List Char)
  | [] => none
  | '\\' :: c :: cs => (readEither cs).map fun (text, rest) => (unescapeLetter c :: text, rest)
  | '\x27' :: '\x27' :: cs => (readEither cs).map fun (text, rest) => ('\x27' :: text, rest)
  | c :: cs =>
    if c = '\x27' then some ([], cs)
    else (readEither cs).map fun (text, rest) => (c :: text, rest)

theorem readEither_cons_of_ne {c : Char} (hslash : c ≠ '\\') (hquote : c ≠ '\x27') (cs : List Char) :
    readEither (c :: cs) = (readEither cs).map fun (text, rest) => (c :: text, rest) := by
  rw [readEither, if_neg hquote]
  · exact fun _ _ h => absurd h hslash
  · exact fun _ h => absurd h hquote

theorem readEither_quote {rest : List Char} (h : rest.head? ≠ some '\x27') :
    readEither ('\x27' :: rest) = some ([], rest) := by
  rw [readEither, if_pos rfl]
  · exact fun _ _ h => absurd h (by decide)
  · rintro cs - rfl
    exact h rfl

/-- Reading a text with backslashes and what follows it, where quotes may be doubled too. -/
theorem readEither_append (text rest : List Char) :
    readEither (backslash text ++ rest) = (readEither rest).map fun (more, rest) => (text ++ more, rest) := by
  induction text with
  | nil => simp [backslash]
  | cons c cs ih =>
    rw [backslash]
    cases hletter : escapeLetter? c with
    | some letter =>
      rw [List.cons_append, List.cons_append, readEither, ih, Option.map_map, unescapeLetter_escapeLetter hletter]
      rfl
    | none =>
      obtain ⟨hslash, hquote⟩ := ne_of_escapeLetter_none hletter
      rw [List.cons_append, readEither_cons_of_ne hslash hquote, ih, Option.map_map]
      rfl

/-! ## Where reading stops -/

/-- A quote closes the text before it exactly if no further one follows: with two of them the text would go on. -/
theorem closes_iff {read : List Char → Option (List Char × List Char)} {quote : Char} {text rest : List Char}
    (hclose : rest.head? ≠ some quote → read (quote :: rest) = some ([], rest))
    (hdouble : ∀ cs, read (quote :: quote :: cs) = (read cs).map fun (more, rest) => (quote :: more, rest)) :
    ((read (quote :: rest)).map fun (more, rest) => (text ++ more, rest)) = some (text, rest) ↔
      rest.head? ≠ some quote := by
  constructor
  · intro hread hquote
    obtain ⟨cs, rfl⟩ := List.head?_eq_some_iff.1 hquote
    rw [hdouble, Option.map_map] at hread
    obtain ⟨⟨more, rest'⟩, -, heq⟩ := Option.map_eq_some_iff.1 hread
    have hlength : (text ++ quote :: more).length = text.length := congrArg (fun x => x.1.length) heq
    simp at hlength
  · intro h
    simp [hclose h]

/-- **A text with doubled quotes** is read back exactly if no further quote follows. -/
theorem readDoubled_double_iff {quote : Char} {text rest : List Char} :
    readDoubled quote (double quote text ++ quote :: rest) = some (text, rest) ↔ rest.head? ≠ some quote := by
  rw [readDoubled_append]
  exact closes_iff readDoubled_quote fun cs => by rw [readDoubled, if_pos rfl, if_pos rfl]

/-- **A text with backslashes** is read back, where quotes may be doubled too, exactly if no further quote follows. -/
theorem readEither_backslash_iff {text rest : List Char} :
    readEither (backslash text ++ '\x27' :: rest) = some (text, rest) ↔ rest.head? ≠ some '\x27' := by
  rw [readEither_append]
  exact closes_iff readEither_quote fun cs => by rw [readEither]

end Quoting

/-! ## Names and literals of a dialect -/

namespace Dialect

/-- What a reader makes of the characters behind an opening quote, at the beginning of a text. -/
def readBehind (quote : Char) (read : List Char → Option (List Char × List Char)) (text : String) :
    Option (String × String) :=
  match text.toList with
  | [] => none
  | c :: cs => if c = quote then (read cs).map fun (s, rest) => (String.ofList s, String.ofList rest) else none

/-- The name at the beginning of a text, and what follows it. -/
def readName (d : Dialect) : String → Option (String × String) :=
  readBehind d.openQuote (Quoting.readDoubled d.closeQuote)

/-- The string at the beginning of a text, and what follows it; the dialect's escapes are undone. -/
def readLiteral (d : Dialect) : String → Option (String × String) :=
  readBehind '\x27' (match d.stringEscape with
    | .backslash => Quoting.readBackslash
    | .doubled => Quoting.readDoubled '\x27')

/-- The same where a quote may be doubled in any dialect, beside the backslashes if it has them. -/
def readAnyLiteral (d : Dialect) : String → Option (String × String) :=
  readBehind '\x27' (match d.stringEscape with
    | .backslash => Quoting.readEither
    | .doubled => Quoting.readDoubled '\x27')

theorem readBehind_eq_some_iff {quote : Char} {read : List Char → Option (List Char × List Char)} {body : List Char}
    {s rest : String} :
    readBehind quote read (String.ofList (quote :: body) ++ rest) = some (s, rest) ↔
      read (body ++ rest.toList) = some (s.toList, rest.toList) := by
  have hchars : (String.ofList (quote :: body) ++ rest).toList = quote :: (body ++ rest.toList) := by simp
  rw [readBehind, hchars]
  simp only [if_true, Option.map_eq_some_iff, Prod.exists, Prod.mk.injEq]
  constructor
  · rintro ⟨cs, cs', hread, rfl, rfl⟩
    simpa using hread
  · intro hread
    exact ⟨_, _, hread, String.ofList_toList, String.ofList_toList⟩

end Dialect

/-- **Quoted names and string literals delimit themselves**, in every dialect, whatever text they hold. What follows a quoted
name is left alone, and the name is read back, exactly if it does not begin with the closing quote. The same holds of string
literals and the single quote; where the dialect writes backslashes and a reader doubles no quotes, anything may follow. -/
theorem quoted_texts_end (d : Dialect) (s rest : String) :
    (d.readName (d.quote s ++ rest) = some (s, rest) ↔ rest.toList.head? ≠ some d.closeQuote) ∧
      (d.readLiteral (d.stringLiteral s ++ rest) = some (s, rest) ↔
        d.stringEscape = .backslash ∨ rest.toList.head? ≠ some '\x27') ∧
      (d.readAnyLiteral (d.stringLiteral s ++ rest) = some (s, rest) ↔ rest.toList.head? ≠ some '\x27') := by
  refine ⟨?_, ?_, ?_⟩
  · rw [Dialect.quote, Dialect.quoteChars, Dialect.readName, List.cons_append, Dialect.readBehind_eq_some_iff,
      List.append_assoc]
    exact Quoting.readDoubled_double_iff
  · rw [Dialect.stringLiteral, Dialect.literalChars, Dialect.readLiteral, List.cons_append,
      Dialect.readBehind_eq_some_iff, List.append_assoc]
    cases d.stringEscape with
    | backslash => exact iff_of_true (Quoting.readBackslash_backslash _ _) (.inl rfl)
    | doubled => exact Quoting.readDoubled_double_iff.trans (or_iff_right nofun).symm
  · rw [Dialect.stringLiteral, Dialect.literalChars, Dialect.readAnyLiteral, List.cons_append,
      Dialect.readBehind_eq_some_iff, List.append_assoc]
    cases d.stringEscape with
    | backslash => exact Quoting.readEither_backslash_iff
    | doubled => exact Quoting.readDoubled_double_iff

end Sql
