/-
Quoted text is read back, whatever it holds.

`readDoubled_double` and `readBackslash_backslash` are the two round trips; what follows the closing quote is left
alone. With doubled quotes it must not begin with a quote, for that one would belong to the text.
-/
import Sql.Quoting

namespace Sql.Quoting

/-- Whatever is made of what was read, what follows it stays. -/
theorem exists_of_map {β γ : Type} {read : Option (β × List Char)} {f : β × List Char → γ} {c : γ}
    {rest : List Char} (h : (read.map fun x => (f x, x.2)) = some (c, rest)) : ∃ b, read = some (b, rest) := by
  obtain ⟨⟨b, rest'⟩, hread, heq⟩ := Option.map_eq_some_iff.1 h
  cases heq
  exact ⟨b, hread⟩

/-! ## Doubled quotes -/

theorem readDoubled_cons_of_ne {quote c : Char} (h : c ≠ quote) (cs : List Char) :
    readDoubled quote (c :: cs) = (readDoubled quote cs).map fun (text, rest) => (c :: text, rest) := by
  cases cs with
  | nil => simp [readDoubled, h]
  | cons next cs => rw [readDoubled, if_neg h]

theorem readDoubled_quote {quote : Char} {rest : List Char} (h : rest.head? ≠ some quote) :
    readDoubled quote (quote :: rest) = some ([], rest) := by
  cases rest with
  | nil => rw [readDoubled, if_pos rfl]
  | cons next rest =>
    have hnext : next ≠ quote := fun heq => h (heq ▸ rfl)
    rw [readDoubled, if_pos rfl, if_neg hnext]

/-- Reading a text with doubled quotes and what follows it. -/
theorem readDoubled_append (quote : Char) (text rest : List Char) :
    readDoubled quote (double quote text ++ rest) =
      (readDoubled quote rest).map fun (more, rest) => (text ++ more, rest) := by
  induction text with
  | nil => simp [double]
  | cons c cs ih =>
    by_cases hc : c = quote
    · rw [double, if_pos hc, hc, List.cons_append, List.cons_append, readDoubled, if_pos rfl, if_pos rfl, ih,
        Option.map_map]
      rfl
    · rw [double, if_neg hc, List.cons_append, readDoubled_cons_of_ne hc, ih, Option.map_map]
      rfl

/-- **A text with doubled quotes** is read up to the quote that closes it. -/
theorem readDoubled_double {quote : Char} {rest : List Char} (h : rest.head? ≠ some quote) (text : List Char) :
    readDoubled quote (double quote text ++ quote :: rest) = some (text, rest) := by
  rw [readDoubled_append, readDoubled_quote h]
  simp

theorem readDoubled_length {quote : Char} {cs text rest : List Char}
    (h : readDoubled quote cs = some (text, rest)) : rest.length < cs.length := by
  induction cs using readDoubled.induct quote generalizing text rest with
  | case1 => simp [readDoubled] at h
  | case2 =>
    rw [readDoubled, if_pos rfl] at h
    cases h
    simp
  | case3 c hne => simp [readDoubled, hne] at h
  | case4 cs ih =>
    rw [readDoubled, if_pos rfl, if_pos rfl] at h
    obtain ⟨text', hread⟩ := exists_of_map h
    have := ih hread
    simp only [List.length_cons]
    omega
  | case5 next cs hne =>
    rw [readDoubled, if_pos rfl, if_neg hne] at h
    cases h
    simp
  | case6 c next cs hne ih =>
    rw [readDoubled, if_neg hne] at h
    obtain ⟨text', hread⟩ := exists_of_map h
    have := ih hread
    simp only [List.length_cons] at this ⊢
    omega

/-! ## Backslashes -/

theorem unescapeLetter_escapeLetter {c letter : Char} (h : escapeLetter? c = some letter) :
    unescapeLetter letter = c := by
  unfold escapeLetter? at h
  repeat' split at h
  all_goals cases h
  all_goals try (subst_vars; rfl)
  next hc =>
    rcases hc with rfl | rfl | rfl <;> rfl

theorem ne_of_escapeLetter_none {c : Char} (h : escapeLetter? c = none) : c ≠ '\\' ∧ c ≠ '\x27' := by
  constructor
  · rintro rfl
    cases h
  · rintro rfl
    cases h

theorem readBackslash_cons_of_ne {c : Char} (hslash : c ≠ '\\') (hquote : c ≠ '\x27') (cs : List Char) :
    readBackslash (c :: cs) = (readBackslash cs).map fun (text, rest) => (c :: text, rest) := by
  rw [readBackslash, if_neg hquote]
  intro c' cs' h
  exact absurd h hslash

/-- **A text with backslashes** is read up to the quote that closes it. -/
theorem readBackslash_backslash (text rest : List Char) :
    readBackslash (backslash text ++ '\x27' :: rest) = some (text, rest) := by
  induction text with
  | nil => rfl
  | cons c cs ih =>
    rw [backslash]
    cases hletter : escapeLetter? c with
    | some letter =>
      rw [List.cons_append, List.cons_append, readBackslash, ih, Option.map_some,
        unescapeLetter_escapeLetter hletter]
    | none =>
      obtain ⟨hslash, hquote⟩ := ne_of_escapeLetter_none hletter
      rw [List.cons_append, readBackslash_cons_of_ne hslash hquote, ih, Option.map_some]

theorem readBackslash_length {cs text rest : List Char} (h : readBackslash cs = some (text, rest)) :
    rest.length < cs.length := by
  induction cs using readBackslash.induct generalizing text rest with
  | case1 => simp [readBackslash] at h
  | case2 c cs ih =>
    rw [readBackslash] at h
    obtain ⟨text', hread⟩ := exists_of_map h
    have := ih hread
    simp only [List.length_cons]
    omega
  | case3 cs hslash =>
    rw [readBackslash, if_pos rfl] at h
    · cases h
      simp
    · exact hslash
  | case4 c cs hslash hquote ih =>
    rw [readBackslash, if_neg hquote] at h
    · obtain ⟨text', hread⟩ := exists_of_map h
      have := ih hread
      simp only [List.length_cons]
      omega
    · exact hslash

end Sql.Quoting
