/-
The characters of names in snake case.

Snake case is made for letters and digits: it keeps them in lower case and puts underscores between words. Two kinds of
names end with other characters in them (`snake_isName_iff`): a dotted path keeps its dots, and the small form of a capital
I with a dot above is an i with a mark behind it.
-/
import Sql.Proofs.TextParts
import Sql.Text.Snake

namespace Sql.Text

open LetterTables

/-- A character of a name: a letter, a digit or an underscore. -/
def isNameChar (c : Char) : Bool := isAlphanumeric c || c == '_'

/-- The mark that the small form of a capital I with a dot above has behind its i. -/
def dotAbove : Char := '\u0307'

/-! ## Words -/

theorem wordsFrom_flatten (w : WordCase) (word : List Char) {cs : List Char} (hcs : cs ≠ []) :
    (wordsFrom w word cs).flatten = word ++ cs := by
  induction w, word, cs using wordsFrom.induct with
  | case1 => exact absurd rfl hcs
  | case2 w word c => simp [wordsFrom]
  | case3 w word c next rest h ih =>
    rw [wordsFrom, if_pos h, List.flatten_cons, ih (List.cons_ne_nil _ _), List.append_assoc]
    rfl
  | case4 w word c next rest hnot h ih =>
    rw [wordsFrom, if_neg hnot, if_pos h, List.flatten_cons, ih (List.cons_ne_nil _ _)]
    rfl
  | case5 w word c next rest hnot hnot' ih =>
    rw [wordsFrom, if_neg hnot, if_neg hnot', ih (List.cons_ne_nil _ _), List.append_assoc]
    rfl

theorem segments_flatten (separates : Char → Bool) (cs : List Char) :
    (segments separates cs).flatten = cs.filter (!separates ·) := by
  induction cs with
  | nil => rfl
  | cons c cs ih =>
    obtain ⟨part, parts, hsegments⟩ := List.exists_cons_of_ne_nil (segments_ne_nil separates cs)
    rw [hsegments] at ih
    cases hc : separates c with
    | true => simp [segments, hc, hsegments, ← ih]
    | false => simp [segments, hc, hsegments, ← ih]

/-- The words of a name are its letters and digits. -/
theorem words_flatten (cs : List Char) : (words cs).flatten = cs.filter isAlphanumeric := by
  have hwords (part : List Char) : (wordsFrom .none [] part).flatten = part := by
    cases part with
    | nil => rfl
    | cons c cs => exact wordsFrom_flatten _ _ (List.cons_ne_nil _ _)
  have hsegments := segments_flatten (fun c => !isAlphanumeric c) cs
  simp only [Bool.not_not] at hsegments
  rw [words, ← hsegments]
  generalize segments _ cs = parts
  induction parts with
  | nil => rfl
  | cons part parts ih => rw [List.flatMap_cons, List.flatten_append, hwords, ih, List.flatten_cons]

theorem mem_joinChars {separator : List Char} {c : Char} {parts : List (List Char)} (h : c ∈ joinChars separator parts) :
    c ∈ separator ∨ ∃ part ∈ parts, c ∈ part := by
  induction parts using joinChars.induct with
  | case1 => exact absurd h List.not_mem_nil
  | case2 part => exact .inr ⟨part, List.mem_singleton_self part, h⟩
  | case3 part next rest ih =>
    rw [joinChars, List.mem_append, List.mem_append] at h
    rcases h with (h | h) | h
    · exact .inr ⟨part, List.mem_cons_self, h⟩
    · exact .inl h
    · obtain hsep | ⟨part', hpart', hc⟩ := ih h
      · exact .inl hsep
      · exact .inr ⟨part', List.mem_cons_of_mem _ hpart', hc⟩

theorem mem_joinChars_of_mem (separator : List Char) {c : Char} {part : List Char} {parts : List (List Char)}
    (hpart : part ∈ parts) (hc : c ∈ part) : c ∈ joinChars separator parts := by
  induction parts using joinChars.induct with
  | case1 => exact absurd hpart List.not_mem_nil
  | case2 part' =>
    obtain rfl := List.mem_singleton.1 hpart
    exact hc
  | case3 part' next rest ih =>
    rw [joinChars, List.mem_append, List.mem_append]
    rcases List.mem_cons.1 hpart with rfl | hpart
    · exact .inl (.inl hc)
    · exact .inr (ih hpart)

/-! ## Lower case -/

/-- The code points from `n` on, `more` of them behind it, stand in one range of letters. -/
def inOneRange (n more : Nat) : Bool := alphanumeric.any fun (first, last) => first.ble n && (n + more).ble last

/-- The small letters of a span stand in one range. -/
def smallStay (s : Shift) : Bool :=
  match Int.ofNat s.span.first + s.distance with
  | .ofNat n => inOneRange n (s.span.last - s.span.first)
  | .negSucc _ => false

/-- The small letters of all spans do, but for that of the Kelvin sign, which is ASCII. -/
theorem lowerCase_smallStay : lowerCase.all (fun s =>
    smallStay s || (s.span.first == 0x212A && s.span.last == 0x212A && s.distance == -8383)) = true := by
  decide +kernel

theorem alphanumeric_valid : alphanumeric.all (fun (first, last) =>
    0x80 ≤ first && (last < 0xD800 || 0xDFFF < first && last < 0x110000)) = true := by
  decide +kernel

theorem isAlphanumeric_ascii : ∀ n : Fin 0x80, (Char.ofNat n).isAlphanum = true →
    (Char.ofNat n).toLower.toNat < 0x80 ∧ (Char.ofNat n).toLower.isAlphanum = true := by
  decide +kernel

/-- A code point in a range of letters. -/
theorem isAlphanumeric_of_range {first last n : Nat} (hrange : (first, last) ∈ alphanumeric) (hfirst : first ≤ n)
    (hlast : n ≤ last) : isAlphanumeric (Char.ofNat n) = true := by
  have hvalid := List.all_eq_true.1 alphanumeric_valid _ hrange
  simp only [Bool.and_eq_true, Bool.or_eq_true, decide_eq_true_eq] at hvalid
  have hn : (Char.ofNat n).toNat = n := by
    rw [Char.ofNat, dif_pos (by unfold Nat.isValidChar; omega)]
    rfl
  rw [isAlphanumeric, hn, if_neg (by omega), List.any_eq_true]
  exact ⟨_, hrange, by simp [hfirst, hlast]⟩

/-- A letter or digit stays one in lower case, unless it is a capital I with a dot above. -/
theorem isAlphanumeric_lowerChar {c : Char} (hc : isAlphanumeric c = true) (hdotted : c ≠ '\u0130') :
    ∀ x ∈ lowerChar c, isAlphanumeric x = true := by
  unfold lowerChar
  split
  · next hascii =>
    rw [isAlphanumeric, if_pos hascii] at hc
    have h := isAlphanumeric_ascii ⟨c.toNat, hascii⟩
    simp only [Char.ofNat_toNat] at h
    obtain ⟨hsmall, halnum⟩ := h hc
    rw [List.forall_mem_singleton, isAlphanumeric, if_pos hsmall]
    exact halnum
  · rw [if_neg (by simpa using hdotted)]
    split
    · next s hfind =>
      have hs := List.mem_of_find?_eq_some hfind
      have hcontains := List.find?_some hfind
      simp only [Span.contains, Bool.and_eq_true, decide_eq_true_eq] at hcontains
      obtain ⟨⟨hfirst, hlast⟩, -⟩ := hcontains
      rw [List.forall_mem_singleton]
      have hstay := List.all_eq_true.1 lowerCase_smallStay s hs
      rw [Bool.or_eq_true] at hstay
      rcases hstay with hstay | hkelvin
      · unfold smallStay at hstay
        split at hstay
        · next n hn =>
          obtain ⟨⟨first, last⟩, hrange, hwithin⟩ := List.any_eq_true.1 hstay
          simp only [Bool.and_eq_true, Nat.ble_eq] at hwithin
          simp only [Int.ofNat_eq_natCast] at hn
          exact isAlphanumeric_of_range hrange (by omega) (by omega)
        · cases hstay
      · simp only [Bool.and_eq_true, beq_iff_eq] at hkelvin
        obtain ⟨⟨hspan, hspan'⟩, hdistance⟩ := hkelvin
        -- The Kelvin sign becomes an ASCII letter, outside of the ranges.
        have hk : (c.toNat + s.distance).toNat = 'k'.toNat := by
          rw [hdistance]
          show _ = 107
          omega
        rw [hk, Char.ofNat_toNat]
        rfl
    · rwa [List.forall_mem_singleton]

/-! ## Words in lower case -/

/-- A character of a word in lower case comes from a character of the word; there is a final form of sigma too. -/
theorem mem_lowerWord {word : List Char} {x : Char} (h : x ∈ lowerWord word) :
    (∃ c ∈ word, x ∈ lowerChar c) ∨ x = '\u03C2' := by
  induction word using lowerWord.induct with
  | case1 => exact absurd h List.not_mem_nil
  | case2 => exact .inr (List.mem_singleton.1 h)
  | case3 c cs hfinal ih =>
    rw [lowerWord, List.mem_append] at h
    · rcases h with h | h
      · exact .inl ⟨c, List.mem_cons_self, h⟩
      · refine (ih h).imp (fun ⟨c', hc', hx⟩ => ⟨c', List.mem_cons_of_mem _ hc', hx⟩) id
    · exact hfinal

theorem dotAbove_mem_lowerWord {word : List Char} (h : '\u0130' ∈ word) : dotAbove ∈ lowerWord word := by
  induction word using lowerWord.induct with
  | case1 => exact absurd h List.not_mem_nil
  | case2 => exact absurd (List.mem_singleton.1 h) (by decide)
  | case3 c cs hfinal ih =>
    rw [lowerWord, List.mem_append]
    · rcases List.mem_cons.1 h with rfl | h
      · exact .inl (by decide)
      · exact .inr (ih h)
    · exact hfinal

/-- What snake case can hold besides dots. -/
theorem mem_snakeSegment {cs : List Char} {x : Char} (h : x ∈ snakeSegment cs) :
    isNameChar x = true ∨ x = dotAbove ∧ '\u0130' ∈ cs := by
  obtain hsep | ⟨part, hpart, hx⟩ := mem_joinChars h
  · obtain rfl := List.mem_singleton.1 hsep
    exact .inl rfl
  · obtain ⟨word, hword, rfl⟩ := List.mem_map.1 hpart
    obtain ⟨c, hc, hx⟩ | rfl := mem_lowerWord hx
    · have hmem : c ∈ cs.filter isAlphanumeric := words_flatten cs ▸ List.mem_flatten.2 ⟨word, hword, hc⟩
      obtain ⟨hmem, halnum⟩ := List.mem_filter.1 hmem
      by_cases hdotted : c = '\u0130'
      · subst hdotted
        have hpair : lowerChar '\u0130' = ['i', dotAbove] := by decide
        rw [hpair, List.mem_cons, List.mem_singleton] at hx
        rcases hx with rfl | rfl
        · exact .inl rfl
        · exact .inr ⟨rfl, hmem⟩
      · exact .inl (by rw [isNameChar, isAlphanumeric_lowerChar halnum hdotted x hx, Bool.true_or])
    · exact .inl (by decide +kernel)

theorem dotAbove_mem_snakeSegment {cs : List Char} (h : '\u0130' ∈ cs) : dotAbove ∈ snakeSegment cs := by
  have hmem : '\u0130' ∈ (words cs).flatten := words_flatten cs ▸ List.mem_filter.2 ⟨h, by decide +kernel⟩
  obtain ⟨word, hword, hc⟩ := List.mem_flatten.1 hmem
  exact mem_joinChars_of_mem _ (List.mem_map_of_mem hword) (dotAbove_mem_lowerWord hc)

/-! ## Names -/

theorem mem_segments_iff {separator c : Char} (hc : c ≠ separator) {cs : List Char} :
    c ∈ cs ↔ ∃ part ∈ segments (· == separator) cs, c ∈ part := by
  rw [← List.mem_flatten, segments_flatten, List.mem_filter]
  simp [hc]

theorem toList_snake (name : String) :
    (snake name).toList = joinChars ['.'] ((segments (· == '.') name.toList).map snakeSegment) := by
  rw [snake, String.toList_ofList]

/-- A name in snake case has name characters, dots, and marks from capital I with a dot above. -/
theorem mem_snake {name : String} {x : Char} (h : x ∈ (snake name).toList) :
    isNameChar x = true ∨ x = '.' ∨ x = dotAbove := by
  rw [toList_snake] at h
  obtain hdot | ⟨part, hpart, hx⟩ := mem_joinChars h
  · exact .inr (.inl (List.mem_singleton.1 hdot))
  · obtain ⟨segment, -, rfl⟩ := List.mem_map.1 hpart
    exact (mem_snakeSegment hx).imp_right fun hmark => .inr hmark.1

theorem not_isNameChar_dot : isNameChar '.' = false := by decide

theorem not_isNameChar_dotAbove : isNameChar dotAbove = false := by decide +kernel

/-- Snake case keeps the dots of a path, and makes none. -/
theorem dot_mem_snake_iff {name : String} : '.' ∈ (snake name).toList ↔ '.' ∈ name.toList := by
  rw [toList_snake]
  constructor
  · intro h
    by_cases hdot : '.' ∈ name.toList
    · exact hdot
    · rw [segments_of_not_mem hdot, List.map_singleton, joinChars] at h
      obtain hname | ⟨hmark, -⟩ := mem_snakeSegment h
      · rw [not_isNameChar_dot] at hname
        cases hname
      · exact absurd hmark (by decide)
  · intro h
    obtain ⟨hne, hapart, hjoined⟩ := parts_segments '.' name.toList
    obtain ⟨part, rest, hsegments⟩ := List.exists_cons_of_ne_nil hne
    rw [hsegments] at hapart hjoined ⊢
    cases rest with
    | nil =>
      rw [List.intercalate_singleton] at hjoined
      exact absurd (hjoined ▸ h) (hapart part (List.mem_singleton_self part))
    | cons next rest =>
      rw [List.map_cons, List.map_cons, joinChars, List.append_assoc]
      exact List.mem_append_right _ (List.mem_append_left _ (List.mem_singleton_self '.'))

/-- **Names in snake case** are names through and through unless they were dotted, or held a capital I with a dot above. -/
theorem snake_isName_iff (name : String) :
    (∀ c ∈ (snake name).toList, isNameChar c = true) ↔ '.' ∉ name.toList ∧ '\u0130' ∉ name.toList := by
  have hbeside : '\u0130' ≠ '.' := by decide
  constructor
  · intro h
    constructor
    · intro hdot
      have hname := h '.' (dot_mem_snake_iff.2 hdot)
      rw [not_isNameChar_dot] at hname
      cases hname
    · intro hdotted
      obtain ⟨part, hpart, hmem⟩ := (mem_segments_iff hbeside).1 hdotted
      have hmark : dotAbove ∈ (snake name).toList := by
        rw [toList_snake]
        exact mem_joinChars_of_mem _ (List.mem_map_of_mem hpart) (dotAbove_mem_snakeSegment hmem)
      have hname := h dotAbove hmark
      rw [not_isNameChar_dotAbove] at hname
      cases hname
  · rintro ⟨hdot, hdotted⟩ c hc
    rw [toList_snake] at hc
    obtain hsep | ⟨_, hpart, hx⟩ := mem_joinChars hc
    · rw [List.mem_singleton.1 hsep, ← toList_snake, dot_mem_snake_iff] at hc
      exact absurd hc hdot
    · obtain ⟨segment, hsegment, rfl⟩ := List.mem_map.1 hpart
      obtain hname | ⟨-, hmem⟩ := mem_snakeSegment hx
      · exact hname
      · exact absurd ((mem_segments_iff hbeside).2 ⟨segment, hsegment, hmem⟩) hdotted

end Sql.Text
