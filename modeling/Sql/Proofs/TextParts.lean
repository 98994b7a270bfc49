/-
Texts cut at separators, texts without the blanks around them, and words that are read in order.

`Parts` and `TrimsTo` say what is asked of the parts of a text and of what is left between its blanks; both are met by one
result only, which is what `segments` and `trimChars` give. Of words that are read in order, either all are known or there
is a first one that is not.
-/
import Sql.Text.Blank

namespace Sql.Text

/-! ## Parts -/

/-- Parts in which there is no separator, and which make up a text with a separator between each two. -/
structure Parts (separator : Char) (text : List Char) (parts : List (List Char)) : Prop where
  ne_nil : parts ≠ []
  apart : ∀ part ∈ parts, separator ∉ part
  joined : [separator].intercalate parts = text

section

variable {separator : Char} {text part : List Char} {parts : List (List Char)}

theorem segments_of_not_mem (h : separator ∉ part) : segments (· == separator) part = [part] := by
  induction part with
  | nil => rfl
  | cons c cs ih =>
    rw [List.mem_cons, not_or] at h
    obtain ⟨hc, hcs⟩ := h
    have hne : (c == separator) = false := beq_false_of_ne (Ne.symm hc)
    simp [segments, hne, ih hcs]

theorem segments_append (h : separator ∉ part) (text : List Char) :
    segments (· == separator) (part ++ separator :: text) = part :: segments (· == separator) text := by
  induction part with
  | nil => simp [segments]
  | cons c cs ih =>
    rw [List.mem_cons, not_or] at h
    obtain ⟨hc, hcs⟩ := h
    have hne : (c == separator) = false := beq_false_of_ne (Ne.symm hc)
    simp [segments, hne, ih hcs]

/-- A text has no other parts. -/
theorem Parts.eq_segments (h : Parts separator text parts) : parts = segments (· == separator) text := by
  obtain ⟨hne, hapart, rfl⟩ := h
  induction parts with
  | nil => exact absurd rfl hne
  | cons part rest ih =>
    obtain ⟨hpart, hrest⟩ := List.forall_mem_cons.1 hapart
    cases rest with
    | nil => rw [List.intercalate_singleton, segments_of_not_mem hpart]
    | cons next rest =>
      rw [List.intercalate_cons_cons, List.append_assoc, List.singleton_append, segments_append hpart,
        ← ih (List.cons_ne_nil _ _) hrest]

theorem parts_segments (separator : Char) (text : List Char) : Parts separator text (segments (· == separator) text) := by
  induction text with
  | nil => exact ⟨List.cons_ne_nil _ _, by simp [segments], rfl⟩
  | cons c cs ih =>
    obtain ⟨hne, hapart, hjoined⟩ := ih
    obtain ⟨part, rest, hsegments⟩ := List.exists_cons_of_ne_nil hne
    rw [hsegments] at hapart hjoined
    obtain ⟨hpart, hrest⟩ := List.forall_mem_cons.1 hapart
    cases hc : c == separator with
    | true =>
      obtain rfl := eq_of_beq hc
      rw [segments, if_pos hc, hsegments]
      refine ⟨List.cons_ne_nil _ _, List.forall_mem_cons.2 ⟨List.not_mem_nil, hapart⟩, ?_⟩
      rw [List.intercalate_cons_cons, hjoined]
      rfl
    | false =>
      rw [segments, hc, hsegments]
      refine ⟨List.cons_ne_nil _ _, List.forall_mem_cons.2 ⟨?_, hrest⟩, ?_⟩
      · exact not_or.2 ⟨Ne.symm (ne_of_beq_false hc), hpart⟩ ∘ List.mem_cons.1
      · rw [← hjoined]
        cases rest <;> simp [List.intercalate_cons_cons]

theorem parts_iff : Parts separator text parts ↔ parts = segments (· == separator) text :=
  ⟨Parts.eq_segments, fun h => h ▸ parts_segments separator text⟩

end

/-! ## Blanks -/

/-- What is left of a text without the blanks before and behind it: it neither begins nor ends with one. -/
structure TrimsTo (text middle : List Char) : Prop where
  between : ∃ before after, text = before ++ middle ++ after ∧ (∀ c ∈ before, isBlank c = true) ∧
    ∀ c ∈ after, isBlank c = true
  head : ∀ c ∈ middle.head?, isBlank c = false
  last : ∀ c ∈ middle.getLast?, isBlank c = false

section

variable {text middle before after : List Char}

theorem dropWhile_blanks (hbefore : ∀ c ∈ before, isBlank c = true) (hhead : ∀ c ∈ middle.head?, isBlank c = false) :
    (before ++ middle).dropWhile isBlank = middle := by
  rw [List.dropWhile_append_of_pos hbefore]
  cases middle with
  | nil => rfl
  | cons c cs => rw [List.dropWhile_cons_of_neg (by simp [hhead c rfl])]

theorem trimsTo_trimChars (text : List Char) : TrimsTo text (trimChars text) := by
  have hfront := List.takeWhile_append_dropWhile (p := isBlank) (l := text)
  have hback := List.takeWhile_append_dropWhile (p := isBlank) (l := (text.dropWhile isBlank).reverse)
  have hblank {cs : List Char} : ∀ c ∈ cs.takeWhile isBlank, isBlank c = true := fun c hc =>
    List.all_eq_true.1 List.all_takeWhile c hc
  have hhead (cs : List Char) : ∀ c ∈ (cs.dropWhile isBlank).head?, isBlank c = false := by
    intro c hc
    have hnot := List.head?_dropWhile_not isBlank cs
    rw [Option.mem_def.1 hc] at hnot
    simpa using hnot
  have htext : text.dropWhile isBlank = trimChars text ++ ((text.dropWhile isBlank).reverse.takeWhile isBlank).reverse := by
    rw [trimChars, ← List.reverse_append, hback, List.reverse_reverse]
  refine ⟨⟨text.takeWhile isBlank, ((text.dropWhile isBlank).reverse.takeWhile isBlank).reverse, ?_, hblank, ?_⟩, ?_, ?_⟩
  · rw [List.append_assoc, ← htext, hfront]
  · exact fun c hc => hblank c (List.mem_reverse.1 hc)
  · intro c hc
    refine hhead text c ?_
    rw [htext, List.head?_append, Option.mem_def.1 hc]
    rfl
  · rw [trimChars, List.getLast?_reverse]
    exact hhead _

/-- Nothing else is left. -/
theorem TrimsTo.eq_trimChars (h : TrimsTo text middle) : middle = trimChars text := by
  obtain ⟨⟨before, after, rfl, hbefore, hafter⟩, hhead, hlast⟩ := h
  have hreverse : ∀ c ∈ after.reverse, isBlank c = true := fun c hc => hafter c (List.mem_reverse.1 hc)
  cases middle with
  | nil =>
    have hall : (before ++ [] ++ after).dropWhile isBlank = [] := by
      have hblank : (after ++ []).dropWhile isBlank = [] := dropWhile_blanks hafter fun _ h => by cases h
      rw [List.append_nil] at hblank ⊢
      rw [List.dropWhile_append_of_pos hbefore, hblank]
    rw [trimChars, hall]
    rfl
  | cons c cs =>
    have hfront : (before ++ (c :: cs) ++ after).dropWhile isBlank = c :: cs ++ after := by
      rw [List.append_assoc]
      exact dropWhile_blanks hbefore hhead
    have hback : (after.reverse ++ (c :: cs).reverse).dropWhile isBlank = (c :: cs).reverse :=
      dropWhile_blanks hreverse (by rwa [List.head?_reverse])
    rw [trimChars, hfront, List.reverse_append, hback, List.reverse_reverse]

theorem trimsTo_iff : TrimsTo text middle ↔ middle = trimChars text :=
  ⟨TrimsTo.eq_trimChars, fun h => h ▸ trimsTo_trimChars text⟩

end

/-! ## Words in order -/

/-- The first of some words that is not known. -/
def FirstUnknown (known : String → Prop) (words : List String) (word : String) : Prop :=
  ∃ before after, words = before ++ word :: after ∧ (∀ w ∈ before, known w) ∧ ¬ known word

section

variable {known : String → Prop} {word unknown : String} {words : List String}

theorem FirstUnknown.here (hword : ¬ known word) (words : List String) : FirstUnknown known (word :: words) word :=
  ⟨[], words, rfl, List.forall_mem_nil _, hword⟩

theorem FirstUnknown.there (hword : known word) (h : FirstUnknown known words unknown) :
    FirstUnknown known (word :: words) unknown := by
  obtain ⟨before, after, rfl, hbefore, hunknown⟩ := h
  exact ⟨word :: before, after, rfl, List.forall_mem_cons.2 ⟨hword, hbefore⟩, hunknown⟩

/-- The first of several words is unknown, or it is known and the first unknown one is among the others. -/
theorem firstUnknown_cons : FirstUnknown known (word :: words) unknown ↔
    ¬ known word ∧ unknown = word ∨ known word ∧ FirstUnknown known words unknown := by
  constructor
  · rintro ⟨before, after, hwords, hbefore, hunknown⟩
    cases before with
    | nil =>
      cases hwords
      exact .inl ⟨hunknown, rfl⟩
    | cons first before =>
      cases hwords
      obtain ⟨hfirst, hbefore⟩ := List.forall_mem_cons.1 hbefore
      exact .inr ⟨hfirst, before, after, rfl, hbefore, hunknown⟩
  · rintro (⟨hword, rfl⟩ | ⟨hword, h⟩)
    · exact .here hword words
    · exact h.there hword

theorem FirstUnknown.mem (h : FirstUnknown known words word) : word ∈ words ∧ ¬ known word := by
  obtain ⟨before, after, rfl, -, hunknown⟩ := h
  exact ⟨List.mem_append_right before List.mem_cons_self, hunknown⟩

theorem all_or_firstUnknown (known : String → Prop) (words : List String) :
    (∀ word ∈ words, known word) ∨ ∃ word, FirstUnknown known words word := by
  induction words with
  | nil => exact .inl (List.forall_mem_nil _)
  | cons word words ih =>
    by_cases hword : known word
    · exact ih.imp (fun hall => List.forall_mem_cons.2 ⟨hword, hall⟩) fun ⟨unknown, h⟩ => ⟨unknown, h.there hword⟩
    · exact .inr ⟨word, .here hword words⟩

end

end Sql.Text
