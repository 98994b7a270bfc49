/-
Snake case of ASCII names is stable and loses no letters.

Every word that is cut out has a character (`ne_nil_of_mem_wordsFrom`), so the parts of a name in snake case are words of
small letters and digits with single underscores between them (`isSnake_snakeSegment`). Where no letter is a capital, no word
is cut: such a part is its own snake case (`snakeSegment_of_isSnake`).
-/
import Mathlib.Data.List.Forall2
import Sql.Proofs.SnakeNames

namespace Sql.Text

/-! ## Words -/

/-- No word is empty: where one is cut off in front of a capital letter, another capital letter stands in it. -/
theorem ne_nil_of_mem_wordsFrom {w : WordCase} {word : List Char} (hword : w = .capital → word ≠ []) {cs part : List Char}
    (h : part ∈ wordsFrom w word cs) : part ≠ [] := by
  have hnone (word : List Char) : WordCase.none = .capital → word ≠ [] := fun heq => absurd heq (by decide)
  induction w, word, cs using wordsFrom.induct with
  | case1 => exact absurd h List.not_mem_nil
  | case2 w word c =>
    rw [List.mem_singleton.1 h]
    exact List.append_ne_nil_of_right_ne_nil _ (List.cons_ne_nil _ _)
  | case3 w word c next rest hcut ih =>
    rw [wordsFrom, if_pos hcut] at h
    rcases List.mem_cons.1 h with rfl | h
    · exact List.append_ne_nil_of_right_ne_nil _ (List.cons_ne_nil _ _)
    · exact ih (hnone _) h
  | case4 w word c next rest hnot hcut ih =>
    rw [wordsFrom, if_neg hnot, if_pos hcut] at h
    rcases List.mem_cons.1 h with rfl | h
    · exact hword hcut.1
    · exact ih (hnone _) h
  | case5 w word c next rest hnot hnot' ih =>
    rw [wordsFrom, if_neg hnot, if_neg hnot'] at h
    exact ih (fun _ => List.append_ne_nil_of_right_ne_nil _ (List.cons_ne_nil _ _)) h

/-- Without capital letters there is one word. -/
theorem wordsFrom_of_not_upper {w : WordCase} {word cs : List Char} (hcs : cs ≠ []) (h : ∀ c ∈ cs, isUpper c = false) :
    wordsFrom w word cs = [word ++ cs] := by
  induction w, word, cs using wordsFrom.induct with
  | case1 => exact absurd rfl hcs
  | case2 w word c => rfl
  | case3 w word c next rest hcut ih =>
    have hnext := h next (by simp)
    simp [hcut.2] at hnext
  | case4 w word c next rest hnot hcut ih =>
    have hc := h c (by simp)
    simp [hcut.2.1] at hc
  | case5 w word c next rest hnot hnot' ih =>
    rw [wordsFrom, if_neg hnot, if_neg hnot', ih (List.cons_ne_nil _ _) fun x hx => h x (List.mem_cons_of_mem _ hx),
      List.append_assoc]
    rfl

/-! ## Joined parts -/

theorem joinChars_eq (separator : List Char) (parts : List (List Char)) :
    joinChars separator parts = separator.intercalate parts := by
  induction parts using joinChars.induct with
  | case1 => rfl
  | case2 part => rw [joinChars, List.intercalate_singleton]
  | case3 part next rest ih => rw [joinChars, List.intercalate_cons_cons, ih, List.append_assoc]

/-- There is one more part than separators. -/
theorem length_segments (separator : Char) (text : List Char) :
    (segments (· == separator) text).length = text.count separator + 1 := by
  induction text with
  | nil => rfl
  | cons c cs ih =>
    obtain ⟨part, parts, hsegments⟩ := List.exists_cons_of_ne_nil (segments_ne_nil (· == separator) cs)
    rw [hsegments, List.length_cons] at ih
    rw [List.count_cons, segments, hsegments]
    split <;> simp <;> omega

theorem segments_congr {separates separates' : Char → Bool} {cs : List Char} (h : ∀ c ∈ cs, separates c = separates' c) :
    segments separates cs = segments separates' cs := by
  induction cs with
  | nil => rfl
  | cons c cs ih =>
    obtain ⟨hc, hcs⟩ := List.forall_mem_cons.1 h
    rw [segments, segments, hc, ih hcs]

/-! ## ASCII -/

/-- A small letter of ASCII, or a digit. -/
def isSmallOrDigit (c : Char) : Bool := c.isLower || c.isDigit

theorem small_of_alphanum_ascii : ∀ n : Fin 0x80, (Char.ofNat n).isAlphanum = true →
    isSmallOrDigit (Char.ofNat n).toLower = true := by
  decide +kernel

theorem smallOrDigit_ascii : ∀ n : Fin 0x80, isSmallOrDigit (Char.ofNat n) = true →
    (Char.ofNat n).isAlphanum = true ∧ (Char.ofNat n).isUpper = false ∧ (Char.ofNat n).toLower = Char.ofNat n := by
  decide +kernel

section

variable {c : Char}

theorem small_of_alphanum (hc : c.toNat < 0x80) (h : c.isAlphanum = true) : isSmallOrDigit c.toLower = true := by
  have hsmall := small_of_alphanum_ascii ⟨c.toNat, hc⟩
  rw [Char.ofNat_toNat] at hsmall
  exact hsmall h

theorem toNat_lt_of_smallOrDigit (h : isSmallOrDigit c = true) : c.toNat < 0x80 := by
  rcases Bool.or_eq_true_iff.1 h with hrange | hrange
  · have hlast := of_decide_eq_true (Bool.and_eq_true_iff.1 hrange).2
    exact Nat.lt_of_le_of_lt hlast (by decide)
  · have hlast := of_decide_eq_true (Bool.and_eq_true_iff.1 hrange).2
    exact Nat.lt_of_le_of_lt hlast (by decide)

/-- Small letters and digits stay as they are and cut no words. -/
theorem smallOrDigit_stays (h : isSmallOrDigit c = true) :
    isAlphanumeric c = true ∧ isUpper c = false ∧ c.toLower = c := by
  have hc := toNat_lt_of_smallOrDigit h
  have hstays := smallOrDigit_ascii ⟨c.toNat, hc⟩
  rw [Char.ofNat_toNat] at hstays
  obtain ⟨halnum, hupper, hlower⟩ := hstays h
  exact ⟨by rwa [isAlphanumeric, if_pos hc], by rwa [isUpper, if_pos hc], hlower⟩

end

/-- A word of ASCII in lower case. -/
theorem lowerWord_ascii {word : List Char} (h : ∀ c ∈ word, c.toNat < 0x80) : lowerWord word = word.map Char.toLower := by
  induction word using lowerWord.induct with
  | case1 => rfl
  | case2 => exact absurd (h _ (List.mem_singleton_self _)) (by decide)
  | case3 c cs hfinal ih =>
    obtain ⟨hc, hcs⟩ := List.forall_mem_cons.1 h
    rw [lowerWord, ih hcs, lowerChar, if_pos hc]
    · rfl
    · exact hfinal

/-! ## Parts in snake case -/

/-- Words of small letters and digits with an underscore between each two; nothing if there are no words. -/
def IsSnake (part : List Char) : Prop :=
  ∃ parts : List (List Char), (∀ word ∈ parts, word ≠ [] ∧ ∀ c ∈ word, isSmallOrDigit c = true) ∧
    part = ['_'].intercalate parts

theorem underscore_not_mem {word : List Char} (h : ∀ c ∈ word, isSmallOrDigit c = true) : '_' ∉ word :=
  fun hmem => absurd (h '_' hmem) (by decide)

section

variable {cs : List Char}

theorem mem_words {word : List Char} (h : word ∈ words cs) : word ≠ [] ∧ ∀ c ∈ word, c ∈ cs ∧ isAlphanumeric c = true := by
  constructor
  · obtain ⟨segment, -, hword⟩ := List.mem_flatMap.1 h
    exact ne_nil_of_mem_wordsFrom (fun heq => absurd heq (by decide)) hword
  · intro c hc
    have hmem : c ∈ cs.filter isAlphanumeric := words_flatten cs ▸ List.mem_flatten.2 ⟨word, h, hc⟩
    exact List.mem_filter.1 hmem

theorem lowerWord_words (hcs : ∀ c ∈ cs, c.toNat < 0x80) : (words cs).map lowerWord = (words cs).map (·.map Char.toLower) :=
  List.map_congr_left fun _ hword => lowerWord_ascii fun c hc => hcs c ((mem_words hword).2 c hc).1

theorem smallOrDigit_of_mem_words (hcs : ∀ c ∈ cs, c.toNat < 0x80) :
    ∀ word ∈ (words cs).map lowerWord, word ≠ [] ∧ ∀ c ∈ word, isSmallOrDigit c = true := by
  rw [lowerWord_words hcs, List.forall_mem_map]
  intro word hword
  obtain ⟨hne, hmem⟩ := mem_words hword
  refine ⟨fun hnil => hne (List.map_eq_nil_iff.1 hnil), ?_⟩
  rw [List.forall_mem_map]
  intro c hc
  obtain ⟨hin, halnum⟩ := hmem c hc
  rw [isAlphanumeric, if_pos (hcs c hin)] at halnum
  exact small_of_alphanum (hcs c hin) halnum

theorem snakeSegment_eq : snakeSegment cs = ['_'].intercalate ((words cs).map lowerWord) := joinChars_eq _ _

theorem isSnake_snakeSegment (hcs : ∀ c ∈ cs, c.toNat < 0x80) : IsSnake (snakeSegment cs) :=
  ⟨_, smallOrDigit_of_mem_words hcs, snakeSegment_eq⟩

theorem filter_intercalate {separator : Char} {parts : List (List Char)} (h : ∀ part ∈ parts, separator ∉ part) :
    ([separator].intercalate parts).filter (· != separator) = parts.flatten := by
  cases parts with
  | nil => rfl
  | cons part parts =>
    have hparts : Parts separator ([separator].intercalate (part :: parts)) (part :: parts) := ⟨List.cons_ne_nil _ _, h, rfl⟩
    conv => rhs; rw [hparts.eq_segments]
    rw [segments_flatten]
    rfl

/-- Without its underscores a part is what it was made from, in lower case. -/
theorem filter_snakeSegment (hcs : ∀ c ∈ cs, c.toNat < 0x80) :
    (snakeSegment cs).filter (· != '_') = (cs.filter Char.isAlphanum).map Char.toLower := by
  have hascii : cs.filter isAlphanumeric = cs.filter Char.isAlphanum :=
    List.filter_congr fun c hc => by rw [isAlphanumeric, if_pos (hcs c hc)]
  rw [snakeSegment_eq, filter_intercalate, lowerWord_words hcs, ← List.map_flatten, words_flatten, hascii]
  exact fun word hword => underscore_not_mem (smallOrDigit_of_mem_words hcs word hword).2

end

/-- The words of a part in snake case are those that it is joined from. -/
theorem words_intercalate {parts : List (List Char)}
    (hparts : ∀ word ∈ parts, word ≠ [] ∧ ∀ c ∈ word, isSmallOrDigit c = true) :
    words (['_'].intercalate parts) = parts := by
  have hone : ∀ word ∈ parts, wordsFrom .none [] word = [word] := fun word hword =>
    wordsFrom_of_not_upper (hparts word hword).1 fun c hc => (smallOrDigit_stays ((hparts word hword).2 c hc)).2.1
  have hsame : ∀ c ∈ ['_'].intercalate parts, (!isAlphanumeric c) = (c == '_') := by
    intro c hc
    rw [← joinChars_eq] at hc
    obtain hc | ⟨word, hword, hc⟩ := mem_joinChars hc
    · rw [List.mem_singleton.1 hc]
      decide
    · have hsmall := (hparts word hword).2 c hc
      have hother : c ≠ '_' := fun heq => underscore_not_mem (hparts word hword).2 (heq ▸ hc)
      rw [(smallOrDigit_stays hsmall).1, beq_false_of_ne hother]
      rfl
  rw [words, segments_congr hsame]
  cases parts with
  | nil => rfl
  | cons word rest =>
    have hjoined : Parts '_' (['_'].intercalate (word :: rest)) (word :: rest) :=
      ⟨List.cons_ne_nil _ _, fun part hpart => underscore_not_mem (hparts part hpart).2, rfl⟩
    rw [← hjoined.eq_segments, List.flatMap_congr hone]
    simp

/-- **A part in snake case stays as it is.** -/
theorem snakeSegment_of_isSnake {part : List Char} (h : IsSnake part) : snakeSegment part = part := by
  obtain ⟨parts, hparts, rfl⟩ := h
  have hlower : ∀ word ∈ parts, lowerWord word = word := by
    intro word hword
    have hsmall := (hparts word hword).2
    rw [lowerWord_ascii fun c hc => toNat_lt_of_smallOrDigit (hsmall c hc),
      List.map_congr_left fun c hc => (smallOrDigit_stays (hsmall c hc)).2.2, List.map_id']
  rw [snakeSegment_eq, words_intercalate hparts, List.map_congr_left hlower, List.map_id']

/-! ## Names -/

theorem dot_not_mem_snakeSegment (cs : List Char) : '.' ∉ snakeSegment cs := by
  intro h
  obtain hname | ⟨hmark, -⟩ := mem_snakeSegment h
  · rw [not_isNameChar_dot] at hname
    cases hname
  · exact absurd hmark (by decide)

/-- The parts of a name in snake case are those of the name, each in snake case. -/
theorem segments_snake (name : String) :
    segments (· == '.') (snake name).toList = (segments (· == '.') name.toList).map snakeSegment := by
  have hparts : Parts '.' (snake name).toList ((segments (· == '.') name.toList).map snakeSegment) := by
    refine ⟨fun hnil => segments_ne_nil _ _ (List.map_eq_nil_iff.1 hnil), ?_, ?_⟩
    · rw [List.forall_mem_map]
      exact fun part _ => dot_not_mem_snakeSegment part
    · rw [toList_snake, joinChars_eq]
  exact hparts.eq_segments.symm

/-- **Snake case of ASCII names is stable and loses no letters.** A second conversion changes nothing. There are as many dots
as before, and of the parts between them each is in snake case and, without its underscores, the letters and digits of the
part that it was made from, in lower case and in their order. -/
theorem snake_stable {name : String} (hascii : ∀ c ∈ name.toList, c.toNat < 0x80) :
    snake (snake name) = snake name ∧
      (snake name).toList.count '.' = name.toList.count '.' ∧
      ∃ parts parts', Parts '.' name.toList parts ∧ Parts '.' (snake name).toList parts' ∧
        List.Forall₂ (fun part part' =>
          IsSnake part' ∧ part'.filter (· != '_') = (part.filter Char.isAlphanum).map Char.toLower) parts parts' := by
  have hpart : ∀ part ∈ segments (· == '.') name.toList, ∀ c ∈ part, c.toNat < 0x80 := by
    intro part hpart c hc
    have hmem : c ∈ (segments (· == '.') name.toList).flatten := List.mem_flatten.2 ⟨part, hpart, hc⟩
    rw [segments_flatten] at hmem
    exact hascii c (List.mem_filter.1 hmem).1
  refine ⟨?_, ?_, _, _, parts_segments '.' _, parts_segments '.' _, ?_⟩
  · refine String.toList_inj.1 ?_
    have hstays : ∀ part ∈ segments (· == '.') name.toList, snakeSegment (snakeSegment part) = snakeSegment part :=
      fun part hmem => snakeSegment_of_isSnake (isSnake_snakeSegment (hpart part hmem))
    rw [toList_snake (snake name), segments_snake, toList_snake, List.map_map]
    exact congrArg _ (List.map_congr_left hstays)
  · have hlength := congrArg List.length (segments_snake name)
    rw [List.length_map, length_segments, length_segments] at hlength
    omega
  · rw [segments_snake, List.forall₂_map_right_iff, List.forall₂_same]
    exact fun part hmem => ⟨isSnake_snakeSegment (hpart part hmem), filter_snakeSegment (hpart part hmem)⟩

/-- A path with an acronym and a digit. -/
theorem snake_stable_serverPath : (∀ c ∈ "User.HTTPServer2ID".toList, c.toNat < 0x80) ∧
    snake "User.HTTPServer2ID" = "user.http_server2_id" ∧ snake "user.http_server2_id" = "user.http_server2_id" := by
  have hascii : ∀ c ∈ "User.HTTPServer2ID".toList, c.toNat < 0x80 := by simp
  have hsnake : snake "User.HTTPServer2ID" = "user.http_server2_id" := by decide
  have hstable := (snake_stable hascii).1
  rw [hsnake] at hstable
  exact ⟨hascii, hsnake, hstable⟩

end Sql.Text
