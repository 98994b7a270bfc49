/-
When a condition is read as it was meant.

`Written.keeps` finds the places where parentheses are missing: an AND or OR right behind an odd number of NOTs, and an
OR that an AND stands beside. Without such a place, what is written is read as it was meant
(`value_of_keeps`). With one, and no atom twice, some truth assignment tells the two apart (`broken_of_not_keeps`):
two atoms are enough, because their meaning and their reading, with all other atoms fixed, are different functions.
-/
import Sql.Proofs.Precedence

namespace Sql

variable {α : Type}

namespace Written

/-- What is meant. -/
def value : Written α → (α → Bool) → Bool
  | atom a, truth => truth a
  | group w, truth => w.value truth
  | not w, truth => !w.value truth
  | both l r, truth => l.value truth && r.value truth
  | either l r, truth => l.value truth || r.value truth

/-- An OR stands outside of parentheses. -/
def showsOr : Written α → Bool
  | atom _ | group _ => false
  | not w => w.showsOr
  | both l r => l.showsOr || r.showsOr
  | either _ _ => true

/-- No parentheses are missing, behind an odd number of NOTs or an even one. -/
def keeps : Bool → Written α → Bool
  | _, atom _ => true
  | _, group w => w.keeps false
  | negated, not w => w.keeps (!negated)
  | negated, both l r => !negated && l.keeps false && r.keeps false && !l.showsOr && !r.showsOr
  | negated, either l r => !negated && l.keeps false && r.keeps false

/-! ## Enough parentheses -/

section

variable {truth : α → Bool}

theorem reading_eq_single {w : Written α} (h : w.showsOr = false) (negated : Bool) :
    ∃ p, w.reading truth negated = [p] := by
  induction w generalizing negated with
  | atom a => exact ⟨_, rfl⟩
  | group w ih => exact ⟨_, rfl⟩
  | not w ih => exact ih h _
  | both l r ihl ihr =>
    simp only [showsOr, Bool.or_eq_false_iff] at h
    obtain ⟨p, hp⟩ := ihl h.1 negated
    obtain ⟨q, hq⟩ := ihr h.2 false
    exact ⟨p && q, by rw [reading, hp, hq, merge_single]⟩
  | either l r ihl ihr => cases h

/-- AND between two readings without OR. -/
theorem any_both {negated : Bool} {l r : Written α} (hl : l.showsOr = false) (hr : r.showsOr = false) :
    ((both l r).reading truth negated).any id =
      ((l.reading truth negated).any id && (r.reading truth false).any id) := by
  obtain ⟨p, hp⟩ := reading_eq_single hl negated
  obtain ⟨q, hq⟩ := reading_eq_single hr false
  rw [reading, hp, hq, merge_single]
  simp

theorem any_either {negated : Bool} {l r : Written α} :
    ((either l r).reading truth negated).any id =
      ((l.reading truth negated).any id || (r.reading truth false).any id) := by
  rw [reading, List.any_append]

/-- **Without a missing pair of parentheses** the reading has the value that is meant. -/
theorem value_of_keeps {negated : Bool} {w : Written α} (h : w.keeps negated = true) :
    (w.reading truth negated).any id = (w.value truth ^^ negated) := by
  induction w generalizing negated with
  | atom a => simp [reading, value]
  | group w ih =>
    have hw := ih h
    simp [reading, value, hw]
  | not w ih =>
    have hw := ih h
    rw [reading, hw, value]
    cases w.value truth <;> cases negated <;> rfl
  | both l r ihl ihr =>
    simp only [keeps, Bool.and_eq_true, Bool.not_eq_true'] at h
    obtain ⟨⟨⟨⟨rfl, hl⟩, hr⟩, hlor⟩, hror⟩ := h
    rw [any_both hlor hror, ihl hl, ihr hr, value]
    simp
  | either l r ihl ihr =>
    simp only [keeps, Bool.and_eq_true, Bool.not_eq_true'] at h
    obtain ⟨⟨rfl, hl⟩, hr⟩ := h
    rw [any_either, ihl hl, ihr hr, value]
    simp

end

/-! ## First and last operands -/

/-- The first atom. -/
def first : Written α → α
  | atom a => a
  | group w | not w => w.first
  | both l _ | either l _ => l.first

/-- The last atom. -/
def last : Written α → α
  | atom a => a
  | group w | not w => w.last
  | both _ r | either _ r => r.last

/-- Whether the NOTs over the first atom are odd in number. -/
def firstNegated : Written α → Bool
  | atom _ => false
  | group w => w.firstNegated
  | not w => !w.firstNegated
  | both l _ | either l _ => l.firstNegated

theorem first_mem (w : Written α) : w.first ∈ w.atoms := by
  induction w with
  | atom a => exact List.mem_singleton_self a
  | group w ih => exact ih
  | not w ih => exact ih
  | both l r ihl | either l r ihl => exact List.mem_append_left _ ihl

theorem last_mem (w : Written α) : w.last ∈ w.atoms := by
  induction w with
  | atom a => exact List.mem_singleton_self a
  | group w ih => exact ih
  | not w ih => exact ih
  | both l r _ ihr | either l r _ ihr => exact List.mem_append_right _ ihr

theorem disjoint_atoms {l r : Written α} (h : (l.atoms ++ r.atoms).Nodup) : ∀ a ∈ l.atoms, a ∉ r.atoms :=
  fun a hl hr => (List.nodup_append.1 h).2.2 a hl a hr rfl

theorem disjoint_atoms_right {l r : Written α} (h : (l.atoms ++ r.atoms).Nodup) : ∀ a ∈ r.atoms, a ∉ l.atoms :=
  fun a hr hl => disjoint_atoms h a hl hr

end Written

/-! ## Functions of truth assignments -/

/-- The values of these atoms are enough. -/
def DependsOn {β : Type} (atoms : List α) (F : (α → Bool) → β) : Prop :=
  ∀ t t', (∀ a ∈ atoms, t a = t' a) → F t = F t'

namespace Written

theorem value_dependsOn (w : Written α) : DependsOn w.atoms w.value := by
  intro t t' h
  induction w with
  | atom a => exact h a (List.mem_singleton_self a)
  | group w ih => exact ih h
  | not w ih => rw [value, value, ih h]
  | both l r ihl ihr | either l r ihl ihr =>
    obtain ⟨hl, hr⟩ := List.forall_mem_append.1 h
    rw [value, value, ihl hl, ihr hr]

theorem reading_dependsOn (w : Written α) (negated : Bool) : DependsOn w.atoms (w.reading · negated) := by
  intro t t' h
  show w.reading t negated = w.reading t' negated
  induction w generalizing negated with
  | atom a => rw [reading, reading, h a (List.mem_singleton_self a)]
  | group w ih => rw [reading, reading, ih false h]
  | not w ih => rw [reading, reading, ih _ h]
  | both l r ihl ihr | either l r ihl ihr =>
    obtain ⟨hl, hr⟩ := List.forall_mem_append.1 h
    rw [reading, reading, ihl _ hl, ihr _ hr]

end Written

section

variable [DecidableEq α]

/-- A truth assignment with one atom changed. -/
def assign (t : α → Bool) (x : α) (b : Bool) : α → Bool := fun a => if a = x then b else t a

/-- A truth assignment with two atoms changed. -/
def assign₂ (t : α → Bool) (x y : α) (a b : Bool) : α → Bool := assign (assign t x a) y b

theorem assign_self (t : α → Bool) (x : α) (b : Bool) : assign t x b x = b := if_pos rfl

theorem assign_other {t : α → Bool} {x a : α} (b : Bool) (h : a ≠ x) : assign t x b a = t a := if_neg h

theorem assign_congr {A : List α} {t t' : α → Bool} (h : ∀ a ∈ A, t a = t' a) (x : α) (b : Bool) :
    ∀ a ∈ A, assign t x b a = assign t' x b a := by
  intro a ha
  by_cases hx : a = x
  · rw [hx, assign_self, assign_self]
  · rw [assign_other b hx, assign_other b hx, h a ha]

namespace DependsOn

variable {β : Type} {A : List α} {F : (α → Bool) → β}

theorem congr₂ (hF : DependsOn A F) {t t' : α → Bool} (h : ∀ a ∈ A, t a = t' a) (x y : α) (a b : Bool) :
    F (assign₂ t x y a b) = F (assign₂ t' x y a b) :=
  hF _ _ (assign_congr (assign_congr h x a) y b)

theorem right (hF : DependsOn A F) {y : α} (hy : y ∉ A) (t : α → Bool) (x : α) (a b : Bool) :
    F (assign₂ t x y a b) = F (assign t x a) :=
  hF _ _ fun _ ha => assign_other b fun h => hy (h ▸ ha)

theorem left (hF : DependsOn A F) {x : α} (hx : x ∉ A) (t : α → Bool) (y : α) (a b : Bool) :
    F (assign₂ t x y a b) = F (assign t y b) :=
  hF _ _ (assign_congr (fun a' ha => assign_other a fun (h : a' = x) => hx (h ▸ ha)) y b)

omit [DecidableEq α] in
theorem comp {γ : Type} (hF : DependsOn A F) (f : β → γ) : DependsOn A fun t => f (F t) :=
  fun t t' h => congrArg f (hF t t' h)

theorem neither (hF : DependsOn A F) {x : α} (hx : x ∉ A) (t : α → Bool) (b : Bool) :
    F (assign t x b) = F t :=
  hF _ _ fun _ ha => assign_other b fun h => hx (h ▸ ha)

end DependsOn

/-- Truth assignments for different atoms make one. -/
theorem exists_agreeing {A B : List α} (hdisjoint : ∀ a ∈ A, a ∉ B) (tA tB : α → Bool) :
    ∃ t : α → Bool, (∀ a ∈ A, t a = tA a) ∧ ∀ a ∈ B, t a = tB a := by
  refine ⟨fun a => if a ∈ A then tA a else tB a, fun a ha => if_pos ha, fun a hb => if_neg fun ha => ?_⟩
  exact hdisjoint a ha hb

/-! ## One atom decides -/

/-- With the other atoms fixed in some way, one atom or its negation is all that counts. -/
def Realizes (F : (α → Bool) → Bool) (x : α) (s : Bool) : Prop :=
  ∃ t, ∀ b, F (assign t x b) = (b ^^ s)

theorem Realizes.xor {F : (α → Bool) → Bool} {x : α} {s : Bool} (h : Realizes F x s) (n : Bool) :
    Realizes (fun t => F t ^^ n) x (s ^^ n) := by
  obtain ⟨t, ht⟩ := h
  refine ⟨t, fun b => ?_⟩
  show (F (assign t x b) ^^ n) = _
  rw [ht, Bool.xor_assoc]

section

variable {A B : List α} {F G : (α → Bool) → Bool} (hF : DependsOn A F) (hG : DependsOn B G)
  (hdisjoint : ∀ a ∈ A, a ∉ B)

include hF hG hdisjoint

theorem Realizes.and {x : α} {s : Bool} (h : Realizes F x s) (hx : x ∈ A) (htrue : ∃ t, G t = true) :
    Realizes (fun t => F t && G t) x s := by
  obtain ⟨tF, htF⟩ := h
  obtain ⟨tG, htG⟩ := htrue
  obtain ⟨t, htA, htB⟩ := exists_agreeing hdisjoint tF tG
  refine ⟨t, fun b => ?_⟩
  have hFb : F (assign t x b) = (b ^^ s) := by rw [← htF b, hF _ _ (assign_congr htA x b)]
  have hGb : G (assign t x b) = true := by rw [hG.neither (hdisjoint x hx), hG _ _ htB, htG]
  show (F (assign t x b) && G (assign t x b)) = (b ^^ s)
  rw [hFb, hGb, Bool.and_true]

theorem Realizes.or {x : α} {s : Bool} (h : Realizes F x s) (hx : x ∈ A) (hfalse : ∃ t, G t = false) :
    Realizes (fun t => F t || G t) x s := by
  have htrue : ∃ t, (G t ^^ true) = true := hfalse.imp fun t ht => by rw [ht]; rfl
  have hnot := (h.xor true).and (hF.comp (· ^^ true)) (hG.comp (· ^^ true)) hdisjoint hx htrue
  simpa only [Bool.xor_true, Bool.not_and, Bool.not_not] using hnot.xor true

end

namespace Written

/-- Every value can be reached, where no atom occurs twice. -/
theorem exists_value {w : Written α} (hnodup : w.atoms.Nodup) (v : Bool) : ∃ t, w.value t = v := by
  induction w generalizing v with
  | atom a => exact ⟨fun _ => v, rfl⟩
  | group w ih => exact ih hnodup v
  | not w ih =>
    obtain ⟨t, ht⟩ := ih hnodup (!v)
    exact ⟨t, by rw [value, ht, Bool.not_not]⟩
  | both l r ihl ihr | either l r ihl ihr =>
    obtain ⟨hl, hr, -⟩ := List.nodup_append.1 hnodup
    obtain ⟨tl, htl⟩ := ihl hl v
    obtain ⟨tr, htr⟩ := ihr hr v
    obtain ⟨t, hA, hB⟩ := exists_agreeing (disjoint_atoms hnodup) tl tr
    refine ⟨t, ?_⟩
    rw [value, l.value_dependsOn _ _ hA, r.value_dependsOn _ _ hB, htl, htr]
    cases v <;> rfl

theorem realizes_of_mem {w : Written α} (hnodup : w.atoms.Nodup) {x : α} (hx : x ∈ w.atoms) :
    ∃ s, Realizes w.value x s := by
  induction w with
  | atom a =>
    obtain rfl := List.mem_singleton.1 hx
    exact ⟨false, fun _ => false, fun b => by rw [value, assign_self, Bool.xor_false]⟩
  | group w ih => exact ih hnodup hx
  | not w ih =>
    obtain ⟨s, h⟩ := ih hnodup hx
    obtain ⟨t, ht⟩ := h
    exact ⟨!s, t, fun b => by rw [value, ht, Bool.xor_not]⟩
  | both l r ihl ihr =>
    obtain ⟨hl, hr, -⟩ := List.nodup_append.1 hnodup
    rcases List.mem_append.1 hx with hx | hx
    · obtain ⟨s, h⟩ := ihl hl hx
      exact ⟨s, h.and l.value_dependsOn r.value_dependsOn (disjoint_atoms hnodup) hx (exists_value hr true)⟩
    · obtain ⟨s, h⟩ := ihr hr hx
      have hdisjoint := disjoint_atoms_right hnodup
      obtain ⟨t, ht⟩ := h.and r.value_dependsOn l.value_dependsOn hdisjoint hx (exists_value hl true)
      exact ⟨s, t, fun b => by rw [value, Bool.and_comm, ← ht b]⟩
  | either l r ihl ihr =>
    obtain ⟨hl, hr, -⟩ := List.nodup_append.1 hnodup
    rcases List.mem_append.1 hx with hx | hx
    · obtain ⟨s, h⟩ := ihl hl hx
      exact ⟨s, h.or l.value_dependsOn r.value_dependsOn (disjoint_atoms hnodup) hx (exists_value hr false)⟩
    · obtain ⟨s, h⟩ := ihr hr hx
      have hdisjoint := disjoint_atoms_right hnodup
      obtain ⟨t, ht⟩ := h.or r.value_dependsOn l.value_dependsOn hdisjoint hx (exists_value hl false)
      exact ⟨s, t, fun b => by rw [value, Bool.or_comm, ← ht b]⟩

theorem realizes_first {w : Written α} (hnodup : w.atoms.Nodup) : Realizes w.value w.first w.firstNegated := by
  induction w with
  | atom a => exact ⟨fun _ => false, fun b => by rw [value, first, assign_self, firstNegated, Bool.xor_false]⟩
  | group w ih => exact ih hnodup
  | not w ih =>
    obtain ⟨t, ht⟩ := ih hnodup
    exact ⟨t, fun b => by rw [value, first, ht, firstNegated, Bool.xor_not]⟩
  | both l r ihl =>
    obtain ⟨hl, hr, -⟩ := List.nodup_append.1 hnodup
    exact (ihl hl).and l.value_dependsOn r.value_dependsOn (disjoint_atoms hnodup) l.first_mem
      (exists_value hr true)
  | either l r ihl =>
    obtain ⟨hl, hr, -⟩ := List.nodup_append.1 hnodup
    exact (ihl hl).or l.value_dependsOn r.value_dependsOn (disjoint_atoms hnodup) l.first_mem
      (exists_value hr false)

/-! ## What the first and the last atom do to the reading -/

omit [DecidableEq α] in
theorem exists_merge_last {ps : List Bool} (hp : ps ≠ []) (qs : List Bool) :
    ∃ (ms : List Bool) (f : Bool → Bool), ∀ q, merge ps (qs ++ [q]) = ms ++ [f q] := by
  induction ps with
  | nil => exact absurd rfl hp
  | cons p ps ih =>
    cases ps with
    | nil =>
      cases qs with
      | nil => exact ⟨[], fun q => p && q, fun q => rfl⟩
      | cons q' qs => exact ⟨(p && q') :: qs, id, fun q => rfl⟩
    | cons p' ps =>
      obtain ⟨ms, f, h⟩ := ih (List.cons_ne_nil p' ps)
      exact ⟨p :: ms, f, fun q => by rw [merge_cons_cons, h, List.cons_append]⟩

/-- Parentheses, and a NOT in front of them, turn the atom and the reading alike. -/
theorem follows_group {p : Bool → Bool} {s : Bool} (h : p s = true → p (!s) = true) (others n : Bool) :
    ((p (s ^^ n) || others) ^^ n) = true → ((p (!(s ^^ n)) || others) ^^ n) = true := by
  cases n with
  | false =>
    simp only [Bool.xor_false, Bool.or_eq_true]
    exact fun hp => hp.imp_left h
  | true =>
    simp only [Bool.xor_true, Bool.not_not, Bool.not_eq_true', Bool.or_eq_false_iff]
    rintro ⟨hp, hothers⟩
    refine ⟨?_, hothers⟩
    cases hs : p s with
    | false => rfl
    | true =>
      rw [h hs] at hp
      cases hp

/-- Only the first conjunction depends on the first atom, and never on its opposite: where it holds
for the value that the NOTs turn into false, it holds for the other one. -/
theorem reading_first {w : Written α} (hnodup : w.atoms.Nodup) (t : α → Bool) (n : Bool) :
    ∃ (p : Bool → Bool) (qs : List Bool), (∀ b, w.reading (assign t w.first b) n = p b :: qs) ∧
      (p (w.firstNegated ^^ n) = true → p (!(w.firstNegated ^^ n)) = true) := by
  induction w generalizing n with
  | atom a =>
    refine ⟨fun b => b ^^ n, [], fun b => by rw [reading, first, assign_self], ?_⟩
    cases n <;> simp [firstNegated]
  | group w ih =>
    obtain ⟨p, qs, hp, hmono⟩ := ih hnodup false
    refine ⟨fun b => (p b || qs.any id) ^^ n, [], fun b => by rw [reading, first, hp, List.any_cons, id], ?_⟩
    rw [Bool.xor_false] at hmono
    exact follows_group hmono (qs.any id) n
  | not w ih =>
    obtain ⟨p, qs, hp, hmono⟩ := ih hnodup (!n)
    refine ⟨p, qs, hp, ?_⟩
    rwa [firstNegated, Bool.not_xor, ← Bool.xor_not]
  | both l r ihl =>
    obtain ⟨hl, hr, -⟩ := List.nodup_append.1 hnodup
    obtain ⟨p, qs, hp, hmono⟩ := ihl hl n
    obtain ⟨q, rs, hr⟩ := List.exists_cons_of_ne_nil (r.reading_ne_nil t false)
    have hread (b : Bool) : (both l r).reading (assign t l.first b) n = merge (p b :: qs) (q :: rs) := by
      rw [reading, hp, (r.reading_dependsOn false).neither (disjoint_atoms hnodup _ l.first_mem), hr]
    cases qs with
    | nil =>
      refine ⟨fun b => p b && q, rs, hread, ?_⟩
      simp only [Bool.and_eq_true]
      exact fun h => h.imp_left hmono
    | cons q' qs => exact ⟨p, merge (q' :: qs) (q :: rs), fun b => by rw [first, hread, merge_cons_cons], hmono⟩
  | either l r ihl =>
    obtain ⟨hl, hr, -⟩ := List.nodup_append.1 hnodup
    obtain ⟨p, qs, hp, hmono⟩ := ihl hl n
    refine ⟨p, qs ++ r.reading t false, fun b => ?_, hmono⟩
    rw [reading, first, hp, (r.reading_dependsOn false).neither (disjoint_atoms hnodup _ l.first_mem),
      List.cons_append]

theorem reading_last {w : Written α} (hnodup : w.atoms.Nodup) (t : α → Bool) (n : Bool) :
    ∃ (ps : List Bool) (q : Bool → Bool), ∀ b, w.reading (assign t w.last b) n = ps ++ [q b] := by
  induction w generalizing n with
  | atom a => exact ⟨[], fun b => b ^^ n, fun b => by rw [reading, last, assign_self, List.nil_append]⟩
  | group w ih =>
    exact ⟨[], fun b => (w.reading (assign t w.last b) false).any id ^^ n, fun b => by rw [reading, last]; rfl⟩
  | not w ih => exact ih hnodup (!n)
  | both l r _ ihr =>
    obtain ⟨hl, hr, -⟩ := List.nodup_append.1 hnodup
    obtain ⟨ps, q, hq⟩ := ihr hr false
    obtain ⟨ms, f, hms⟩ := exists_merge_last (l.reading_ne_nil t n) ps
    have hother : r.last ∉ l.atoms := disjoint_atoms_right hnodup _ r.last_mem
    refine ⟨ms, fun b => f (q b), fun b => ?_⟩
    rw [reading, last, (l.reading_dependsOn n).neither hother, hq, hms]
  | either l r _ ihr =>
    obtain ⟨hl, hr, -⟩ := List.nodup_append.1 hnodup
    obtain ⟨ps, q, hq⟩ := ihr hr false
    have hother : r.last ∉ l.atoms := disjoint_atoms_right hnodup _ r.last_mem
    refine ⟨l.reading t n ++ ps, q, fun b => ?_⟩
    rw [reading, last, (l.reading_dependsOn n).neither hother, hq, List.append_assoc]

omit [DecidableEq α] in
/-- Behind a visible OR there is another conjunction. -/
theorem one_lt_length_reading {w : Written α} (h : w.showsOr = true) (t : α → Bool) (n : Bool) :
    1 < (w.reading t n).length := by
  induction w generalizing n with
  | atom a => cases h
  | group w ih => cases h
  | not w ih => exact ih h _
  | both l r ihl ihr =>
    have hl := List.length_pos_iff.2 (l.reading_ne_nil t n)
    have hr := List.length_pos_iff.2 (r.reading_ne_nil t false)
    simp only [showsOr, Bool.or_eq_true] at h
    rw [reading, length_merge (l.reading_ne_nil t n) (r.reading_ne_nil t false)]
    rcases h with h | h
    · have := ihl h n
      omega
    · have := ihr h false
      omega
  | either l r =>
    have hl := List.length_pos_iff.2 (l.reading_ne_nil t n)
    have hr := List.length_pos_iff.2 (r.reading_ne_nil t false)
    rw [reading, List.length_append]
    omega

end Written

/-! ## Told apart -/

/-- With the other atoms fixed in some way, the meaning is one and the same function of two atoms, which is not
constant; the reading is never that function, however the others are fixed. -/
def Separated (x y : α) (F P : (α → Bool) → Bool) : Prop :=
  ∃ φ : Bool → Bool → Bool, (∀ v, ∃ a b, φ a b ≠ v) ∧
    (∃ t, ∀ a b, F (assign₂ t x y a b) = φ a b) ∧
    ∀ t, ∃ a b, P (assign₂ t x y a b) ≠ φ a b

namespace Separated

variable {x y : α} {F P : (α → Bool) → Bool}

theorem exists_ne (h : Separated x y F P) : ∃ t, F t ≠ P t := by
  obtain ⟨φ, -, ⟨t, ht⟩, hP⟩ := h
  obtain ⟨a, b, hab⟩ := hP t
  exact ⟨assign₂ t x y a b, fun heq => hab (heq ▸ ht a b)⟩

theorem xor (h : Separated x y F P) (n : Bool) : Separated x y (fun t => F t ^^ n) (fun t => P t ^^ n) := by
  obtain ⟨φ, hφ, ⟨t, ht⟩, hP⟩ := h
  refine ⟨fun a b => φ a b ^^ n, fun v => ?_, ⟨t, fun a b => congrArg (· ^^ n) (ht a b)⟩, fun t => ?_⟩
  · obtain ⟨a, b, hab⟩ := hφ (v ^^ n)
    refine ⟨a, b, fun h => hab ?_⟩
    rw [← h, Bool.xor_assoc, Bool.xor_self, Bool.xor_false]
  · obtain ⟨a, b, hab⟩ := hP t
    exact ⟨a, b, fun h => hab (Bool.xor_left_inj.1 h)⟩

end Separated

/-- Two of these atoms tell the meaning from the reading. -/
def SeparatedIn (A : List α) (F P : (α → Bool) → Bool) : Prop :=
  ∃ x ∈ A, ∃ y ∈ A, Separated x y F P

namespace SeparatedIn

variable {A B : List α} {F P G Q : (α → Bool) → Bool}

theorem mono (h : SeparatedIn A F P) (hsubset : ∀ a ∈ A, a ∈ B) : SeparatedIn B F P := by
  obtain ⟨x, hx, y, hy, hsep⟩ := h
  exact ⟨x, hsubset x hx, y, hsubset y hy, hsep⟩

theorem xor (h : SeparatedIn A F P) (n : Bool) : SeparatedIn A (fun t => F t ^^ n) fun t => P t ^^ n := by
  obtain ⟨x, hx, y, hy, hsep⟩ := h
  exact ⟨x, hx, y, hy, hsep.xor n⟩

section

variable (hF : DependsOn A F) (hG : DependsOn B G) (hQ : DependsOn B Q) (hdisjoint : ∀ a ∈ A, a ∉ B)

include hF hG hQ hdisjoint

/-- Where the other side holds, AND is this side; where it does not, the reading is constant. -/
theorem and (h : SeparatedIn A F P) (htrue : ∃ t, G t = true) :
    SeparatedIn A (fun t => F t && G t) fun t => P t && Q t := by
  obtain ⟨x, hx, y, hy, φ, hφ, ⟨tF, htF⟩, hP⟩ := h
  obtain ⟨tG, htG⟩ := htrue
  have hfixed {H : (α → Bool) → Bool} (hH : DependsOn B H) (t : α → Bool) (a b : Bool) :
      H (assign₂ t x y a b) = H t := by
    rw [hH.right (hdisjoint y hy), hH.neither (hdisjoint x hx)]
  obtain ⟨t, hA, hB⟩ := exists_agreeing hdisjoint tF tG
  refine ⟨x, hx, y, hy, φ, hφ, ⟨t, fun a b => ?_⟩, fun t => ?_⟩
  · show (F _ && G _) = _
    rw [hF.congr₂ hA, htF, hfixed hG, hG _ _ hB, htG, Bool.and_true]
  · show ∃ a b, (P _ && Q _) ≠ _
    simp only [hfixed hQ]
    cases Q t with
    | true => simpa only [Bool.and_true] using hP t
    | false =>
      obtain ⟨a, b, hab⟩ := hφ false
      exact ⟨a, b, by simpa only [Bool.and_false] using hab.symm⟩

theorem or (h : SeparatedIn A F P) (hfalse : ∃ t, G t = false) :
    SeparatedIn A (fun t => F t || G t) fun t => P t || Q t := by
  have htrue : ∃ t, (G t ^^ true) = true := hfalse.imp fun t ht => by rw [ht]; rfl
  have hnot := (h.xor true).and (hF.comp (· ^^ true)) (hG.comp (· ^^ true)) (hQ.comp (· ^^ true)) hdisjoint htrue
  simpa only [Bool.xor_true, Bool.not_and, Bool.not_not] using hnot.xor true

end

end SeparatedIn

theorem exists_xor_ne (s v : Bool) : ∃ b, (b ^^ s) ≠ v := by
  refine ⟨!(v ^^ s), ?_⟩
  cases v <;> cases s <;> decide

/-- An atom whose opposite is all that counts, while the reading never goes against the atom. -/
theorem separated_of_opposite {F P : (α → Bool) → Bool} {y : α} {s : Bool} (hF : Realizes F y s)
    (hP : ∀ t, ∃ (p : Bool → Bool) (A B C : Bool), (p s = true → p (!s) = true) ∧
      ∀ b, P (assign t y b) = (A || B && p b || C)) :
    Separated y y (fun t => F t ^^ true) P := by
  have hself (t : α → Bool) (a b : Bool) : assign₂ t y y a b = assign t y b := by
    funext x
    by_cases hx : x = y
    · rw [assign₂, hx, assign_self, assign_self]
    · rw [assign₂, assign_other b hx, assign_other a hx, assign_other b hx]
  obtain ⟨t, ht⟩ := hF.xor true
  refine ⟨fun _ b => b ^^ (s ^^ true), fun v => ⟨true, exists_xor_ne _ v⟩, ⟨t, fun a b => ?_⟩, fun t => ?_⟩
  · rw [hself]
    exact ht b
  · obtain ⟨p, A, B, C, hp, hread⟩ := hP t
    simp only [hself, hread]
    -- the reading would hold where the atom does not and fail where it does
    refine ⟨true, Classical.byContradiction fun hall => ?_⟩
    have hsame : ∀ b, (A || B && p b || C) = (b ^^ (s ^^ true)) := fun b =>
      Classical.byContradiction fun h => hall ⟨b, h⟩
    have hlow := hsame s
    have hhigh := hsame (!s)
    rw [show (s ^^ (s ^^ true)) = true by cases s <;> rfl] at hlow
    rw [show (!s ^^ (s ^^ true)) = false by cases s <;> rfl] at hhigh
    simp only [Bool.or_eq_false_iff, Bool.and_eq_false_iff] at hhigh
    obtain ⟨⟨rfl, hB⟩, rfl⟩ := hhigh
    simp only [Bool.false_or, Bool.or_false, Bool.and_eq_true] at hlow
    rcases hB with hB | hB
    · rw [hlow.1] at hB
      cases hB
    · rw [hp hlow.2] at hB
      cases hB

/-- Of two atoms, either alone is enough for the reading if it is so for one; both are meant. -/
theorem or_ne_and (P Q : Bool → Bool) (s s' : Bool) : ∃ a b, (P a || Q b) ≠ ((a ^^ s) && (b ^^ s')) := by
  cases hP : P (!s) with
  | true =>
    refine ⟨!s, s', ?_⟩
    rw [hP, Bool.xor_self, Bool.and_false, Bool.true_or]
    decide
  | false =>
    cases hQ : Q (!s') with
    | true =>
      refine ⟨s, !s', ?_⟩
      rw [hQ, Bool.xor_self, Bool.or_true, Bool.false_and]
      decide
    | false =>
      refine ⟨!s, !s', ?_⟩
      rw [hP, hQ]
      cases s <;> cases s' <;> decide

namespace Written

omit [DecidableEq α] in
theorem exists_any_merge {ps : List Bool} (hp : ps ≠ []) :
    ∃ A B : Bool, ∀ q qs, (merge ps (q :: qs)).any id = (A || B && q || qs.any id) := by
  induction ps with
  | nil => exact absurd rfl hp
  | cons p ps ih =>
    cases ps with
    | nil => exact ⟨false, p, fun q qs => by simp⟩
    | cons p' ps =>
      obtain ⟨A, B, h⟩ := ih (List.cons_ne_nil p' ps)
      exact ⟨p || A, B, fun q qs => by rw [merge_cons_cons, List.any_cons, h]; simp [Bool.or_assoc]⟩

/-- The meaning of a written condition and its reading behind NOTs are told apart by two of its atoms. -/
def Broken (w : Written α) (negated : Bool) : Prop :=
  SeparatedIn w.atoms (fun t => w.value t ^^ negated) fun t => (w.reading t negated).any id

/-- A NOT in front of AND or OR does not reach the first atom behind it. -/
theorem broken_not_both {l r : Written α} (hnodup : (l.atoms ++ r.atoms).Nodup) : (both l r).Broken true := by
  obtain ⟨hl, hr, -⟩ := List.nodup_append.1 hnodup
  have hother := disjoint_atoms_right hnodup
  have hmem : r.first ∈ (both l r).atoms := List.mem_append_right _ r.first_mem
  have hvalue := (realizes_first hr).and r.value_dependsOn l.value_dependsOn hother r.first_mem (exists_value hl true)
  refine ⟨r.first, hmem, r.first, hmem, ?_⟩
  simp only [value, Bool.and_comm (l.value _)]
  refine separated_of_opposite hvalue fun t => ?_
  obtain ⟨p, qs, hp, hmono⟩ := reading_first hr t false
  obtain ⟨A, B, hany⟩ := exists_any_merge (l.reading_ne_nil t true)
  rw [Bool.xor_false] at hmono
  refine ⟨p, A, B, qs.any id, hmono, fun b => ?_⟩
  rw [reading, (l.reading_dependsOn true).neither (hother _ r.first_mem), hp, hany]

theorem broken_not_either {l r : Written α} (hnodup : (l.atoms ++ r.atoms).Nodup) : (either l r).Broken true := by
  obtain ⟨hl, hr, -⟩ := List.nodup_append.1 hnodup
  have hother := disjoint_atoms_right hnodup
  have hmem : r.first ∈ (either l r).atoms := List.mem_append_right _ r.first_mem
  have hvalue := (realizes_first hr).or r.value_dependsOn l.value_dependsOn hother r.first_mem (exists_value hl false)
  refine ⟨r.first, hmem, r.first, hmem, ?_⟩
  simp only [value, Bool.or_comm (l.value _)]
  refine separated_of_opposite hvalue fun t => ?_
  obtain ⟨p, qs, hp, hmono⟩ := reading_first hr t false
  rw [Bool.xor_false] at hmono
  refine ⟨p, (l.reading t true).any id, true, qs.any id, hmono, fun b => ?_⟩
  rw [reading, (l.reading_dependsOn true).neither (hother _ r.first_mem), hp, List.any_append, List.any_cons]
  simp [Bool.or_assoc]

/-- A visible OR beside an AND stands between the first atom on the left and the last one on the right. -/
theorem any_both_split {l r : Written α} (hnodup : (l.atoms ++ r.atoms).Nodup)
    (hor : l.showsOr = true ∨ r.showsOr = true) (t : α → Bool) :
    ∃ P Q : Bool → Bool, ∀ a b,
      ((both l r).reading (assign₂ t l.first r.last a b) false).any id = (P a || Q b) := by
  obtain ⟨hl, hr, -⟩ := List.nodup_append.1 hnodup
  have hx : l.first ∉ r.atoms := disjoint_atoms hnodup _ l.first_mem
  have hy : r.last ∉ l.atoms := disjoint_atoms_right hnodup _ r.last_mem
  obtain ⟨p, ps, hp, -⟩ := reading_first hl t false
  obtain ⟨qs, q, hq⟩ := reading_last hr t false
  have hread (a b : Bool) :
      (both l r).reading (assign₂ t l.first r.last a b) false = merge (p a :: ps) (qs ++ [q b]) := by
    rw [reading, (l.reading_dependsOn false).right hy, (r.reading_dependsOn false).left hx, hp, hq]
  simp only [hread]
  cases ps with
  | cons p' ps =>
    refine ⟨p, fun b => (merge (p' :: ps) (qs ++ [q b])).any id, fun a b => ?_⟩
    rw [merge_cons_cons, List.any_cons, id]
  | nil =>
    cases qs with
    | cons q' qs =>
      refine ⟨fun a => p a && q', fun b => (qs ++ [q b]).any id, fun a b => ?_⟩
      rw [List.cons_append, merge_single, List.any_cons, id]
    | nil =>
      -- neither side would show an OR
      rcases hor with hor | hor
      · have hlength := one_lt_length_reading hor (assign t l.first true) false
        rw [hp] at hlength
        exact absurd hlength (Nat.lt_irrefl 1)
      · have hlength := one_lt_length_reading hor (assign t r.last true) false
        rw [hq] at hlength
        exact absurd hlength (Nat.lt_irrefl 1)

theorem broken_or_in_both {l r : Written α} (hnodup : (l.atoms ++ r.atoms).Nodup)
    (hor : l.showsOr = true ∨ r.showsOr = true) : (both l r).Broken false := by
  obtain ⟨hl, hr, -⟩ := List.nodup_append.1 hnodup
  have hx : l.first ∉ r.atoms := disjoint_atoms hnodup _ l.first_mem
  have hy : r.last ∉ l.atoms := disjoint_atoms_right hnodup _ r.last_mem
  obtain ⟨s, tl, htl⟩ := realizes_of_mem hl l.first_mem
  obtain ⟨s', tr, htr⟩ := realizes_of_mem hr r.last_mem
  obtain ⟨t, hA, hB⟩ := exists_agreeing (disjoint_atoms hnodup) tl tr
  refine ⟨l.first, List.mem_append_left _ l.first_mem, r.last, List.mem_append_right _ r.last_mem,
    fun a b => (a ^^ s) && (b ^^ s'), fun v => ?_, ⟨t, fun a b => ?_⟩, fun t => ?_⟩
  · cases v with
    | false => exact ⟨!s, !s', by cases s <;> cases s' <;> decide⟩
    | true => exact ⟨s, s', by simp⟩
  · have hleft : l.value (assign₂ t l.first r.last a b) = (a ^^ s) := by
      rw [l.value_dependsOn.right hy, l.value_dependsOn _ _ (assign_congr hA _ a), htl]
    have hright : r.value (assign₂ t l.first r.last a b) = (b ^^ s') := by
      rw [r.value_dependsOn.left hx, r.value_dependsOn _ _ (assign_congr hB _ b), htr]
    show (value _ _ ^^ false) = _
    rw [value, hleft, hright, Bool.xor_false]
  · obtain ⟨P, Q, hany⟩ := any_both_split hnodup hor t
    obtain ⟨a, b, hne⟩ := or_ne_and P Q s s'
    exact ⟨a, b, fun h => hne ((hany a b).symm.trans h)⟩

omit [DecidableEq α] in
theorem any_dependsOn (w : Written α) : DependsOn w.atoms fun t => (w.reading t false).any id :=
  (w.reading_dependsOn false).comp (·.any id)

/-- **With a missing pair of parentheses** the reading is not what is meant. -/
theorem broken_of_not_keeps {w : Written α} {negated : Bool} (hnodup : w.atoms.Nodup)
    (h : w.keeps negated = false) : w.Broken negated := by
  induction w generalizing negated with
  | atom a => cases h
  | group w ih =>
    have hsep := (ih hnodup h).xor negated
    simpa [Broken, atoms, value, reading] using hsep
  | not w ih =>
    have hsep := ih hnodup h
    simpa [Broken, atoms, value, reading] using hsep
  | both l r ihl ihr =>
    obtain ⟨hl, hr, -⟩ := List.nodup_append.1 hnodup
    cases negated with
    | true => exact broken_not_both hnodup
    | false =>
      by_cases hor : l.showsOr = true ∨ r.showsOr = true
      · exact broken_or_in_both hnodup hor
      · simp only [not_or, Bool.not_eq_true] at hor
        simp only [Broken, value, any_both hor.1 hor.2, Bool.xor_false]
        cases hkeeps : l.keeps false with
        | false =>
          have hsep := ihl hl hkeeps
          simp only [Broken, Bool.xor_false] at hsep
          exact (hsep.and l.value_dependsOn r.value_dependsOn r.any_dependsOn (disjoint_atoms hnodup)
            (exists_value hr true)).mono fun _ => List.mem_append_left _
        | true =>
          have hsep := ihr hr (by simpa [keeps, hor.1, hor.2, hkeeps] using h)
          simp only [Broken, Bool.xor_false] at hsep
          simp only [Bool.and_comm (l.value _), Bool.and_comm ((l.reading _ _).any id)]
          exact (hsep.and r.value_dependsOn l.value_dependsOn l.any_dependsOn
            (disjoint_atoms_right hnodup) (exists_value hl true)).mono
            fun _ => List.mem_append_right _
  | either l r ihl ihr =>
    obtain ⟨hl, hr, -⟩ := List.nodup_append.1 hnodup
    cases negated with
    | true => exact broken_not_either hnodup
    | false =>
      simp only [Broken, value, any_either, Bool.xor_false]
      cases hkeeps : l.keeps false with
      | false =>
        have hsep := ihl hl hkeeps
        simp only [Broken, Bool.xor_false] at hsep
        exact (hsep.or l.value_dependsOn r.value_dependsOn r.any_dependsOn (disjoint_atoms hnodup)
          (exists_value hr false)).mono fun _ => List.mem_append_left _
      | true =>
        have hsep := ihr hr (by simpa [keeps, hkeeps] using h)
        simp only [Broken, Bool.xor_false] at hsep
        simp only [Bool.or_comm (l.value _), Bool.or_comm ((l.reading _ _).any id)]
        exact (hsep.or r.value_dependsOn l.value_dependsOn l.any_dependsOn
          (disjoint_atoms_right hnodup) (exists_value hl false)).mono
          fun _ => List.mem_append_right _

end Written

end

/-! ## Conditions -/

/-- Values joined by a word, if there are any. -/
def Junction.meaning : Junction → List Bool → Option Bool
  | _, [] => none
  | and, vs => some (vs.all id)
  | or, vs => some (vs.any id)

namespace Condition

mutual

/-- The value of a condition, if it tests anything. What tests nothing drops out of lists. -/
def meaning (truth : α → Bool) : Condition α → Option Bool
  | .atom a => some (truth a)
  | .join word items => word.meaning (meanings truth items)
  | .not c => (c.meaning truth).map Bool.not
  | .paren c => c.meaning truth

def meanings (truth : α → Bool) : List (Condition α) → List Bool
  | [] => []
  | c :: cs =>
    match c.meaning truth with
    | none => meanings truth cs
    | some v => v :: meanings truth cs

end

/-- What is written of a condition has all the parentheses that it needs. -/
def keepsGrouping (expr : α → Expr) (c : Condition α) : Bool :=
  match c.written expr with
  | none => true
  | some w => w.keeps false

end Condition

namespace Written

variable (truth : α → Bool)

theorem value_groupIf (grouped : Bool) (w : Written α) : (w.groupIf grouped).value truth = w.value truth := by
  cases grouped <;> rfl

theorem meaning_joinAll (word : Junction) (ws : List (Written α)) :
    (joinAll word ws).map (·.value truth) = word.meaning (ws.map (·.value truth)) := by
  induction ws with
  | nil => cases word <;> rfl
  | cons w ws ih =>
    rw [joinAll]
    cases hrest : joinAll word ws with
    | none =>
      rw [joinAll_eq_none.1 hrest]
      cases word <;> simp [Junction.meaning]
    | some rest =>
      rw [hrest] at ih
      have hne : ws ≠ [] := fun h => by
        rw [h] at hrest
        cases hrest
      obtain ⟨w', ws, rfl⟩ := List.exists_cons_of_ne_nil hne
      cases word with
      | and =>
        have hvalue : rest.value truth = ((w' :: ws).map (·.value truth)).all id := Option.some.inj ih
        simp only [Option.map_some, join, value, hvalue, List.map_cons, Junction.meaning, List.all_cons, id]
      | or =>
        have hvalue : rest.value truth = ((w' :: ws).map (·.value truth)).any id := Option.some.inj ih
        simp only [Option.map_some, join, value, hvalue, List.map_cons, Junction.meaning, List.any_cons, id]

end Written

namespace Condition

/-- What is written means what the condition means. -/
theorem meaning_eq (expr : α → Expr) (truth : α → Bool) (c : Condition α) :
    c.meaning truth = (c.written expr).map (·.value truth) := by
  induction c using induct with
  | atom a => rfl
  | join word items ih =>
    have hitems : meanings truth items = (writtenItems expr word items).map (·.value truth) := by
      induction items with
      | nil => rfl
      | cons c cs ihcs =>
        have hc := ih c List.mem_cons_self
        have hcs := ihcs fun c' hc' => ih c' (List.mem_cons_of_mem _ hc')
        rw [meanings, writtenItems, hc]
        cases c.written expr with
        | none => exact hcs
        | some w => simp [Written.value_groupIf, hcs]
    rw [meaning, written, hitems, Written.meaning_joinAll]
  | not c ih =>
    rw [meaning, written, ih]
    cases c.written expr with
    | none => rfl
    | some w => simp [Written.value, Written.value_groupIf]
  | paren c ih =>
    rw [meaning, written, ih]
    cases c.written expr <;> rfl

end Condition

/-- **Which conditions keep their meaning.** The text of a condition with an atom is that of its tokens, which can
be parsed. If no parentheses are missing, every parse has the value of the condition; if some are, and no atom
occurs twice, no parse has it for all truth assignments. -/
theorem meaning_kept_iff {expr : α → Expr} (hatomic : ∀ a, (expr a).isConnective = false) {c : Condition α}
    (hatoms : c.atoms ≠ []) {d : Dialect} {style : ParamStyle} {r : Rendered}
    (hr : (c.toExpr expr).render d style = .ok r) :
    r.sql = ConditionToken.spell expr d style (c.tokens expr) ∧
    (∃ f, Parses .disjunction (c.tokens expr) f) ∧
    ∀ f, Parses .disjunction (c.tokens expr) f →
      (c.keepsGrouping expr = true → ∀ truth, c.meaning truth = some (f.value truth)) ∧
      (c.atoms.Nodup → (∀ truth, c.meaning truth = some (f.value truth)) → c.keepsGrouping expr = true) := by
  have hempty (a : α) := isEmptyCondition_of_atomic (hatomic a)
  obtain ⟨hfault, hsql⟩ := render_ok hr
  cases hw : c.written expr with
  | none => exact absurd (Condition.written_eq_none.1 hw) hatoms
  | some w =>
    have htokens : c.tokens expr = w.tokens := by rw [Condition.tokens, hw]
    have hmeaning (truth : α → Bool) : c.meaning truth = some (w.value truth) := by
      rw [c.meaning_eq expr truth, hw, Option.map_some]
    refine ⟨by rw [hsql, Condition.textIn_toExpr hempty style hatoms hfault], ?_, fun f hf => ⟨?_, ?_⟩⟩
    · rw [htokens]
      exact w.readable_tokens
    · intro hkeeps truth
      rw [htokens] at hf
      rw [Condition.keepsGrouping, hw] at hkeeps
      rw [hmeaning, Written.value_of_parses hf, Written.value_of_keeps hkeeps, Bool.xor_false]
    · intro hnodup hall
      rw [htokens] at hf
      rw [Condition.keepsGrouping, hw]
      cases hkeeps : w.keeps false with
      | true => exact hkeeps
      | false =>
        classical
        rw [← Condition.atoms_written hw] at hnodup
        obtain ⟨x, -, y, -, hsep⟩ := Written.broken_of_not_keeps hnodup hkeeps
        obtain ⟨truth, hne⟩ := hsep.exists_ne
        rw [Bool.xor_false, ← Written.value_of_parses hf] at hne
        have hsame := hall truth
        rw [hmeaning] at hsame
        exact absurd (Option.some.inj hsame) hne

/-- `a=1` -/
def isOne (a : String) : Expr := .binary ⟨.name a, .eq, .constant (.int 1)⟩

/-- A NOT over two conditions. -/
def notBoth : Condition String := .not (.join .and [.atom "a", .atom "b"])

theorem meaning_kept_notBoth :
    (∀ a, (isOne a).isConnective = false) ∧ notBoth.atoms ≠ [] ∧ notBoth.atoms.Nodup ∧
      ∃ r, (notBoth.toExpr isOne).render .mysql .positional = .ok r ∧
        ∀ f, Parses .disjunction (notBoth.tokens isOne) f →
          ∀ truth, notBoth.meaning truth = some (f.value truth) := by
  obtain ⟨r, hr⟩ : ∃ r, (notBoth.toExpr isOne).render .mysql .positional = .ok r := ⟨_, rfl⟩
  have hkept := (meaning_kept_iff (fun _ => rfl) (by decide) hr).2.2
  exact ⟨fun _ => rfl, by decide, by decide, r, hr, fun f hf => (hkept f hf).1 rfl⟩

/-- The same condition in a list of its own. -/
def notBothNested : Condition String := .not (.join .and [.join .and [.atom "a", .atom "b"]])

/-- Two conditions in a list of one item lose their parentheses under NOT. -/
theorem meaning_lost_notBothNested :
    ∃ r f truth, (notBothNested.toExpr isOne).render .mysql .positional = .ok r ∧
      r.sql = "NOT `a`=1 AND `b`=1" ∧ Parses .disjunction (notBothNested.tokens isOne) f ∧
      notBothNested.meaning truth ≠ some (f.value truth) :=
  ⟨_, .and (.not (.atom "a")) (.atom "b"), fun _ => false, rfl, by decide,
    .conjunction (.and (.not (.atom "a")) (.operand (.atom "b"))), by decide⟩

end Sql
