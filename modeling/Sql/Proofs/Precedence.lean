/-
How the tokens of a condition are read: NOT binds tighter than AND, AND tighter than OR, and parentheses group.

`Parses` is the grammar. `run` reads tokens from left to right and keeps, for every open parenthesis, what
is known of the alternatives so far; it agrees with every parse (`Parses.value_eq`), so all parses of the same
tokens have one value. Run on what is written of a condition, it gives the values of the conjunctions that
stand between the visible ORs (`Written.reading`).
-/
import Sql.Proofs.ConditionTree

namespace Sql

variable {α : Type}

/-- A condition as it is read. -/
inductive Formula (α : Type) where
  | atom (a : α)
  | not (f : Formula α)
  | and (f g : Formula α)
  | or (f g : Formula α)
deriving DecidableEq, Repr

def Formula.value (truth : α → Bool) : Formula α → Bool
  | atom a => truth a
  | not f => !f.value truth
  | and f g => f.value truth && g.value truth
  | or f g => f.value truth || g.value truth

/-- The loosest connective that stands outside of parentheses. -/
inductive Binding where
  | operand
  | conjunction
  | disjunction

/-- **The grammar** of conditions. -/
inductive Parses : Binding → List (ConditionToken α) → Formula α → Prop where
  | atom (a : α) : Parses .operand [.atom a] (.atom a)
  | group {ts f} : Parses .disjunction ts f → Parses .operand (.opening :: ts ++ [.closing]) f
  | not {ts f} : Parses .operand ts f → Parses .operand (.not :: ts) (.not f)
  | operand {ts f} : Parses .operand ts f → Parses .conjunction ts f
  | and {ts us f g} : Parses .operand ts f → Parses .conjunction us g →
      Parses .conjunction (ts ++ .junction .and :: us) (.and f g)
  | conjunction {ts f} : Parses .conjunction ts f → Parses .disjunction ts f
  | or {ts us f g} : Parses .conjunction ts f → Parses .disjunction us g →
      Parses .disjunction (ts ++ .junction .or :: us) (.or f g)

/-! ## A reader -/

/-- What is known inside of one pair of parentheses. -/
structure Frame where
  /-- Whether one of the alternatives before the last OR holds. -/
  alternatives : Bool := false
  /-- Whether all operands since then hold. -/
  conjunction : Bool := true
  /-- Whether the NOTs in front of the next operand are odd in number. -/
  negated : Bool := false

namespace Frame

def value (f : Frame) : Bool := f.alternatives || f.conjunction

def operand (f : Frame) (v : Bool) : Frame := ⟨f.alternatives, f.conjunction && (v ^^ f.negated), false⟩

def not (f : Frame) : Frame := { f with negated := !f.negated }

def or (f : Frame) : Frame := ⟨f.value, true, false⟩

end Frame

/-- One token, with the innermost parentheses first. -/
def readToken (truth : α → Bool) : List Frame → ConditionToken α → List Frame
  | f :: stack, .atom a => f.operand (truth a) :: stack
  | f :: stack, .not => f.not :: stack
  | f :: stack, .junction .or => f.or :: stack
  | stack, .opening => {} :: stack
  | f :: g :: stack, .closing => g.operand f.value :: stack
  | stack, _ => stack

def run (truth : α → Bool) (stack : List Frame) (tokens : List (ConditionToken α)) : List Frame :=
  tokens.foldl (readToken truth) stack

section

variable (truth : α → Bool)

@[simp] theorem run_nil (stack : List Frame) : run truth stack [] = stack := rfl

@[simp] theorem run_cons (stack : List Frame) (t : ConditionToken α) (ts : List (ConditionToken α)) :
    run truth stack (t :: ts) = run truth (readToken truth stack t) ts := rfl

theorem run_append (stack : List Frame) (ts us : List (ConditionToken α)) :
    run truth stack (ts ++ us) = run truth (run truth stack ts) us :=
  List.foldl_append

theorem readToken_and (stack : List Frame) : readToken truth stack (.junction .and) = stack := by
  cases stack <;> rfl

theorem readToken_opening (stack : List Frame) : readToken truth stack .opening = {} :: stack := by
  cases stack <;> rfl

end

/-- What a parse says of a run: an operand is taken into the frame, with the NOTs in front of it; a
conjunction too, where no NOT stands in front; a disjunction adds alternatives to those before it. -/
def Parses.Agrees (truth : α → Bool) (ts : List (ConditionToken α)) (f : Formula α) : Binding → Prop
  | .operand => ∀ frame stack, run truth (frame :: stack) ts = frame.operand (f.value truth) :: stack
  | .conjunction => ∀ frame stack, frame.negated = false →
      run truth (frame :: stack) ts = frame.operand (f.value truth) :: stack
  | .disjunction => ∀ known stack, ∃ frame : Frame,
      run truth (⟨known, true, false⟩ :: stack) ts = frame :: stack ∧ frame.value = (known || f.value truth)

theorem Parses.agrees (truth : α → Bool) {binding : Binding} {ts : List (ConditionToken α)} {f : Formula α}
    (h : Parses binding ts f) : Parses.Agrees truth ts f binding := by
  induction h with
  | atom a => exact fun frame stack => rfl
  | @group ts f _ ih =>
    intro frame stack
    obtain ⟨inner, hrun, hvalue⟩ := ih false (frame :: stack)
    rw [List.cons_append, run_cons, readToken_opening, run_append, hrun, run_cons, run_nil]
    rw [readToken, hvalue, Bool.false_or]
  | @not ts f _ ih =>
    intro frame stack
    rw [run_cons, readToken, ih]
    simp [Frame.operand, Frame.not, Formula.value]
  | operand _ ih => exact fun frame stack _ => ih frame stack
  | @and ts us f g _ _ ihf ihg =>
    intro frame stack hframe
    rw [run_append, ihf, run_cons, readToken_and, ihg _ _ rfl]
    simp [Frame.operand, hframe, Formula.value, Bool.and_assoc]
  | @conjunction ts f _ ih =>
    intro known stack
    refine ⟨_, ih _ stack rfl, ?_⟩
    simp [Frame.operand, Frame.value]
  | @or ts us f g _ _ ihf ihg =>
    intro known stack
    obtain ⟨frame, hrun, hvalue⟩ := ihg (known || f.value truth) stack
    refine ⟨frame, ?_, ?_⟩
    · rw [run_append, ihf _ _ rfl, run_cons, ← hrun]
      simp [readToken, Frame.or, Frame.operand, Frame.value]
    · rw [hvalue, Formula.value, Bool.or_assoc]

/-- A parse has the value that the run ends with. -/
theorem Parses.value_eq {truth : α → Bool} {ts : List (ConditionToken α)} {f : Formula α} {frame : Frame}
    (h : Parses .disjunction ts f) (hrun : run truth [{}] ts = [frame]) : f.value truth = frame.value := by
  obtain ⟨frame', hrun', hvalue⟩ := h.agrees truth false []
  rw [hrun] at hrun'
  cases hrun'
  rw [hvalue, Bool.false_or]

/-! ## What is written can be read -/

/-- The tokens are a condition. -/
def Readable (binding : Binding) (ts : List (ConditionToken α)) : Prop := ∃ f, Parses binding ts f

/-- A NOT belongs to the first operand. -/
theorem Readable.not {binding : Binding} {ts : List (ConditionToken α)} (h : Readable binding ts) :
    Readable binding (.not :: ts) := by
  obtain ⟨f, h⟩ := h
  induction h with
  | atom a => exact ⟨_, .not (.atom a)⟩
  | group h => exact ⟨_, .not (.group h)⟩
  | not h => exact ⟨_, .not (.not h)⟩
  | operand h ih =>
    obtain ⟨f, hf⟩ := ih
    exact ⟨f, .operand hf⟩
  | and hf hg ih =>
    obtain ⟨f, hf⟩ := ih
    exact ⟨_, .and hf hg⟩
  | conjunction h ih =>
    obtain ⟨f, hf⟩ := ih
    exact ⟨f, .conjunction hf⟩
  | or hf hg ih =>
    obtain ⟨f, hf⟩ := ih
    exact ⟨_, .or hf hg⟩

theorem Readable.or {ts us : List (ConditionToken α)} (ht : Readable .disjunction ts)
    (hu : Readable .disjunction us) : Readable .disjunction (ts ++ .junction .or :: us) := by
  obtain ⟨g, hg⟩ := hu
  obtain ⟨f, hf⟩ := ht
  generalize hb : Binding.disjunction = b at hf
  induction hf with
  | conjunction hf => exact ⟨_, .or hf hg⟩
  | or hf _ _ ih =>
    obtain ⟨f', hf'⟩ := ih rfl
    rw [List.append_assoc, List.cons_append]
    exact ⟨_, .or hf hf'⟩
  | atom | group | not | operand | and => cases hb

/-- A conjunction in front of AND goes on to the next OR. -/
theorem Readable.and_conjunction {ts us : List (ConditionToken α)} {f : Formula α} (hf : Parses .conjunction ts f)
    (hu : Readable .conjunction us) : Readable .conjunction (ts ++ .junction .and :: us) := by
  obtain ⟨g, hg⟩ := hu
  generalize hb : Binding.conjunction = b at hf
  induction hf with
  | operand hf => exact ⟨_, .and hf hg⟩
  | and hf _ _ ih =>
    obtain ⟨f', hf'⟩ := ih rfl
    rw [List.append_assoc, List.cons_append]
    exact ⟨_, .and hf hf'⟩
  | atom | group | not | conjunction | or => cases hb

theorem Readable.and_disjunction {ts us : List (ConditionToken α)} {f : Formula α} (hf : Parses .conjunction ts f)
    (hu : Readable .disjunction us) : Readable .disjunction (ts ++ .junction .and :: us) := by
  obtain ⟨g, hg⟩ := hu
  cases hg with
  | conjunction hg =>
    obtain ⟨f', hf'⟩ := Readable.and_conjunction hf ⟨_, hg⟩
    exact ⟨f', .conjunction hf'⟩
  | or hg hrest =>
    obtain ⟨f', hf'⟩ := Readable.and_conjunction hf ⟨_, hg⟩
    have := Parses.or hf' hrest
    rw [List.append_assoc, List.cons_append] at this
    exact ⟨_, this⟩

/-- AND joins the last conjunction on its left and the first one on its right. -/
theorem Readable.and {ts us : List (ConditionToken α)} (ht : Readable .disjunction ts)
    (hu : Readable .disjunction us) : Readable .disjunction (ts ++ .junction .and :: us) := by
  obtain ⟨f, hf⟩ := ht
  generalize hb : Binding.disjunction = b at hf
  induction hf with
  | conjunction hf => exact Readable.and_disjunction hf hu
  | or hf _ _ ih =>
    obtain ⟨f', hf'⟩ := ih rfl
    rw [List.append_assoc, List.cons_append]
    exact ⟨_, .or hf hf'⟩
  | atom | group | not | operand | and => cases hb

namespace Written

theorem readable_tokens (w : Written α) : Readable .disjunction w.tokens := by
  induction w with
  | atom a => exact ⟨_, .conjunction (.operand (.atom a))⟩
  | group w ih =>
    obtain ⟨f, hf⟩ := ih
    exact ⟨f, .conjunction (.operand (.group hf))⟩
  | not w ih => exact ih.not
  | both l r ihl ihr => exact ihl.and ihr
  | either l r ihl ihr => exact ihl.or ihr

end Written

/-! ## Readings -/

/-- Two rows of conjunctions with AND between them: the last of one and the first of the other become one. -/
def merge : List Bool → List Bool → List Bool
  | [p], q :: qs => (p && q) :: qs
  | p :: ps, qs => p :: merge ps qs
  | [], qs => qs

@[simp] theorem merge_single (p q : Bool) (qs : List Bool) : merge [p] (q :: qs) = (p && q) :: qs := rfl

@[simp] theorem merge_cons_cons (p p' : Bool) (ps qs : List Bool) :
    merge (p :: p' :: ps) qs = p :: merge (p' :: ps) qs := by
  simp [merge]

theorem merge_ne_nil {ps : List Bool} (hp : ps ≠ []) (qs : List Bool) : merge ps qs ≠ [] := by
  fun_cases merge ps qs with
  | case1 p q qs => simp
  | case2 p ps qs => simp
  | case3 qs => exact absurd rfl hp

theorem length_merge {ps qs : List Bool} (hp : ps ≠ []) (hq : qs ≠ []) :
    (merge ps qs).length = ps.length + qs.length - 1 := by
  obtain ⟨q, qs, rfl⟩ := List.exists_cons_of_ne_nil hq
  induction ps with
  | nil => exact absurd rfl hp
  | cons p ps ih =>
    cases ps with
    | nil =>
      simp only [merge_single, List.length_cons, List.length_nil]
      omega
    | cons p' ps =>
      rw [merge_cons_cons, List.length_cons, ih (List.cons_ne_nil p' ps)]
      simp only [List.length_cons]
      omega

/-- The conjunctions between the visible ORs of what is written, each with its value. Behind an odd number
of NOTs the first operand is negated. -/
def Written.reading : Written α → (α → Bool) → Bool → List Bool
  | .atom a, truth, negated => [truth a ^^ negated]
  | .group w, truth, negated => [(w.reading truth false).any id ^^ negated]
  | .not w, truth, negated => w.reading truth (!negated)
  | .both l r, truth, negated => merge (l.reading truth negated) (r.reading truth false)
  | .either l r, truth, negated => l.reading truth negated ++ r.reading truth false

theorem Written.reading_ne_nil (w : Written α) (truth : α → Bool) (negated : Bool) :
    w.reading truth negated ≠ [] := by
  induction w generalizing negated with
  | atom a => simp [reading]
  | group w ih => simp [reading]
  | not w ih => exact ih _
  | both l r ihl ihr => exact merge_ne_nil (ihl negated) _
  | either l r ihl ihr => simp [reading, ihl]

namespace Frame

/-- The conjunctions of a reading, with an OR between each two. -/
def takeAll : Frame → List Bool → Frame
  | f, [] => f
  | f, [p] => ⟨f.alternatives, f.conjunction && p, false⟩
  | f, p :: ps => takeAll ⟨f.alternatives || f.conjunction && p, true, false⟩ ps

theorem takeAll_cons_cons (f : Frame) (p p' : Bool) (ps : List Bool) :
    f.takeAll (p :: p' :: ps) = takeAll ⟨f.alternatives || f.conjunction && p, true, false⟩ (p' :: ps) := rfl

theorem negated_takeAll (f : Frame) {ps : List Bool} (h : ps ≠ []) : (f.takeAll ps).negated = false := by
  fun_induction takeAll f ps with
  | case1 f => exact absurd rfl h
  | case2 f p => rfl
  | case3 f p ps hps ih => exact ih fun h => hps (by rw [h])

theorem value_takeAll (f : Frame) (p : Bool) (ps : List Bool) :
    (f.takeAll (p :: ps)).value = (f.alternatives || f.conjunction && p || ps.any id) := by
  induction ps generalizing f p with
  | nil => simp [takeAll, value]
  | cons p' ps ih => simp [takeAll_cons_cons, ih, Bool.or_assoc]

theorem takeAll_not (f : Frame) {ps : List Bool} (h : ps ≠ []) : f.not.takeAll ps = f.takeAll ps := by
  cases ps with
  | nil => exact absurd rfl h
  | cons p ps => cases ps <;> rfl

theorem takeAll_append (f : Frame) {ps qs : List Bool} (hp : ps ≠ []) (hq : qs ≠ []) :
    f.takeAll (ps ++ qs) = (f.takeAll ps).or.takeAll qs := by
  obtain ⟨q, qs, rfl⟩ := List.exists_cons_of_ne_nil hq
  induction ps generalizing f with
  | nil => exact absurd rfl hp
  | cons p ps ih =>
    cases ps with
    | nil => rfl
    | cons p' ps =>
      rw [List.cons_append, List.cons_append, takeAll_cons_cons, ← List.cons_append, ih _ (List.cons_ne_nil p' ps),
        takeAll_cons_cons]

theorem takeAll_merge (f : Frame) {ps qs : List Bool} (hp : ps ≠ []) (hq : qs ≠ []) :
    f.takeAll (merge ps qs) = (f.takeAll ps).takeAll qs := by
  obtain ⟨q, qs, rfl⟩ := List.exists_cons_of_ne_nil hq
  induction ps generalizing f with
  | nil => exact absurd rfl hp
  | cons p ps ih =>
    cases ps with
    | nil =>
      cases qs with
      | nil => simp [takeAll, Bool.and_assoc]
      | cons q' qs => simp [takeAll, takeAll_cons_cons, Bool.and_assoc]
    | cons p' ps =>
      obtain ⟨m, ms, hms⟩ := List.exists_cons_of_ne_nil (merge_ne_nil (List.cons_ne_nil p' ps) (q :: qs))
      rw [merge_cons_cons, hms, takeAll_cons_cons, ← hms, ih _ (List.cons_ne_nil p' ps), takeAll_cons_cons]

end Frame

/-- **What a run makes of a written condition.** -/
theorem Written.run_tokens (truth : α → Bool) (w : Written α) (frame : Frame) (stack : List Frame) :
    run truth (frame :: stack) w.tokens = frame.takeAll (w.reading truth frame.negated) :: stack := by
  induction w generalizing frame stack with
  | atom a => rfl
  | group w ih =>
    obtain ⟨p, ps, hps⟩ := List.exists_cons_of_ne_nil (w.reading_ne_nil truth false)
    rw [tokens, List.cons_append, run_cons, readToken_opening, run_append, ih, run_cons, run_nil, readToken]
    rw [hps, Frame.value_takeAll, reading, hps]
    simp [Frame.takeAll, Frame.operand]
  | not w ih =>
    have hw := w.reading_ne_nil truth frame.not.negated
    rw [tokens, run_cons, readToken, ih, Frame.takeAll_not _ hw]
    rfl
  | both l r ihl ihr =>
    have hl := l.reading_ne_nil truth frame.negated
    rw [tokens, run_append, ihl, run_cons, readToken_and, ihr, frame.negated_takeAll hl, reading,
      frame.takeAll_merge hl (r.reading_ne_nil truth false)]
  | either l r ihl ihr =>
    have hl := l.reading_ne_nil truth frame.negated
    rw [tokens, run_append, ihl, run_cons, readToken, ihr, reading,
      frame.takeAll_append hl (r.reading_ne_nil truth false)]
    rfl

/-- A parse of what is written has the value of the reading. -/
theorem Written.value_of_parses {truth : α → Bool} {w : Written α} {f : Formula α}
    (h : Parses .disjunction w.tokens f) : f.value truth = (w.reading truth false).any id := by
  obtain ⟨p, ps, hps⟩ := List.exists_cons_of_ne_nil (w.reading_ne_nil truth false)
  have hrun := w.run_tokens truth {} []
  rw [h.value_eq hrun, hps, Frame.value_takeAll]
  simp

end Sql
