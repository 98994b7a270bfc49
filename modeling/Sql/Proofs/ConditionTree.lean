/-
Conditions as trees over atoms, and the same conditions as they stand in a statement.

A `Condition` is what callers build with AND, OR, NOT and parentheses. A `Written` condition is what the
statement shows of it: conditions that test nothing are gone, a list of one item is its item, and
every pair of parentheses is a node. `script_toExpr` says that the script of a condition is the script of the
written one, and `fault_toExpr` when it has no fault.
-/
import Sql.Expr.Build
import Sql.Proofs.TwoStyles

namespace Sql

/-- The words that join conditions. -/
inductive Junction where
  | and
  | or
deriving DecidableEq, Repr

namespace Junction

def separator : Junction → Separator
  | and => .and
  | or => .or

def text : Junction → String
  | and => "AND"
  | or => "OR"

theorem separator_isLogical (word : Junction) : word.separator.isLogical = true := by
  cases word <;> rfl

end Junction

/-- A condition over atoms. -/
inductive Condition (α : Type) where
  | atom (a : α)
  | join (word : Junction) (items : List (Condition α))
  | not (c : Condition α)
  | paren (c : Condition α)

/-- A condition as it is written. -/
inductive Written (α : Type) where
  | atom (a : α)
  | group (w : Written α)
  | not (w : Written α)
  | both (l r : Written α)
  | either (l r : Written α)
deriving DecidableEq, Repr

variable {α : Type}

namespace Condition

/-- Induction on conditions: a list of conditions has the property if all its items have it. -/
@[elab_as_elim]
theorem induct {motive : Condition α → Prop} (atom : ∀ a, motive (.atom a))
    (join : ∀ word items, (∀ c ∈ items, motive c) → motive (.join word items))
    (not : ∀ c, motive c → motive (.not c)) (paren : ∀ c, motive c → motive (.paren c)) : ∀ c, motive c
  | .atom a => atom a
  | .join word items => join word items fun c _hc => induct atom join not paren c
  | .not c => not c (induct atom join not paren c)
  | .paren c => paren c (induct atom join not paren c)
termination_by c => sizeOf c
decreasing_by
  · have := List.sizeOf_lt_of_mem _hc
    simp only [Condition.join.sizeOf_spec]
    omega
  · simp only [Condition.not.sizeOf_spec]
    omega
  · simp only [Condition.paren.sizeOf_spec]
    omega

/-! ## Trees -/

mutual

/-- The tree of a condition whose atoms have these trees. -/
def toExpr (expr : α → Expr) : Condition α → Expr
  | .atom a => expr a
  | .join word items => .listOf word.separator (toExprs expr items)
  | .not c => .unary .not (c.toExpr expr)
  | .paren c => .paren (c.toExpr expr)

def toExprs (expr : α → Expr) : List (Condition α) → List Expr
  | [] => []
  | c :: cs => c.toExpr expr :: toExprs expr cs

end

mutual

/-- The atoms of a condition from left to right. -/
def atoms : Condition α → List α
  | .atom a => [a]
  | .join _ items => atomsOf items
  | .not c | .paren c => c.atoms

def atomsOf : List (Condition α) → List α
  | [] => []
  | c :: cs => c.atoms ++ atomsOf cs

end

mutual

/-- Whether a NOT occurs. -/
def hasNot : Condition α → Bool
  | .atom _ => false
  | .join _ items => someHasNot items
  | .not _ => true
  | .paren c => c.hasNot

def someHasNot : List (Condition α) → Bool
  | [] => false
  | c :: cs => c.hasNot || someHasNot cs

end

mutual

/-- Whether a NOT stands over a condition without atoms. -/
def hasBareNot : Condition α → Bool
  | .atom _ => false
  | .join _ items => someHasBareNot items
  | .not c => c.atoms.isEmpty || c.hasBareNot
  | .paren c => c.hasBareNot

def someHasBareNot : List (Condition α) → Bool
  | [] => false
  | c :: cs => c.hasBareNot || someHasBareNot cs

end

@[simp] theorem toExprs_eq (expr : α → Expr) (cs : List (Condition α)) :
    toExprs expr cs = cs.map (·.toExpr expr) := by
  induction cs with
  | nil => rfl
  | cons c cs ih => simp [toExprs, ih]

@[simp] theorem atomsOf_eq (cs : List (Condition α)) : atomsOf cs = cs.flatMap atoms := by
  induction cs with
  | nil => rfl
  | cons c cs ih => simp [atomsOf, ih]

@[simp] theorem someHasNot_eq (cs : List (Condition α)) : someHasNot cs = cs.any hasNot := by
  induction cs with
  | nil => rfl
  | cons c cs ih => simp [someHasNot, ih]

@[simp] theorem someHasBareNot_eq (cs : List (Condition α)) : someHasBareNot cs = cs.any hasBareNot := by
  induction cs with
  | nil => rfl
  | cons c cs ih => simp [someHasBareNot, ih]

/-- A NOT in a condition without atoms is bare. -/
theorem hasNot_eq_false {c : Condition α} (hatoms : c.atoms = []) (hbare : c.hasBareNot = false) :
    c.hasNot = false := by
  induction c using induct with
  | atom a => rfl
  | join word items ih =>
    simp only [atoms, atomsOf_eq, List.flatMap_eq_nil_iff] at hatoms
    simp only [hasBareNot, someHasBareNot_eq, List.any_eq_false, Bool.not_eq_true] at hbare
    simp only [hasNot, someHasNot_eq, List.any_eq_false, Bool.not_eq_true]
    exact fun c hc => ih c hc (hatoms c hc) (hbare c hc)
  | not c ih =>
    have hnone : c.atoms = [] := hatoms
    simp [hasBareNot, hnone] at hbare
  | paren c ih => exact ih hatoms hbare

theorem hasBareNot_eq_false {c : Condition α} (hnot : c.hasNot = false) : c.hasBareNot = false := by
  induction c using induct with
  | atom a => rfl
  | join word items ih =>
    simp only [hasNot, someHasNot_eq, List.any_eq_false, Bool.not_eq_true] at hnot
    simp only [hasBareNot, someHasBareNot_eq, List.any_eq_false, Bool.not_eq_true]
    exact fun c hc => ih c hc (hnot c hc)
  | not c ih => cases hnot
  | paren c ih => exact ih hnot

/-! ## Conditions that test nothing -/

end Condition

/-- What joins conditions: a list of them, a NOT, or parentheses. -/
def Expr.isConnective : Expr → Bool
  | .list ⟨separator, _, none, none⟩ => separator.isLogical
  | .unary .not _ | .paren _ => true
  | _ => false

/-- An atom tests something. -/
theorem isEmptyCondition_of_atomic {e : Expr} (h : e.isConnective = false) : e.isEmptyCondition = false := by
  cases hempty : e.isEmptyCondition with
  | false => rfl
  | true =>
    rcases Expr.isEmptyCondition_cases hempty with ⟨separator, items, rfl, hlogical, -⟩ | ⟨inner, rfl, -⟩
    · rw [Expr.isConnective, hlogical] at h
      cases h
    · cases h

namespace Condition

section

variable {expr : α → Expr} (hexpr : ∀ a, (expr a).isEmptyCondition = false)

include hexpr

/-- What the renderer takes for an empty condition: neither an atom nor a NOT occurs. -/
theorem isEmptyCondition_toExpr (c : Condition α) :
    (c.toExpr expr).isEmptyCondition = true ↔ c.atoms = [] ∧ c.hasNot = false := by
  induction c using induct with
  | atom a => simp [toExpr, hexpr, atoms]
  | join word items ih =>
    simp only [toExpr, Expr.listOf, Expr.isEmptyCondition, word.separator_isLogical, Bool.true_and,
      allEmptyConditions_eq, toExprs_eq, List.all_map, List.all_eq_true, Function.comp_apply, atoms,
      atomsOf_eq, List.flatMap_eq_nil_iff, hasNot, someHasNot_eq, List.any_eq_false, Bool.not_eq_true]
    constructor
    · exact fun h => ⟨fun c hc => ((ih c hc).1 (h c hc)).1, fun c hc => ((ih c hc).1 (h c hc)).2⟩
    · exact fun h c hc => (ih c hc).2 ⟨h.1 c hc, h.2 c hc⟩
  | not c ih => simp [toExpr, Expr.isEmptyCondition, hasNot]
  | paren c ih => simpa only [toExpr, Expr.isEmptyCondition, atoms, hasNot] using ih

/-- Without bare NOTs, a condition tests nothing exactly if it has no atoms. -/
theorem isEmptyCondition_iff {c : Condition α} (hbare : c.hasBareNot = false) :
    (c.toExpr expr).isEmptyCondition = true ↔ c.atoms = [] := by
  rw [isEmptyCondition_toExpr hexpr c]
  exact ⟨And.left, fun h => ⟨h, hasNot_eq_false h hbare⟩⟩

omit hexpr in
/-- Lists of conditions leave out the empty ones. -/
theorem drops_eq (word : Junction) (e : Expr) : word.separator.drops e = e.isEmptyCondition := by
  rw [Separator.drops, word.separator_isLogical, Bool.true_and]

end

end Condition

/-! ## What is written of a condition -/

namespace Written

/-- A written condition in parentheses, where they are needed. -/
def groupIf (grouped : Bool) (w : Written α) : Written α :=
  if grouped then w.group else w

def join : Junction → Written α → Written α → Written α
  | .and => both
  | .or => either

/-- Written conditions joined by a word; one alone needs no word. -/
def joinAll (word : Junction) : List (Written α) → Option (Written α)
  | [] => none
  | w :: ws =>
    match joinAll word ws with
    | none => some w
    | some rest => some (join word w rest)

def atoms : Written α → List α
  | atom a => [a]
  | group w | not w => w.atoms
  | both l r | either l r => l.atoms ++ r.atoms

/-- The script of a written condition whose atoms have these trees. -/
def script (expr : α → Expr) (d : Dialect) : Written α → Script
  | atom a => (expr a).script d
  | group w => (w.script expr d).paren
  | not w => d.word "NOT" ++ .text " " ++ w.script expr d
  | both l r => l.script expr d ++ d.spacedWord "AND" ++ r.script expr d
  | either l r => l.script expr d ++ d.spacedWord "OR" ++ r.script expr d

end Written

namespace Condition

mutual

/-- What is written of a condition: nothing if it has no atoms. -/
def written (expr : α → Expr) : Condition α → Option (Written α)
  | .atom a => some (.atom a)
  | .join word items => Written.joinAll word (writtenItems expr word items)
  | .not c => (c.written expr).map fun w => .not (w.groupIf (c.toExpr expr).needsGroup)
  | .paren c => (c.written expr).map .group

def writtenItems (expr : α → Expr) (word : Junction) : List (Condition α) → List (Written α)
  | [] => []
  | c :: cs =>
    match c.written expr with
    | none => writtenItems expr word cs
    | some w => w.groupIf ((c.toExpr expr).needsGroupIn word.separator) :: writtenItems expr word cs

end

end Condition

namespace Written

theorem joinAll_eq_none {word : Junction} {ws : List (Written α)} : joinAll word ws = none ↔ ws = [] := by
  cases ws with
  | nil => simp [joinAll]
  | cons w ws =>
    simp only [joinAll]
    split <;> simp

theorem atoms_groupIf (grouped : Bool) (w : Written α) : (w.groupIf grouped).atoms = w.atoms := by
  cases grouped <;> rfl

theorem atoms_join (word : Junction) (l r : Written α) : (join word l r).atoms = l.atoms ++ r.atoms := by
  cases word <;> rfl

theorem atoms_joinAll {word : Junction} {ws : List (Written α)} {w : Written α} (h : joinAll word ws = some w) :
    w.atoms = ws.flatMap atoms := by
  induction ws generalizing w with
  | nil => simp [joinAll] at h
  | cons first ws ih =>
    simp only [joinAll] at h
    split at h
    · next hnone =>
      cases h
      simp [joinAll_eq_none.1 hnone]
    · next rest hrest =>
      cases h
      rw [atoms_join, ih hrest, List.flatMap_cons]

section

variable (expr : α → Expr) (d : Dialect)

theorem script_groupIf (grouped : Bool) (w : Written α) :
    (w.groupIf grouped).script expr d = Script.parenIf grouped (w.script expr d) := by
  cases grouped <;> rfl

theorem script_join (word : Junction) (l r : Written α) :
    (join word l r).script expr d = l.script expr d ++ d.separator word.separator ++ r.script expr d := by
  cases word <;> rfl

theorem script_joinAll {word : Junction} {ws : List (Written α)} {w : Written α} (h : joinAll word ws = some w) :
    w.script expr d = Script.join (d.separator word.separator) (ws.map (·.script expr d)) := by
  induction ws generalizing w with
  | nil => simp [joinAll] at h
  | cons first ws ih =>
    simp only [joinAll] at h
    cases ws with
    | nil =>
      cases h
      rfl
    | cons second ws =>
      split at h
      · next hnone => simp [joinAll_eq_none] at hnone
      · next rest hrest =>
        cases h
        rw [script_join, ih hrest]
        rfl

end

end Written

namespace Condition

theorem written_eq_none {expr : α → Expr} {c : Condition α} : c.written expr = none ↔ c.atoms = [] := by
  induction c using induct with
  | atom a => simp [written, atoms]
  | join word items ih =>
    simp only [written, Written.joinAll_eq_none, atoms, atomsOf_eq, List.flatMap_eq_nil_iff]
    induction items with
    | nil => simp [writtenItems]
    | cons c cs ihcs =>
      have hc := ih c List.mem_cons_self
      simp only [writtenItems, List.forall_mem_cons]
      split
      · next hnone => simpa [hc.1 hnone] using ihcs fun c' hc' => ih c' (List.mem_cons_of_mem _ hc')
      · next w hsome =>
        have : c.atoms ≠ [] := fun h => by simp [hc.2 h] at hsome
        simp [this]
  | not c ih => simpa [written, atoms] using ih
  | paren c ih => simpa [written, atoms] using ih

theorem atoms_written {expr : α → Expr} {c : Condition α} {w : Written α} (h : c.written expr = some w) :
    w.atoms = c.atoms := by
  induction c using induct generalizing w with
  | atom a =>
    cases h
    rfl
  | join word items ih =>
    rw [Written.atoms_joinAll h, atoms, atomsOf_eq]
    clear h
    induction items with
    | nil => rfl
    | cons c cs ihcs =>
      have hcs := ihcs fun c' hc' => ih c' (List.mem_cons_of_mem _ hc')
      simp only [writtenItems, List.flatMap_cons]
      split
      · next hnone => rw [hcs, written_eq_none.1 hnone, List.nil_append]
      · next w hsome => rw [List.flatMap_cons, Written.atoms_groupIf, ih c List.mem_cons_self hsome, hcs]
  | not c ih =>
    obtain ⟨w, hw, rfl⟩ := Option.map_eq_some_iff.1 h
    rw [Written.atoms, Written.atoms_groupIf, ih hw, atoms]
  | paren c ih =>
    obtain ⟨w, hw, rfl⟩ := Option.map_eq_some_iff.1 h
    rw [Written.atoms, ih hw, atoms]

section

variable {expr : α → Expr} (hexpr : ∀ a, (expr a).isEmptyCondition = false)

include hexpr

/-- The items that a list shows are those that have something to write. -/
theorem itemScripts_toExprs (d : Dialect) (word : Junction) {cs : List (Condition α)}
    (hscript : ∀ c ∈ cs, ∀ w, c.written expr = some w → (c.toExpr expr).script d = w.script expr d)
    (hbare : ∀ c ∈ cs, c.hasBareNot = false) :
    itemScripts d word.separator (cs.map (·.toExpr expr)) =
      (writtenItems expr word cs).map (·.script expr d) := by
  induction cs with
  | nil => rfl
  | cons c cs ih =>
    have hrest := ih (fun c' hc' => hscript c' (List.mem_cons_of_mem _ hc'))
      fun c' hc' => hbare c' (List.mem_cons_of_mem _ hc')
    have hempty := isEmptyCondition_iff hexpr (hbare c List.mem_cons_self)
    rw [List.map_cons, itemScripts, writtenItems, drops_eq]
    cases hwritten : c.written expr with
    | none =>
      rw [if_pos (hempty.2 (written_eq_none.1 hwritten))]
      exact hrest
    | some w =>
      have hshown : ¬ (c.toExpr expr).isEmptyCondition = true := fun h => by
        rw [written_eq_none.2 (hempty.1 h)] at hwritten
        cases hwritten
      rw [if_neg hshown, hscript c List.mem_cons_self w hwritten, hrest, List.map_cons, Written.script_groupIf]

/-- **A condition and what is written of it** have one script. -/
theorem script_toExpr (d : Dialect) {c : Condition α} {w : Written α} (hbare : c.hasBareNot = false)
    (hw : c.written expr = some w) : (c.toExpr expr).script d = w.script expr d := by
  induction c using induct generalizing w with
  | atom a =>
    cases hw
    rfl
  | join word items ih =>
    have hbares : ∀ c ∈ items, c.hasBareNot = false := by
      simpa [hasBareNot] using hbare
    have hitems := itemScripts_toExprs hexpr d word (fun c hc w hw => ih c hc (hbares c hc) hw) hbares
    simp only [toExpr, Expr.listOf, Expr.script, toExprs_eq, hitems]
    rw [Written.script_joinAll expr d hw]
    simp
  | not c ih =>
    obtain ⟨w, hw', rfl⟩ := Option.map_eq_some_iff.1 hw
    simp only [hasBareNot, Bool.or_eq_false_iff, List.isEmpty_eq_false_iff] at hbare
    have hempty : (c.toExpr expr).isEmptyCondition ≠ true := fun h =>
      hbare.1 ((isEmptyCondition_iff hexpr hbare.2).1 h)
    simp only [toExpr, Expr.script, if_neg hempty, ih hbare.2 hw', Written.script, Written.script_groupIf,
      UnaryOp.text]
  | paren c ih =>
    obtain ⟨w, hw', rfl⟩ := Option.map_eq_some_iff.1 hw
    simp only [toExpr, Expr.script, Written.script, ih hbare hw']

end

end Condition

/-! ## Faults -/

theorem itemScripts_fault {d : Dialect} {separator : Separator} {es : List Expr} :
    (∀ s ∈ itemScripts d separator es, s.fault = none) ↔
      ∀ e ∈ es, separator.drops e = false → (e.script d).fault = none := by
  simp only [itemScripts_eq_map, List.forall_mem_map, List.mem_filter, Bool.not_eq_true', and_imp, Script.fault_parenIf]

namespace Condition

section

variable {expr : α → Expr} (hexpr : ∀ a, (expr a).isEmptyCondition = false)

include hexpr

/-- Items that are left out would not have a fault either. -/
theorem fault_items {d : Dialect} (word : Junction) {items : List (Condition α)}
    (h : ∀ c ∈ items, ((c.toExpr expr).script d).fault = none ↔
      c.hasBareNot = false ∧ ∀ a ∈ c.atoms, ((expr a).script d).fault = none) :
    (∀ s ∈ itemScripts d word.separator (items.map (·.toExpr expr)), s.fault = none) ↔
      ∀ c ∈ items, c.hasBareNot = false ∧ ∀ a ∈ c.atoms, ((expr a).script d).fault = none := by
  simp only [itemScripts_fault, drops_eq, List.forall_mem_map]
  constructor
  · intro hfault c hc
    cases hempty : (c.toExpr expr).isEmptyCondition with
    | false => exact (h c hc).1 (hfault c hc hempty)
    | true =>
      obtain ⟨hatoms, hnot⟩ := (isEmptyCondition_toExpr hexpr c).1 hempty
      exact ⟨hasBareNot_eq_false hnot, by simp [hatoms]⟩
  · exact fun hitems c hc _ => (h c hc).2 (hitems c hc)

/-- **When a condition can be written.** Its atoms can, and every NOT stands over an atom. -/
theorem fault_toExpr (d : Dialect) (c : Condition α) :
    ((c.toExpr expr).script d).fault = none ↔
      c.hasBareNot = false ∧ ∀ a ∈ c.atoms, ((expr a).script d).fault = none := by
  induction c using induct with
  | atom a => simp [toExpr, hasBareNot, atoms]
  | join word items ih =>
    have hsep : (d.separator word.separator).fault = none := by
      cases word <;> rfl
    simp only [toExpr, Expr.listOf, Expr.script, toExprs_eq, Option.isSome_none, Bool.false_eq_true, if_false,
      Script.nil_append, Script.append_nil]
    rw [Script.fault_join hsep, fault_items hexpr word ih]
    simp only [hasBareNot, someHasBareNot_eq, List.any_eq_false, Bool.not_eq_true, atoms, atomsOf_eq,
      List.mem_flatMap]
    constructor
    · intro h
      refine ⟨fun c hc => (h c hc).1, ?_⟩
      rintro a ⟨c, hc, ha⟩
      exact (h c hc).2 a ha
    · rintro ⟨hbare, hatoms⟩ c hc
      exact ⟨hbare c hc, fun a ha => hatoms a ⟨c, hc, ha⟩⟩
  | not c ih =>
    simp only [toExpr, Expr.script, hasBareNot, atoms, Bool.or_eq_false_iff, List.isEmpty_eq_false_iff]
    cases hempty : (c.toExpr expr).isEmptyCondition with
    | true =>
      have hatoms : c.atoms = [] := ((isEmptyCondition_toExpr hexpr c).1 hempty).1
      simp [Script.fail, hatoms]
    | false =>
      simp only [Bool.false_eq_true, if_false, Script.fault_append_eq_none, Script.fault_parenIf, ih]
      constructor
      · rintro ⟨-, hbare, hatoms⟩
        refine ⟨⟨fun hnone => ?_, hbare⟩, hatoms⟩
        rw [(isEmptyCondition_iff hexpr hbare).2 hnone] at hempty
        cases hempty
      · rintro ⟨⟨-, hbare⟩, hatoms⟩
        exact ⟨⟨rfl, rfl⟩, hbare, hatoms⟩
  | paren c ih => simpa only [toExpr, Expr.script, Script.fault_paren, hasBareNot, atoms] using ih

end

end Condition

/-! ## Tokens -/

/-- The tokens of a written condition. An atom is one token. -/
inductive ConditionToken (α : Type) where
  | atom (a : α)
  | junction (word : Junction)
  | not
  | opening
  | closing
deriving DecidableEq, Repr

namespace ConditionToken

def atom? : ConditionToken α → Option α
  | .atom a => some a
  | _ => none

/-- A token as SQL text. -/
def textIn (expr : α → Expr) (d : Dialect) (style : ParamStyle) : ConditionToken α → String
  | .atom a => ((expr a).script d).textIn d style
  | .junction word => d.spaced word.text
  | .not => d.keyword "NOT" ++ " "
  | .opening => "( "
  | .closing => " )"

/-- The text of tokens. -/
def spell (expr : α → Expr) (d : Dialect) (style : ParamStyle) (tokens : List (ConditionToken α)) : String :=
  String.join (tokens.map (·.textIn expr d style))

section

variable (expr : α → Expr) (d : Dialect) (style : ParamStyle)

@[simp] theorem spell_nil : spell expr d style [] = "" := rfl

@[simp] theorem spell_cons (token : ConditionToken α) (tokens : List (ConditionToken α)) :
    spell expr d style (token :: tokens) = token.textIn expr d style ++ spell expr d style tokens := by
  simp [spell]

@[simp] theorem spell_append (before after : List (ConditionToken α)) :
    spell expr d style (before ++ after) = spell expr d style before ++ spell expr d style after := by
  simp [spell]

end

end ConditionToken

namespace Written

/-- The tokens of a written condition from left to right. -/
def tokens : Written α → List (ConditionToken α)
  | atom a => [.atom a]
  | group w => .opening :: w.tokens ++ [.closing]
  | not w => .not :: w.tokens
  | both l r => l.tokens ++ .junction .and :: r.tokens
  | either l r => l.tokens ++ .junction .or :: r.tokens

theorem atoms_tokens (w : Written α) : w.tokens.filterMap (·.atom?) = w.atoms := by
  induction w with
  | atom a => rfl
  | group w ih =>
    rw [tokens, List.cons_append, List.filterMap_cons_none rfl, List.filterMap_append, ih,
      List.filterMap_cons_none rfl, List.filterMap_nil, List.append_nil, atoms]
  | not w ih => rw [tokens, List.filterMap_cons_none rfl, ih, atoms]
  | both l r ihl ihr | either l r ihl ihr =>
    rw [tokens, List.filterMap_append, List.filterMap_cons_none rfl, ihl, ihr, atoms]

section

variable {expr : α → Expr} {d : Dialect}

theorem fault_script {w : Written α} :
    (w.script expr d).fault = none ↔ ∀ a ∈ w.atoms, ((expr a).script d).fault = none := by
  induction w with
  | atom a => simp [script, atoms]
  | group w ih => simpa [script, atoms] using ih
  | not w ih =>
    simp only [script, Dialect.word, Script.fault_append_eq_none, Script.fault_text, true_and, atoms, ih]
  | both l r ihl ihr | either l r ihl ihr =>
    simp only [script, Dialect.spacedWord, Script.fault_append_eq_none, Script.fault_text, and_true, atoms,
      List.forall_mem_append, ihl, ihr]

/-- A written condition without faults is spelled token by token. -/
theorem textIn_script (style : ParamStyle) {w : Written α}
    (hatoms : ∀ a ∈ w.atoms, ((expr a).script d).fault = none) :
    (w.script expr d).textIn d style = ConditionToken.spell expr d style w.tokens := by
  induction w with
  | atom a => simp [script, tokens, ConditionToken.textIn]
  | group w ih =>
    have hfault : (Script.text "( " ++ w.script expr d).fault = none :=
      Script.fault_append_eq_none.2 ⟨rfl, fault_script.2 hatoms⟩
    rw [script, Script.paren, Script.textIn_append d style hfault, Script.textIn_append d style rfl,
      Script.textIn_text, Script.textIn_text, ih hatoms]
    simp [tokens, ConditionToken.textIn, String.append_assoc]
  | not w ih =>
    rw [script, Dialect.word, Script.textIn_append d style rfl, Script.textIn_append d style rfl,
      Script.textIn_text, Script.textIn_text, ih hatoms]
    simp [tokens, ConditionToken.textIn]
  | both l r ihl ihr | either l r ihl ihr =>
    obtain ⟨hl, hr⟩ := List.forall_mem_append.1 hatoms
    have hfault := fault_script.2 hl
    rw [script, Dialect.spacedWord,
      Script.textIn_append d style (Script.fault_append_eq_none.2 ⟨hfault, Script.fault_text _⟩),
      Script.textIn_append d style hfault, Script.textIn_text, ihl hl, ihr hr]
    simp [tokens, ConditionToken.textIn, Junction.text, String.append_assoc]

end

end Written

namespace Condition

/-- The tokens that a condition is written as. -/
def tokens (expr : α → Expr) (c : Condition α) : List (ConditionToken α) :=
  match c.written expr with
  | none => []
  | some w => w.tokens

/-- Every atom is written once, in the order of the tree. -/
theorem atoms_tokens (expr : α → Expr) (c : Condition α) : (c.tokens expr).filterMap (·.atom?) = c.atoms := by
  simp only [tokens]
  split
  · next hnone =>
    rw [written_eq_none.1 hnone]
    rfl
  · next w hw => rw [Written.atoms_tokens, atoms_written hw]

/-- The text of a condition with an atom is the text of its tokens. -/
theorem textIn_toExpr {expr : α → Expr} (hexpr : ∀ a, (expr a).isEmptyCondition = false) {d : Dialect}
    (style : ParamStyle) {c : Condition α} (hatoms : c.atoms ≠ [])
    (hfault : ((c.toExpr expr).script d).fault = none) :
    ((c.toExpr expr).script d).textIn d style = ConditionToken.spell expr d style (c.tokens expr) := by
  obtain ⟨hbare, hfaults⟩ := (fault_toExpr hexpr d c).1 hfault
  cases hw : c.written expr with
  | none => exact absurd (written_eq_none.1 hw) hatoms
  | some w =>
    rw [script_toExpr hexpr d hbare hw, tokens, hw]
    refine Written.textIn_script style fun a ha => hfaults a ?_
    rwa [atoms_written hw] at ha

end Condition

end Sql
