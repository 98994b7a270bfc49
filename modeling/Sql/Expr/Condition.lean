/-
Conditions that test nothing, sets without members, and the operands that need parentheses.
-/
import Sql.Expr.Basic

namespace Sql

mutual

/-- A list of conditions joined by AND or OR, all of which test nothing; also in parentheses. -/
def Expr.isEmptyCondition : Expr → Bool
  | .list ⟨separator, items, none, none⟩ => separator.isLogical && allEmptyConditions items
  | .paren inner => inner.isEmptyCondition
  | _ => false

def allEmptyConditions : List Expr → Bool
  | [] => true
  | e :: es => e.isEmptyCondition && allEmptyConditions es

end

theorem allEmptyConditions_eq (es : List Expr) : allEmptyConditions es = es.all Expr.isEmptyCondition := by
  induction es with
  | nil => rfl
  | cons e es ih => simp [allEmptyConditions, ih]

/-- The two shapes of conditions that test nothing. -/
theorem Expr.isEmptyCondition_cases {e : Expr} (h : e.isEmptyCondition = true) :
    (∃ separator items, e = .list ⟨separator, items, none, none⟩ ∧ separator.isLogical = true ∧
      allEmptyConditions items = true) ∨
      ∃ inner, e = .paren inner ∧ inner.isEmptyCondition = true := by
  revert h
  fun_cases Expr.isEmptyCondition e with
  | case1 separator items =>
    intro h
    rw [Bool.and_eq_true] at h
    exact .inl ⟨separator, items, rfl, h⟩
  | case2 inner => exact fun h => .inr ⟨inner, rfl, h⟩
  | case3 => exact fun h => nomatch h

/-- A clause that is absent or whose condition tests nothing. -/
def saysNothing : Option Expr → Bool
  | none => true
  | some e => e.isEmptyCondition

/-- Whether an item is left out of a list: conditions that test nothing drop out of AND and OR. -/
def Separator.drops (separator : Separator) (item : Expr) : Bool :=
  separator.isLogical && item.isEmptyCondition

/-- The items of a list that are written out. -/
def Listing.shownItems (l : Listing Expr) : List Expr :=
  l.items.filter fun item => !l.separator.drops item

/-- Two or more conditions. -/
def Listing.isCompound (l : Listing Expr) : Bool :=
  l.separator.isLogical && 1 < l.shownItems.length

/-- A comma list without items, also in parentheses. -/
def Expr.isEmptySet : Expr → Bool
  | .paren inner => inner.isEmptySet
  | .list ⟨.comma, [], none, none⟩ => true
  | _ => false

theorem Expr.isEmptySet_cases {e : Expr} (h : e.isEmptySet = true) :
    e = .list ⟨.comma, [], none, none⟩ ∨ ∃ inner, e = .paren inner ∧ inner.isEmptySet = true := by
  revert h
  fun_cases Expr.isEmptySet e with
  | case1 inner => exact fun h => .inr ⟨inner, rfl, h⟩
  | case2 => exact fun _ => .inl rfl
  | case3 => exact fun h => nomatch h

/-- Whether a unary operator needs parentheses around its operand. -/
def Expr.needsGroup : Expr → Bool
  | .list l => l.isCompound
  | e => e.isStatement

/-- Whether an item of an AND or OR list needs parentheses: several conditions joined by the other word. -/
def Expr.needsGroupIn (separator : Separator) : Expr → Bool
  | .list l => separator.isLogical && l.separator != separator && l.isCompound
  | _ => false

end Sql
