/-
The trees directly below a tree, and induction on trees by way of them.
-/
import Sql.Expr.Basic

namespace Sql.Expr

/-- The trees directly below. -/
def children : Expr → List Expr
  | identifier _ _ | constant _ | bound _ _ | raw _ => []
  | binary b => [b.left, b.right]
  | unary _ e | .alias e _ | paren e => [e]
  | list l => l.items ++ l.lead.toList ++ l.trail.toList
  | call _ args => args
  | between operand low high => [operand, low, high]
  | select s =>
    s.columns ++ s.source.toList ++ s.condition.toList ++ s.groupBy.toList ++ s.having.toList ++ s.orderBy
  | insert i => i.table :: i.columns ++ i.values
  | update u => u.table :: u.assignments ++ u.condition.toList
  | delete d => d.table :: d.condition.toList

theorem sizeOf_lt_of_mem_toList {c : Expr} {e? : Option Expr} (h : c ∈ e?.toList) : sizeOf c < sizeOf e? := by
  obtain rfl := Option.mem_toList.1 h
  simp only [Option.some.sizeOf_spec]
  omega

theorem sizeOf_lt_of_mem_children {e c : Expr} (h : c ∈ e.children) : sizeOf c < sizeOf e := by
  have hlist {es : List Expr} (hc : c ∈ es) : sizeOf c < sizeOf es := List.sizeOf_lt_of_mem hc
  have hoption {e? : Option Expr} (hc : c ∈ e?.toList) : sizeOf c < sizeOf e? := sizeOf_lt_of_mem_toList hc
  cases e with
  | identifier | constant | bound | raw => cases h
  | binary b =>
    obtain ⟨left, op, right⟩ := b
    simp only [children, List.mem_cons, List.not_mem_nil, or_false] at h
    simp only [binary.sizeOf_spec, Binary.mk.sizeOf_spec]
    rcases h with rfl | rfl <;> omega
  | unary op operand =>
    obtain rfl := List.mem_singleton.1 h
    simp only [unary.sizeOf_spec]
    omega
  | list l =>
    obtain ⟨separator, items, lead, trail⟩ := l
    simp only [children, List.mem_append, or_assoc] at h
    simp only [list.sizeOf_spec, Listing.mk.sizeOf_spec]
    have hlt := h.imp hlist (Or.imp hoption hoption)
    omega
  | call function args =>
    have hlt : sizeOf c < sizeOf args := hlist h
    simp only [call.sizeOf_spec]
    omega
  | between operand low high =>
    simp only [children, List.mem_cons, List.not_mem_nil, or_false] at h
    simp only [between.sizeOf_spec]
    rcases h with rfl | rfl | rfl <;> omega
  | «alias» e name =>
    obtain rfl := List.mem_singleton.1 h
    simp only [alias.sizeOf_spec]
    omega
  | paren inner =>
    obtain rfl := List.mem_singleton.1 h
    simp only [paren.sizeOf_spec]
    omega
  | select s =>
    obtain ⟨columns, source, condition, groupBy, having, orderBy, limit, offset, withCount⟩ := s
    simp only [children, List.mem_append, or_assoc] at h
    simp only [select.sizeOf_spec, Select.mk.sizeOf_spec]
    have hlt := h.imp hlist (Or.imp hoption (Or.imp hoption (Or.imp hoption (Or.imp hoption hlist))))
    omega
  | insert i =>
    obtain ⟨table, columns, values⟩ := i
    simp only [children, List.cons_append, List.mem_cons, List.mem_append] at h
    simp only [insert.sizeOf_spec, Insert.mk.sizeOf_spec]
    rcases h with rfl | h
    · omega
    · have hlt := h.imp hlist hlist
      omega
  | update u =>
    obtain ⟨table, assignments, condition⟩ := u
    simp only [children, List.cons_append, List.mem_cons, List.mem_append] at h
    simp only [update.sizeOf_spec, Update.mk.sizeOf_spec]
    rcases h with rfl | h
    · omega
    · have hlt := h.imp hlist hoption
      omega
  | delete d =>
    obtain ⟨table, condition⟩ := d
    simp only [children, List.mem_cons] at h
    simp only [delete.sizeOf_spec, Delete.mk.sizeOf_spec]
    rcases h with rfl | h
    · omega
    · have hlt := hoption h
      omega

/-- Induction on trees: a tree has a property if it passes from the trees directly below to a tree. -/
@[elab_as_elim]
theorem induct {motive : Expr → Prop} (node : ∀ e, (∀ c ∈ e.children, motive c) → motive e) (e : Expr) : motive e :=
  node e fun c _hc => induct node c
termination_by sizeOf e
decreasing_by exact sizeOf_lt_of_mem_children _hc

end Sql.Expr
