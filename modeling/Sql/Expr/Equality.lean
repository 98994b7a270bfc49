/-
Equality of trees: the same shape with equal values, where values are compared as `Value.equals` does. A tree
that holds a NaN therefore differs from itself.
-/
import Sql.Expr.Basic

namespace Sql

mutual

def Expr.equals : Expr → Expr → Bool
  | .identifier qs n, .identifier qs' n' => qs == qs' && n == n'
  | .constant v, .constant v' => v.equals v'
  | .bound n v, .bound n' v' => n == n' && v.equals v'
  | .raw v, .raw v' => v.equals v'
  | .binary ⟨l, op, r⟩, .binary ⟨l', op', r'⟩ => op == op' && l.equals l' && r.equals r'
  | .unary op e, .unary op' e' => op == op' && e.equals e'
  | .list ⟨sep, items, lead, trail⟩, .list ⟨sep', items', lead', trail'⟩ =>
    sep == sep' && equalItems items items' && equalOptions lead lead' && equalOptions trail trail'
  | .call f args, .call f' args' => f == f' && equalItems args args'
  | .between e low high, .between e' low' high' => e.equals e' && low.equals low' && high.equals high'
  | .alias e n, .alias e' n' => e.equals e' && n == n'
  | .paren e, .paren e' => e.equals e'
  | .select ⟨cs, src, cond, grp, hav, ord, lim, off, cnt⟩,
      .select ⟨cs', src', cond', grp', hav', ord', lim', off', cnt'⟩ =>
    equalItems cs cs' && equalOptions src src' && equalOptions cond cond' && equalOptions grp grp' &&
      equalOptions hav hav' && equalItems ord ord' && lim == lim' && off == off' && cnt == cnt'
  | .insert ⟨t, cs, vs⟩, .insert ⟨t', cs', vs'⟩ => t.equals t' && equalItems cs cs' && equalItems vs vs'
  | .update ⟨t, as, cond⟩, .update ⟨t', as', cond'⟩ =>
    t.equals t' && equalItems as as' && equalOptions cond cond'
  | .delete ⟨t, cond⟩, .delete ⟨t', cond'⟩ => t.equals t' && equalOptions cond cond'
  | _, _ => false

def equalItems : List Expr → List Expr → Bool
  | [], [] => true
  | e :: es, e' :: es' => e.equals e' && equalItems es es'
  | _, _ => false

def equalOptions : Option Expr → Option Expr → Bool
  | none, none => true
  | some e, some e' => e.equals e'
  | _, _ => false

end

end Sql
