/-
Rewritings of statements. Each one changes statements of the kinds it is meant for and leaves all other trees
as they are.
-/
import Sql.Expr.Build

namespace Sql

/-- A text that holds one of the characters `%`, `?` and `.` reads as a pattern. -/
def Value.isPattern (v : Value) : Bool :=
  v.asText?.any fun s => s.toList.any fun c => c == '%' || c == '?' || c == '.'

/-- An inlined or bound pattern. -/
def Expr.isPattern : Expr → Bool
  | .bound _ v | .constant v => v.isPattern
  | _ => false

/-- Equality with a pattern becomes LIKE. -/
def Binary.fuzzy (b : Binary Expr) : Binary Expr :=
  if b.op = .eq ∧ b.right.isPattern then { b with op := .like } else b

mutual

/-- Equality with a pattern becomes LIKE, also in lists and in parentheses, but nowhere else. -/
def Expr.fuzzy : Expr → Expr
  | .list ⟨separator, items, lead, trail⟩ => .list ⟨separator, fuzzyItems items, lead, trail⟩
  | .paren inner => .paren inner.fuzzy
  | .binary b => .binary b.fuzzy
  | e => e

def fuzzyItems : List Expr → List Expr
  | [] => []
  | e :: es => e.fuzzy :: fuzzyItems es

end

theorem fuzzyItems_eq (es : List Expr) : fuzzyItems es = es.map Expr.fuzzy := by
  induction es with
  | nil => rfl
  | cons e es ih => rw [fuzzyItems, ih, List.map_cons]

/-- A list joined by another separator. -/
def Expr.joinedBy (separator : Separator) : Expr → Expr
  | .list l => .list { l with separator }
  | e => e

abbrev Rewrite := Expr → Expr

namespace Rewrite

def onSelect (f : Select Expr → Select Expr) : Rewrite
  | .select s => .select (f s)
  | e => e

def onUpdate (f : Update Expr → Update Expr) : Rewrite
  | .update u => .update (f u)
  | e => e

def onDelete (f : Delete Expr → Delete Expr) : Rewrite
  | .delete d => .delete (f d)
  | e => e

/-- Another WHERE clause. -/
def condition (e : Expr) : Rewrite := Expr.mapCondition fun _ => some e

def limit (n : UInt64) : Rewrite := onSelect fun s => { s with limit := some n }

def offset (n : UInt64) : Rewrite := onSelect fun s => { s with offset := some n }

def limits (limit offset : UInt64) : Rewrite :=
  onSelect fun s => { s with limit := some limit, offset := some offset }

def withCount : Rewrite := onSelect fun s => { s with withCount := true }

def orderBy (items : List Expr) : Rewrite := onSelect fun s => { s with orderBy := items }

def sortBy (direction : Direction) (items : List Expr) : Rewrite :=
  onSelect fun s => s.sortBy direction items

/-- Other assignments. -/
def assignments (pairs : List (Binary Expr)) : Rewrite := onUpdate (·.withPairs pairs)

/-- Patterns in the WHERE clause are compared with LIKE. -/
def autoFuzzy : Rewrite := Expr.mapCondition (·.map Expr.fuzzy)

/-- The items of a WHERE clause that is a list are joined by a separator. -/
def joinConditions (separator : Separator) : Rewrite := Expr.mapCondition (·.map (Expr.joinedBy separator))

/-- Several rewritings, the first one first. -/
def inOrder (rewrites : List Rewrite) : Rewrite :=
  fun e => rewrites.foldl (fun e rewrite => rewrite e) e

end Rewrite

end Sql
