/-
Scalar values: what constants hold and what parameters are bound to.
-/
import Sql.Calendar.Timestamp
import Sql.Number.Exact
import Sql.Number.Reading

namespace Sql

open Calendar Number

inductive Value where
  | null
  | bool (b : Bool)
  | int (n : Int64)
  | uint (n : UInt64)
  | float (x : Double)
  | text (s : String)
  | bytes (bs : List UInt8)
  | timestamp (t : Timestamp)
  /-- Decimal text of an exact number. -/
  | numeric (s : String)
  /-- Text of a value of any other kind. -/
  | other (s : String)
deriving DecidableEq, Repr

namespace Value

instance : Inhabited Value := ⟨.null⟩

def isNull : Value → Bool
  | .null => true
  | _ => false

/-- The zero of its kind: false, a number equal to 0, or an empty text. Null and timestamps have none. -/
def isZero : Value → Bool
  | .bool b => !b
  | .int n => n == 0
  | .uint n => n == 0
  | .float x => x.isZero
  | .text s | .other s => s.isEmpty
  | .bytes bs => bs.isEmpty
  | .numeric s => (Double.read? s).any (·.isZero)
  | .null | .timestamp _ => false

def asText? : Value → Option String
  | .text s => some s
  | _ => none

/-- Equality of values. Floating-point numbers are equal as numbers, so NaN differs from itself. -/
def equals : Value → Value → Bool
  | .float x, .float y => x.sameNumber y
  | v, w => v == w

/-- Equal values are the same, or they are the two zeros. -/
theorem same_or_zeros {v w : Value} (h : v.equals w = true) :
    v = w ∨ ∃ x y, v = .float x ∧ w = .float y ∧ x.isZero = true ∧ y.isZero = true := by
  revert h
  fun_cases equals v w with
  | case1 x y =>
    intro h
    simp only [Double.sameNumber, Bool.and_eq_true, Bool.or_eq_true, beq_iff_eq] at h
    rcases h.2 with hbits | hzeros
    · obtain ⟨bits⟩ := x
      obtain ⟨bits'⟩ := y
      obtain rfl : bits = bits' := hbits
      exact .inl rfl
    · exact .inr ⟨x, y, rfl, rfl, hzeros⟩
  | case2 v w => exact fun h => .inl (eq_of_beq h)

theorem equals_of_zeros {x y : Double} (hx : x.isZero = true) (hy : y.isZero = true) :
    (Value.float x).equals (.float y) = true := by
  have hnumber {z : Double} (hz : z.isZero = true) : z.isNaN = false := by
    rw [Double.isNaN, eq_of_beq hz]
    rfl
  simp [equals, Double.sameNumber, hx, hy, hnumber hx, hnumber hy]

theorem equals_symm {v w : Value} (h : v.equals w = true) : w.equals v = true := by
  rcases same_or_zeros h with rfl | ⟨x, y, rfl, rfl, hx, hy⟩
  · exact h
  · exact equals_of_zeros hy hx

theorem equals_trans {u v w : Value} (h : u.equals v = true) (h' : v.equals w = true) : u.equals w = true := by
  rcases same_or_zeros h with rfl | ⟨x, y, rfl, rfl, hx, -⟩
  · exact h'
  · rcases same_or_zeros h' with rfl | ⟨-, z, -, rfl, -, hz⟩
    · exact h
    · exact equals_of_zeros hx hz

/-- An exact decimal as a value. -/
def ofExact (x : Exact) : Value :=
  .numeric x.text

/-- A 128-bit identifier as text in groups of 8, 4, 4, 4 and 12 hexadecimal digits. -/
def ofUuid (n : Nat) : Value :=
  let digits := padLeft '0' 32 (Nat.toDigits 16 n)
  let group (start length : Nat) := (digits.drop start).take length
  .other (String.ofList (group 0 8 ++ '-' :: group 8 4 ++ '-' :: group 12 4 ++ '-' :: group 16 4 ++ '-' ::
    group 20 12))

end Value

end Sql
