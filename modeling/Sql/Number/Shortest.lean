/-
The shortest decimal that reads back as a given binary number, and of those the nearest to it.

For one digit, two digits and so on, the two decimals next to the number on that grid are tried; the first
grid on which one of them rounds to the number wins. If a grid has any such decimal, it has one among the two.
-/
import Sql.Number.Binary

namespace Sql.Number

/-- The largest `e` with `10 ^ e ≤ num / den`. -/
def floorLog10 (num den : Nat) : Int :=
  let e : Int := (natDigits num).length - (natDigits den).length
  if num * Nat.pow 10 (-e).toNat < den * Nat.pow 10 e.toNat then e - 1 else e

/-- A positive number `value / den` with the ends of the interval of numbers that round to it. -/
structure Neighbourhood where
  low : Nat
  value : Nat
  high : Nat
  den : Nat
  /-- Whether the ends round to the number too. -/
  closed : Bool

/-- The interval reaches half a unit to both sides, but a quarter of one below a power of two. -/
def BinaryFormat.neighbourhood (f : BinaryFormat) (m : Nat) (e : Int) : Neighbourhood :=
  let scale := Nat.pow 2 (e - 2).toNat
  let below := if m = Nat.pow 2 f.fractionBits ∧ f.lowest < e then 1 else 2
  ⟨(4 * m - below) * scale, 4 * m * scale, (4 * m + 2) * scale, Nat.pow 2 (2 - e).toNat, m % 2 == 0⟩

/-- Which of two decimals is taken if the number lies halfway between them. -/
inductive Tie where
  | toEven
  | up
deriving DecidableEq, Repr

/-- The integer nearest to `num / den`. -/
def Tie.nearest (tie : Tie) (num den : Nat) : Nat :=
  match tie with
  | toEven => divHalfEven num den
  | up => (2 * num + den) / (2 * den)

namespace Neighbourhood

/-- Whether `digits * 10 ^ exponent` rounds to the number. -/
def holds (v : Neighbourhood) (digits : Nat) (exponent : Int) : Bool :=
  let up := Nat.pow 10 (-exponent).toNat
  let x := digits * Nat.pow 10 exponent.toNat * v.den
  if v.closed then v.low * up ≤ x && x ≤ v.high * up else v.low * up < x && x < v.high * up

/-- The decimal of the grid `10 ^ exponent` that rounds to the number and lies nearest to it, if any. -/
def onGrid (v : Neighbourhood) (tie : Tie) (exponent : Int) : Option Nat :=
  let num := v.value * Nat.pow 10 (-exponent).toNat
  let den := v.den * Nat.pow 10 exponent.toNat
  let below := num / den
  let nearest := tie.nearest num den
  let other := 2 * below + 1 - nearest
  if v.holds nearest exponent then some nearest
  else if v.holds other exponent then some other
  else none

/-- The shortest decimal, as digits and exponent; 17 digits always suffice for double precision. -/
def shortest (v : Neighbourhood) (tie : Tie) : Nat × Int :=
  let top := floorLog10 v.value v.den
  let grids : List Int := (List.range 17).map fun (n : Nat) => top - n
  (grids.findSome? fun e => (v.onGrid tie e).map (·, e)).getD (0, 0)

end Neighbourhood

/-- A decimal without zeros at the end of its digits; `fuel` bounds how many are dropped. -/
def dropZeros : Nat → Nat → Int → Nat × Int
  | 0, digits, exponent => (digits, exponent)
  | fuel + 1, digits, exponent =>
    if digits ≠ 0 ∧ digits % 10 = 0 then dropZeros fuel (digits / 10) (exponent + 1) else (digits, exponent)

/-- The shortest decimal of a positive finite double: the number nearest to `d * 10 ^ e`. -/
def Double.shortest (x : Double) (tie : Tie) : Nat × Int :=
  let (m, e) := BinaryFormat.double.unpack x.word
  let (digits, exponent) := (BinaryFormat.double.neighbourhood m e).shortest tie
  dropZeros 20 digits exponent

end Sql.Number
