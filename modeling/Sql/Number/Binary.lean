/-
Binary floating-point numbers as words: a sign bit, an exponent field and a fraction field. Rounding a
fraction to the nearest of them is exact integer arithmetic; a tie goes to the even significand.
-/
import Sql.Number.Digits

namespace Sql.Number

/-- The widths of the two fields below the sign bit. -/
structure BinaryFormat where
  fractionBits : Nat
  exponentBits : Nat

def BinaryFormat.single : BinaryFormat := ⟨23, 8⟩

def BinaryFormat.double : BinaryFormat := ⟨52, 11⟩

namespace BinaryFormat

/-- The exponent of the smallest positive number. -/
def lowest (f : BinaryFormat) : Int :=
  2 - Nat.pow 2 (f.exponentBits - 1) - f.fractionBits

/-- The word of positive infinity; the words of NaN lie above it. -/
def infinity (f : BinaryFormat) : Nat :=
  (Nat.pow 2 f.exponentBits - 1) * Nat.pow 2 f.fractionBits

/-- The significand and exponent of a finite word without sign: the number is `m * 2 ^ e`. -/
def unpack (f : BinaryFormat) (word : Nat) : Nat × Int :=
  let exponent := word / Nat.pow 2 f.fractionBits
  let fraction := word % Nat.pow 2 f.fractionBits
  if exponent = 0 then (fraction, f.lowest)
  else (fraction + Nat.pow 2 f.fractionBits, f.lowest + (exponent - 1))

end BinaryFormat

/-- A quotient rounded to the nearest integer, a half to the even one. -/
def divHalfEven (num den : Nat) : Nat :=
  let q := num / den
  let r := num % den
  if 2 * r < den then q
  else if den < 2 * r then q + 1
  else q + q % 2

/-- The largest `e` with `2 ^ e ≤ num / den`. -/
def floorLog2 (num den : Nat) : Int :=
  let e : Int := Nat.log2 num - Nat.log2 den
  if num * Nat.pow 2 (-e).toNat < den * Nat.pow 2 e.toNat then e - 1 else e

namespace BinaryFormat

/-- The word nearest to `num / den`, infinity from half a unit above the largest finite number on. -/
def ofFraction (f : BinaryFormat) (num den : Nat) : Nat :=
  if num = 0 then 0
  else
    let unit := max (floorLog2 num den - f.fractionBits) f.lowest
    let m := divHalfEven (num * Nat.pow 2 (-unit).toNat) (den * Nat.pow 2 unit.toNat)
    min ((unit - f.lowest).toNat * Nat.pow 2 f.fractionBits + m) f.infinity

/-- The word nearest to `digits * 10 ^ exponent`. Powers of ten far outside the range are not computed. -/
def ofDecimal (f : BinaryFormat) (digits : Nat) (exponent : Int) : Nat :=
  let size := (natDigits digits).length + exponent
  if digits = 0 ∨ size < -400 then 0
  else if 400 < size then f.infinity
  else f.ofFraction (digits * Nat.pow 10 exponent.toNat) (Nat.pow 10 (-exponent).toNat)

end BinaryFormat

/-- A number of double precision, kept as its 64 bits. -/
structure Double where
  bits : UInt64
deriving DecidableEq, Repr

namespace Double

/-- The number with this sign and this word below the sign bit. -/
def ofWord (negative : Bool) (word : Nat) : Double :=
  ⟨UInt64.ofNat (word + if negative then Nat.pow 2 63 else 0)⟩

def nan : Double := ofWord false (BinaryFormat.double.infinity + Nat.pow 2 51)

def infinity (negative : Bool) : Double := ofWord negative BinaryFormat.double.infinity

def isNegative (x : Double) : Bool := Nat.pow 2 63 ≤ x.bits.toNat

/-- The word below the sign bit. -/
def word (x : Double) : Nat := x.bits.toNat % Nat.pow 2 63

def isNaN (x : Double) : Bool := BinaryFormat.double.infinity < x.word

def isFinite (x : Double) : Bool := x.word < BinaryFormat.double.infinity

/-- Zero of either sign. -/
def isZero (x : Double) : Bool := x.word == 0

/-- Equality of numbers: NaN differs from itself, and the two zeros are equal. -/
def sameNumber (x y : Double) : Bool :=
  !x.isNaN && !y.isNaN && (x.bits == y.bits || x.isZero && y.isZero)

/-- The double equal to a finite word of single precision, which no rounding changes. -/
def widen (negative : Bool) (single : Nat) : Double :=
  if BinaryFormat.single.infinity ≤ single then infinity negative
  else
    let (m, e) := BinaryFormat.single.unpack single
    ofWord negative (BinaryFormat.double.ofFraction (m * Nat.pow 2 e.toNat) (Nat.pow 2 (-e).toNat))

end Double

end Sql.Number
