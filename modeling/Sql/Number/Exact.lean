/-
Exact decimals of at most 28 places whose digits fit 96 bits. Writing one keeps its places.
-/
import Sql.Number.Digits

namespace Sql.Number

/-- The number `digits / 10 ^ places`, negated if `negative`. -/
structure Exact where
  negative : Bool
  digits : Nat
  places : Nat
deriving DecidableEq

namespace Exact

/-- Digits stay below this bound. -/
def bound : Nat := Nat.pow 2 96

def maxPlaces : Nat := 28

/-- One unit more in the last place. If the digits then overflow, the last place is rounded away. -/
def roundUp (digits places : Nat) : Option (Nat × Nat) :=
  if digits + 1 < bound then some (digits + 1, places)
  else if places = 0 then none
  else some ((digits + 1 + 4) / 10, places - 1)

/-- Ends a number before characters that no longer fit. Only the first of them counts: a digit rounds half up, an
underscore or a point changes nothing. -/
def endAt (digits places : Nat) : List Char → Option (Nat × Nat)
  | [] => some (digits, places)
  | c :: _ =>
    if c.isDigit then if '5' ≤ c then roundUp digits places else some (digits, places)
    else if c = '_' ∨ c = '.' then some (digits, places)
    else none

/-- From here on digits do not fit 64 bits for sure if another one follows. -/
def wideFrom : Nat := 1844674407370954906

/-- Reads a number without sign, of which some digits may have been read, and perhaps the point. Underscores may
follow the first digit. Before the point every digit must fit. After the last place the number ends; wide digits
are rounded past underscores there. -/
def readDigits (seen point wide : Bool) (digits places : Nat) : List Char → Option (Nat × Nat)
  | [] => if seen then some (digits, places) else none
  | c :: cs =>
    if c.isDigit then
      let next := digits * 10 + (c.toNat - 0x30)
      let place := if point then places + 1 else 0
      if bound ≤ next then if point then endAt digits places (c :: cs) else none
      else if place < maxPlaces then readDigits true point (wide || wideFrom ≤ next) next place cs
      else endAt next place (if wide then cs.dropWhile (· == '_') else cs)
    else if c = '.' ∧ !point then readDigits seen true wide digits places cs
    else if c = '_' ∧ seen then readDigits seen point wide digits places cs
    else none

/-- A number with an optional sign. Zero has none. -/
def read? (s : String) : Option Exact :=
  let (negative, cs) := match s.toList with
    | '-' :: cs => (true, cs)
    | '+' :: cs => (false, cs)
    | cs => (false, cs)
  (readDigits false false false 0 0 cs).map fun (digits, places) => ⟨negative && digits != 0, digits, places⟩

/-- At least one digit before the point, and all places after it. -/
def text (x : Exact) : String :=
  let cs := padLeft '0' (x.places + 1) (natDigits x.digits)
  let whole := cs.take (cs.length - x.places)
  let fraction := cs.drop (cs.length - x.places)
  let body := if x.places = 0 then whole else whole ++ '.' :: fraction
  String.ofList (if x.negative then '-' :: body else body)

end Exact

end Sql.Number
