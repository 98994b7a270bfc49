/-
Reading floating-point numbers from decimal text: a sign, digits with at most one point among or around
them, and an exponent; or the names of infinity and NaN in any case.
-/
import Sql.Number.Binary

namespace Sql.Number

/-- What a numeric text says, before it is rounded to a format. -/
inductive Numeral where
  | finite (negative : Bool) (digits : Nat) (exponent : Int)
  | infinite (negative : Bool)
  | nan

/-- A sign and what follows it. -/
def spanSign : List Char → Bool × List Char
  | '-' :: cs => (true, cs)
  | '+' :: cs => (false, cs)
  | cs => (false, cs)

/-- An exponent up to the end of the text: nothing, or a letter e with an integer. -/
def readExponent : List Char → Option Int
  | [] => some 0
  | c :: cs =>
    if c = 'e' ∨ c = 'E' then
      let (negative, ds) := spanSign cs
      if ds ≠ [] ∧ ds.all Char.isDigit then some (if negative then -ofDigits ds else ofDigits ds) else none
    else none

/-- Digits and exponent of an unsigned numeral. -/
def readMagnitude (cs : List Char) : Option (Nat × Int) :=
  let (whole, rest) := spanDigits cs
  let (fraction, rest) := match rest with
    | '.' :: rest => spanDigits rest
    | rest => ([], rest)
  if whole = [] ∧ fraction = [] then none
  else (readExponent rest).map fun e => (ofDigits (whole ++ fraction), e - fraction.length)

def Numeral.read? (s : String) : Option Numeral :=
  let (negative, cs) := spanSign s.toList
  match readMagnitude cs with
  | some (digits, exponent) => some (.finite negative digits exponent)
  | none =>
    match String.ofList (cs.map Char.toLower) with
    | "inf" | "infinity" => some (.infinite negative)
    | "nan" => some .nan
    | _ => none

/-- The double nearest to a numeral. -/
def Numeral.toDouble : Numeral → Double
  | .finite negative digits exponent => .ofWord negative (BinaryFormat.double.ofDecimal digits exponent)
  | .infinite negative => .infinity negative
  | .nan => .nan

/-- The double equal to the number of single precision nearest to a numeral. -/
def Numeral.toSingle : Numeral → Double
  | .finite negative digits exponent => .widen negative (BinaryFormat.single.ofDecimal digits exponent)
  | .infinite negative => .infinity negative
  | .nan => .nan

def Double.read? (s : String) : Option Double :=
  (Numeral.read? s).map Numeral.toDouble

def Double.readSingle? (s : String) : Option Double :=
  (Numeral.read? s).map Numeral.toSingle

end Sql.Number
