/-
Texts of floating-point numbers: the shortest digits, laid out as a plain decimal or with an exponent.
-/
import Sql.Number.Shortest

namespace Sql.Number

/-- How the digits of a number are laid out. -/
structure FloatLayout where
  /-- The first digit's power of ten from which plain decimals begin. -/
  plainFrom : Int
  /-- The first digit's power of ten up to which plain decimals go. -/
  plainTo : Int
  /-- Whether a positive exponent has a sign. -/
  plus : Bool
  /-- Which of two equally near digits is the last one. -/
  tie : Tie

/-- `0.` and the digits, `digits.0`, or a point between the digits: a plain decimal has both parts. -/
def plainDecimal (digits : List Char) (top : Int) : List Char :=
  if top < 0 then '0' :: '.' :: List.replicate (-top - 1).toNat '0' ++ digits
  else
    let whole := (top + 1).toNat
    if digits.length ≤ whole then
      digits ++ List.replicate (whole - digits.length) '0' ++ ['.', '0']
    else digits.take whole ++ '.' :: digits.drop whole

/-- One digit before the point, and no point after a single digit. -/
def scientific (plus : Bool) (digits : List Char) (top : Int) : List Char :=
  let mantissa := match digits with
    | [] => []
    | [d] => [d]
    | d :: rest => d :: '.' :: rest
  let sign := if plus && 0 ≤ top then ['+'] else []
  mantissa ++ 'e' :: sign ++ intDigits top

/-- The text of a finite number. Zero keeps its sign. -/
def FloatLayout.finite (l : FloatLayout) (x : Double) : List Char :=
  let sign := if x.isNegative then ['-'] else []
  if x.isZero then sign ++ ['0', '.', '0']
  else
    let (d, e) := x.shortest l.tie
    let digits := natDigits d
    let top := e + (digits.length - 1 : Nat)
    if l.plainFrom ≤ top ∧ top ≤ l.plainTo then sign ++ plainDecimal digits top
    else sign ++ scientific l.plus digits top

end Sql.Number
