import StepFlow.Number.Shortest

/-!
# How a number is written

The digits of a number are one question, their layout another.  A `Layout`
records the decisions of one format: which numbers are written positionally,
how the exponent of the others looks, and which of two equally short decimals
is taken.
-/

namespace StepFlow

/-- The decisions of a number format.  A number whose leading digit stands for
`10 ^ e` is written positionally if `plainFrom ≤ e < plainBelow`. -/
structure Layout where
  plainFrom : Int
  plainBelow : Int
  /-- Positive exponents carry a plus sign. -/
  expPlus : Bool
  tie : Decimal.Tie

namespace Layout

/-- The decimal digits of a natural number, leading digit first. -/
def digits (n : Nat) : List Char := Nat.toDigits 10 n

/-- Positional text: the point stands `point` places after the leading digit's
left edge. -/
def plain (ds : List Char) (point : Int) : List Char :=
  if point ≤ 0 then '0' :: '.' :: (List.replicate (-point).toNat '0' ++ ds)
  else if ds.length ≤ point.toNat then
    ds ++ List.replicate (point.toNat - ds.length) '0' ++ ['.', '0']
  else ds.take point.toNat ++ '.' :: ds.drop point.toNat

/-- Scientific text, with one digit before the point. -/
def scientific (layout : Layout) (ds : List Char) (e : Int) : List Char :=
  let mantissa := match ds with
    | [] => []
    | [d] => [d]
    | d :: rest => d :: '.' :: rest
  let sign := if e < 0 then ['-'] else if layout.expPlus then ['+'] else []
  mantissa ++ 'e' :: (sign ++ digits e.natAbs)

/-- The text of a double: always with a fraction or an exponent. -/
def write (layout : Layout) (x : Double) : List Char :=
  let d := Decimal.shortest layout.tie x
  let ds := digits d.digits
  let e : Int := d.exponent + ds.length - 1
  let body :=
    if x.mantissa = 0 ∨ (layout.plainFrom ≤ e ∧ e < layout.plainBelow) then plain ds (e + 1)
    else layout.scientific ds e
  if x.negative then '-' :: body else body

end Layout

end StepFlow
