import StepFlow.Number.Power

/-!
# Finite double-precision numbers

The numbers of expressions are binary64 values.  A **double** is held as sign,
mantissa and exponent in canonical form, so two doubles with the same fields
are the same number and the arithmetic below is ordinary integer arithmetic
followed by one rounding.

Only finite values are represented.  An operation whose exact result rounds
past the largest double has no result (`none`); no operation on finite operands
has any other way to fail, division and remainder by zero apart, which the
callers exclude.

`nearest` is the one rounding rule: to the nearest double, and from the middle
to the even mantissa.
-/

namespace StepFlow

/-- The mantissas and exponents in use: 53 bits at most, and 53 bits exactly
unless the exponent is the least one. -/
def Double.Canonical (mantissa : Nat) (exponent : Int) : Prop :=
  mantissa < twoTo 53 ∧ -1074 ≤ exponent ∧ exponent ≤ 971 ∧
    (twoTo 52 ≤ mantissa ∨ exponent = -1074)

instance (m : Nat) (e : Int) : Decidable (Double.Canonical m e) := by
  unfold Double.Canonical; infer_instance

/-- **A finite binary64 number**, `± mantissa · 2 ^ exponent`.  Zero has a sign. -/
structure Double where
  negative : Bool
  mantissa : Nat
  exponent : Int
  canonical : Double.Canonical mantissa exponent
deriving DecidableEq, Repr

namespace Double

/-- Zero, with a sign. -/
def zero (negative : Bool) : Double := ⟨negative, 0, -1074, by decide⟩

/-- The double with these fields, if they are canonical. -/
def ofParts? (negative : Bool) (mantissa : Nat) (exponent : Int) : Option Double :=
  if h : Canonical mantissa exponent then some ⟨negative, mantissa, exponent, h⟩ else none

/-- The quotient rounded to an integer, from the middle to the even one. -/
def divHalfEven (num den : Nat) : Nat :=
  let q := num / den
  let r := num % den
  if 2 * r < den then q else if den < 2 * r then q + 1 else if q % 2 = 0 then q else q + 1

/-- Is `num / den · 2 ^ shift` below `2 ^ 52`? -/
def shortOf52Bits (num den : Nat) (shift : Int) : Bool :=
  num * twoTo shift.toNat < twoTo 52 * den * twoTo (-shift).toNat

/-- **Rounding.**  The double nearest to `± num / den · 2 ^ scale`, from the
middle the one with the even mantissa; `none` past the largest double.  The
first guess for the exponent is at most one too large. -/
def nearest (negative : Bool) (num den : Nat) (scale : Int) : Option Double :=
  if num = 0 then some (zero negative) else
  let guess : Int := scale + num.log2 - den.log2 - 52
  let exact := if shortOf52Bits num den (scale - guess) then guess - 1 else guess
  let e := max exact (-1074)
  let m := divHalfEven (num * twoTo (scale - e).toNat) (den * twoTo (e - scale).toNat)
  if m = twoTo 53 then ofParts? negative (twoTo 52) (e + 1) else ofParts? negative m e

/-- The double nearest to an integer. -/
def ofInt (n : Int) : Option Double := nearest (n < 0) n.natAbs 1 0

/-- The double nearest to `± digits · 10 ^ exponent`. -/
def ofDecimal (negative : Bool) (digits : Nat) (exponent : Int) : Option Double :=
  if digits = 0 then some (zero negative)
  else if 400 < exponent then none
  else if exponent < -400 - digits.log2 then some (zero negative)
  else nearest negative (digits * tenTo exponent.toNat) (tenTo (-exponent).toNat) 0

/-- The signed mantissa counted in units of `2 ^ e`, for an `e` not above the
exponent. -/
def units (x : Double) (e : Int) : Int :=
  let n : Int := (x.mantissa * twoTo (x.exponent - e).toNat : Nat)
  if x.negative then -n else n

/-- The finer of the two exponents: both numbers are integers in its units. -/
def commonExponent (x y : Double) : Int := min x.exponent y.exponent

/-- How two numbers compare; the two zeros are equal. -/
def cmp (x y : Double) : Ordering :=
  let e := commonExponent x y
  compare (x.units e) (y.units e)

/-- Are the two the same number?  The two zeros are. -/
def same (x y : Double) : Bool := cmp x y = .eq

/-- Is the number zero, of either sign? -/
def isZero (x : Double) : Bool := x.mantissa = 0

/-- The number with the other sign. -/
def neg (x : Double) : Double := { x with negative := !x.negative }

/-- The rounded sum.  A zero sum is negative only of two negative terms. -/
def add (x y : Double) : Option Double :=
  let e := commonExponent x y
  let n := x.units e + y.units e
  nearest (if n = 0 then x.negative && y.negative else n < 0) n.natAbs 1 e

/-- The rounded difference. -/
def sub (x y : Double) : Option Double := add x y.neg

/-- The rounded product. -/
def mul (x y : Double) : Option Double :=
  nearest (x.negative != y.negative) (x.mantissa * y.mantissa) 1 (x.exponent + y.exponent)

/-- The rounded quotient, for a divisor other than zero. -/
def div (x y : Double) : Option Double :=
  nearest (x.negative != y.negative) x.mantissa y.mantissa (x.exponent - y.exponent)

/-- The remainder of the quotient cut towards zero: exact, with the sign of the
dividend; for a divisor other than zero. -/
def rem (x y : Double) : Option Double :=
  let e := commonExponent x y
  nearest x.negative ((x.units e).natAbs % (y.units e).natAbs) 1 e

/-- The integer that the number is, if it is one. -/
def toInt? (x : Double) : Option Int :=
  let signed (n : Nat) : Int := if x.negative then -n else n
  if 0 ≤ x.exponent then some (signed (x.mantissa * twoTo x.exponent.toNat))
  else if x.mantissa % twoTo (-x.exponent).toNat = 0 then
    some (signed (x.mantissa / twoTo (-x.exponent).toNat))
  else none

end Double

end StepFlow
