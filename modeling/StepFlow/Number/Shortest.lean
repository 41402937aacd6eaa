import StepFlow.Number.Double

/-!
# The shortest decimal that reads back

A double stands for the interval of reals that round to it.  The **shortest
decimal** is the one with the fewest digits in that interval, and of those the
one nearest to the double.  The search tries grids of one digit, two digits and
so on; on each grid only the two neighbours of the exact value can be nearest,
so only they are tested, by exact integer arithmetic.
-/

namespace StepFlow

/-- A decimal number `digits · 10 ^ exponent`, without a sign. -/
structure Decimal where
  digits : Nat
  exponent : Int
deriving Repr, DecidableEq

namespace Decimal

/-- Compares `a · 10 ^ i` with `n · 2 ^ j`. -/
def cmpBinary (a : Nat) (i : Int) (n : Nat) (j : Int) : Ordering :=
  compare (a * tenTo i.toNat * twoTo (-j).toNat) (n * twoTo j.toNat * tenTo (-i).toNat)

/-- Does the decimal round to the magnitude of `x`?  The interval reaches half
way to the neighbours, and the lower one is nearer below a power of two; its
ends belong to it when the mantissa is even. -/
def readsBack (x : Double) (d : Decimal) : Bool :=
  let narrow := x.mantissa = twoTo 52 ∧ -1074 < x.exponent
  let low := if narrow then 4 * x.mantissa - 1 else 4 * x.mantissa - 2
  let high := 4 * x.mantissa + 2
  let closed := x.mantissa % 2 = 0
  let below := cmpBinary d.digits d.exponent low (x.exponent - 2)
  let above := cmpBinary d.digits d.exponent high (x.exponent - 2)
  (below = .gt || (closed && below = .eq)) && (above = .lt || (closed && above = .eq))

/-- The least `k ≤ k₀` with `m · 2 ^ q < 10 ^ k`, looking down at most `n` steps. -/
def lowerScale (m : Nat) (q : Int) : (n : Nat) → (k₀ : Int) → Int
  | 0, k₀ => k₀
  | n + 1, k₀ => if cmpBinary 1 (k₀ - 1) m q = .gt then lowerScale m q n (k₀ - 1) else k₀

/-- The least `k` with `m · 2 ^ q < 10 ^ k`, for `0 < m`.  The estimate from the
binary logarithm is never too small and at most a few steps too large. -/
def scale (m : Nat) (q : Int) : Int :=
  lowerScale m q 4 (((m.log2 : Int) + q + 1) * 30103 / 100000 + 2)

/-- Which of two equally near decimals is taken. -/
inductive Tie where
  | even
  | up
deriving Repr, DecidableEq

/-- The decimal of the grid `10 ^ i` that reads back and is nearest to `x`. -/
def onGrid (tie : Tie) (x : Double) (i : Int) : Option Decimal :=
  let num := x.mantissa * twoTo x.exponent.toNat * tenTo (-i).toNat
  let den := twoTo (-x.exponent).toNat * tenTo i.toNat
  let q := num / den
  let lower : Decimal := ⟨q, i⟩
  let upper : Decimal := ⟨q + 1, i⟩
  match readsBack x lower, readsBack x upper with
  | false, false => none
  | true, false => some lower
  | false, true => some upper
  | true, true =>
    match compare (2 * (num % den)) den with
    | .lt => some lower
    | .gt => some upper
    | .eq => some (if tie = .even ∧ q % 2 = 0 then lower else upper)

/-- Tries grids of `n` digits and more, `tries` of them. -/
def search (tie : Tie) (x : Double) (k : Int) : (tries n : Nat) → Option Decimal
  | 0, _ => none
  | tries + 1, n =>
    match onGrid tie x (k - n) with
    | some d => some d
    | none => search tie x k tries (n + 1)

/-- Moves trailing zeros into the exponent, at most `n` of them. -/
def strip : (n : Nat) → Decimal → Decimal
  | 0, d => d
  | n + 1, d => if d.digits % 10 = 0 then strip n ⟨d.digits / 10, d.exponent + 1⟩ else d

/-- **The shortest decimal** of the magnitude of `x`; zero is the digit `0`.
Seventeen digits always suffice; should none do, the exact value is given. -/
def shortest (tie : Tie) (x : Double) : Decimal :=
  if x.mantissa = 0 then ⟨0, 0⟩ else
  match search tie x (scale x.mantissa x.exponent) 17 1 with
  | some d => strip 17 d
  | none =>
    ⟨x.mantissa * twoTo x.exponent.toNat * Nat.pow 5 (-x.exponent).toNat, min x.exponent 0⟩

end Decimal

end StepFlow
