import Mathlib.Data.Rat.Floor
import StepFlow.Execution.Route

/-!
# How often a counting loop runs

A counting loop repeats while two counts allow it: the repetitions, which stay below
the limit, and its counter, which starts anywhere, advances by any increment, and is
compared with the same limit.  `Loop.runs` says how often that is, in closed form, and
`Loop.lt_runs_iff` that the two counts together come to exactly this number.

The counter saturates.  That never shows: it can only get stuck at the greatest word,
which no limit reaches, or at the least, which is below every limit.
-/

namespace StepFlow

/-- **A saturated sum** is the exact sum, kept between the least and the greatest word. -/
theorem toInt_saturatingAdd (a b : Int64) :
    (saturatingAdd a b).toInt =
      max Int64.minValue.toInt (min Int64.maxValue.toInt (a.toInt + b.toInt)) := by
  have least : Int64.minValue.toInt = -2 ^ 63 := rfl
  have greatest : Int64.maxValue.toInt = 2 ^ 63 - 1 := rfl
  unfold saturatingAdd
  rw [least, greatest]
  exact Int64.toInt_ofInt_of_le (by omega) (by omega)

namespace Loop

/-- **How often a counting loop runs**: not at all if it starts at the limit, as often
as the limit allows if the counter never gets there, and otherwise as many times as the
increment fits between the start and the limit. -/
def runs (start increment : Int64) (limit : UInt32) : Nat :=
  if (limit.toNat : Int) ≤ start.toInt then 0
  else if increment.toInt ≤ 0 then limit.toNat
  else min limit.toNat ⌈((limit.toNat - start.toInt : Int) : ℚ) / (increment.toInt : ℚ)⌉.toNat

/-- The counter of a loop after `n` repetitions. -/
def counterAfter (start increment : Int64) (n : Nat) : Int64 :=
  (saturatingAdd · increment)^[n] start

variable {start increment : Int64} {limit : UInt32} {n : Nat}

@[simp] theorem counterAfter_zero : counterAfter start increment 0 = start := rfl

theorem counterAfter_succ (start increment : Int64) (n : Nat) :
    counterAfter start increment (n + 1) =
      saturatingAdd (counterAfter start increment n) increment :=
  Function.iterate_succ_apply' _ n start

/-- A counter that does not ascend stays where it started, or below. -/
theorem toInt_counterAfter_le (descends : increment.toInt ≤ 0) (n : Nat) :
    (counterAfter start increment n).toInt ≤ start.toInt := by
  induction n with
  | zero => exact le_refl _
  | succ n ih =>
    have least := (counterAfter start increment n).minValue_le_toInt
    rw [counterAfter_succ, toInt_saturatingAdd]
    omega

/-- **A counter that ascends** takes equal steps until it is stuck at the greatest word. -/
theorem toInt_counterAfter (ascends : 0 < increment.toInt) (n : Nat) :
    (counterAfter start increment n).toInt =
      min Int64.maxValue.toInt (start.toInt + n * increment.toInt) := by
  have bottom := start.minValue_le_toInt
  have top := start.toInt_le
  induction n with
  | zero =>
    rw [counterAfter_zero, Nat.cast_zero, Int.zero_mul, Int.add_zero, Int.min_eq_right top]
  | succ n ih =>
    have room : Int64.minValue.toInt ≤ Int64.maxValue.toInt := by decide
    have passed : 0 ≤ n * increment.toInt := Int.mul_nonneg (Int.natCast_nonneg n) ascends.le
    have step :
        ((n + 1 : Nat) : Int) * increment.toInt = n * increment.toInt + increment.toInt := by
      rw [Nat.cast_succ, Int.add_mul, Int.one_mul]
    rw [counterAfter_succ, toInt_saturatingAdd, ih, step]
    omega

/-- A number of steps is below the number that fits exactly if it falls short of the
limit. -/
theorem lt_ceil_iff (ascends : 0 < increment.toInt) (n : Nat) :
    n < ⌈((limit.toNat - start.toInt : Int) : ℚ) / (increment.toInt : ℚ)⌉.toNat ↔
      start.toInt + n * increment.toInt < limit.toNat := by
  have ascends' : (0 : ℚ) < increment.toInt := by exact_mod_cast ascends
  rw [Int.lt_toNat, Int.lt_ceil, lt_div_iff₀ ascends']
  constructor
  · intro fits
    have fits : (n : Int) * increment.toInt < limit.toNat - start.toInt := by exact_mod_cast fits
    omega
  · intro short
    have fits : (n : Int) * increment.toInt < limit.toNat - start.toInt := by omega
    exact_mod_cast fits

/-- **The two counts of a loop come to its number of runs.**  After `n` repetitions, no
more than there should be, both are below the limit exactly if `n` is below that number. -/
theorem lt_runs_iff (within : n ≤ runs start increment limit) :
    n < runs start increment limit ↔
      n < limit.toNat ∧ (counterAfter start increment n).toInt < limit.toNat := by
  unfold runs at within ⊢
  by_cases atLimit : (limit.toNat : Int) ≤ start.toInt
  · -- a counter that starts at the limit could descend below it, but gets no chance to
    rw [if_pos atLimit] at within ⊢
    obtain rfl : n = 0 := Nat.le_zero.mp within
    rw [counterAfter_zero]
    omega
  · rw [if_neg atLimit] at within ⊢
    by_cases descends : increment.toInt ≤ 0
    · rw [if_pos descends]
      have below : (counterAfter start increment n).toInt ≤ start.toInt :=
        toInt_counterAfter_le descends n
      omega
    · rw [if_neg descends]
      have ascends : 0 < increment.toInt := by omega
      have top : (limit.toNat : Int) < Int64.maxValue.toInt := by
        have bound : limit.toNat < 2 ^ 32 := limit.toNat_lt
        have greatest : Int64.maxValue.toInt = 2 ^ 63 - 1 := rfl
        omega
      rw [lt_min_iff, lt_ceil_iff ascends, toInt_counterAfter ascends]
      omega

end Loop

/-! ### Decisions -/

namespace Execution

variable {x : Execution} {step : String}

/-- A loop that has repeated as often as it may ends. -/
theorem decideLoop_of_limit_le {l : Loop} (reached : l.limit ≤ x.iterationsOf step) :
    x.decideLoop step l = .ok (false, x) := by
  unfold decideLoop
  rw [if_pos reached]

/-- Below its limit, a counting loop compares its counter, which has its start until it
is first written. -/
theorem decideLoop_counting {start increment counter : Int64} {limit : UInt32}
    (below : ¬ limit ≤ x.iterationsOf step) (h : (x.counters.get? step).getD start = counter) :
    x.decideLoop step (.counting start increment limit) =
      if counter.toInt < limit.toNat then
        let counters := x.counters.insert step (saturatingAdd counter increment)
        .ok (true, { x with counters }.countIteration step)
      else .ok (false, { x with counters := x.counters.insert step counter }) := by
  subst h
  unfold decideLoop
  rw [if_neg (show ¬ (Loop.counting start increment limit).limit ≤ _ from below)]

end Execution

end StepFlow
