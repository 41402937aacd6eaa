/-!
# Powers of two and of ten

Binary and decimal exponents are natural numbers throughout: a negative exponent
is a power on the other side of the comparison or the quotient.
-/

namespace StepFlow

/-- `2` to the `k`. -/
def twoTo (k : Nat) : Nat := Nat.pow 2 k

/-- `10` to the `k`. -/
def tenTo (k : Nat) : Nat := Nat.pow 10 k

theorem twoTo_zero : twoTo 0 = 1 := rfl

theorem twoTo_succ (k : Nat) : twoTo (k + 1) = 2 * twoTo k := Nat.mul_comm (twoTo k) 2

theorem twoTo_pos (k : Nat) : 0 < twoTo k := Nat.pow_pos (by decide)

end StepFlow
