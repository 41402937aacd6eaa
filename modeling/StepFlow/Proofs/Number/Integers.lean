import StepFlow.Number.Double

/-!
# The double nearest to an integer

Integers are exact as data and become doubles in arithmetic and comparisons.  The double that
stands for an integer is an integer again, and which one is said here without doubles: up to
`2 ^ 53` it is the integer itself, and beyond it is the nearest multiple of the distance between
neighbouring doubles, from the middle the even one (`Double.roundInt`, `Double.exists_ofInt_eq`).
Doubles that are integers compare as integers (`Double.cmp_of_toInt?`).

What is load-bearing is that rounding is monotone (`Double.roundInt_mono`).  So two integers can
fall together, but never change places.
-/

namespace StepFlow.Double

/-! ### Rounding quotients -/

/-- **A quotient is rounded down or up** by its remainder, and in the middle by its parity. -/
theorem divHalfEven_cases (n den : Nat) :
    (divHalfEven n den = n / den ∧ 2 * (n % den) ≤ den ∧
        (2 * (n % den) = den → n / den % 2 = 0)) ∨
      (divHalfEven n den = n / den + 1 ∧ den ≤ 2 * (n % den) ∧
        (2 * (n % den) = den → n / den % 2 = 1)) := by
  unfold divHalfEven
  by_cases down : 2 * (n % den) < den
  · exact .inl ⟨if_pos down, by omega, by omega⟩
  by_cases up : den < 2 * (n % den)
  · exact .inr ⟨by simp only [if_neg down, if_pos up], by omega, by omega⟩
  by_cases even : n / den % 2 = 0
  · exact .inl ⟨by simp only [if_neg down, if_neg up, if_pos even], by omega, fun _ => even⟩
  · exact .inr ⟨by simp only [if_neg down, if_neg up, if_neg even], by omega, by omega⟩

variable {m n : Nat}

/-- A quotient that is exact is not rounded. -/
theorem divHalfEven_mul {den : Nat} (positive : 0 < den) (q : Nat) :
    divHalfEven (q * den) den = q := by
  have exact : divHalfEven (q * den) den = q * den / den := by
    rcases divHalfEven_cases (q * den) den with ⟨down, -⟩ | ⟨-, up, -⟩
    · exact down
    · rw [Nat.mul_mod_left] at up
      omega
  rw [exact, Nat.mul_div_cancel q positive]

/-- **Rounding a quotient is monotone.** -/
theorem divHalfEven_mono (den : Nat) (le : m ≤ n) :
    divHalfEven m den ≤ divHalfEven n den := by
  have quotients : m / den ≤ n / den := Nat.div_le_div_right le
  have m_eq := Nat.div_add_mod m den
  have n_eq := Nat.div_add_mod n den
  rcases Nat.eq_or_lt_of_le quotients with same | less
  · rw [same] at m_eq
    -- the remainders are in order, and in the middle the quotients have one parity
    rcases divHalfEven_cases m den with ⟨m_down, -⟩ | ⟨m_up, m_above, m_tie⟩ <;>
      rcases divHalfEven_cases n den with ⟨n_down, n_below, n_tie⟩ | ⟨n_up, -⟩ <;> omega
  · rcases divHalfEven_cases m den with ⟨m_down, -⟩ | ⟨m_up, -⟩ <;>
      rcases divHalfEven_cases n den with ⟨n_down, -⟩ | ⟨n_up, -⟩ <;> omega

/-- **Rounding moves a number by half of the denominator** at most. -/
theorem divHalfEven_near {den : Nat} (positive : 0 < den) (n : Nat) :
    2 * (divHalfEven n den * den) ≤ 2 * n + den ∧ 2 * n ≤ 2 * (divHalfEven n den * den) + den := by
  have n_eq := Nat.div_add_mod' n den
  have remainder := Nat.mod_lt n positive
  rcases divHalfEven_cases n den with ⟨down, below, -⟩ | ⟨up, above, -⟩
  · rw [down]
    omega
  · rw [up, Nat.add_mul, Nat.one_mul]
    omega

/-! ### Natural numbers -/

/-- The distance of neighbouring doubles at a natural number, or one where that is less. -/
def gap (n : Nat) : Nat := twoTo (n.log2 - 52)

/-- **The nearest multiple of the gap**, from the middle the even one. -/
def roundNat (n : Nat) : Nat := divHalfEven n (gap n) * gap n

theorem gap_pos (n : Nat) : 0 < gap n := twoTo_pos _

theorem gap_of_log2_le (short : n.log2 ≤ 52) : gap n = 1 := by
  unfold gap
  rw [Nat.sub_eq_zero_of_le short, twoTo_zero]

/-- Below `2 ^ 53` natural numbers are not rounded. -/
theorem roundNat_of_log2_le (short : n.log2 ≤ 52) : roundNat n = n := by
  have exact := divHalfEven_mul Nat.one_pos n
  rw [Nat.mul_one] at exact
  unfold roundNat
  rw [gap_of_log2_le short, exact, Nat.mul_one]

/-- From `2 ^ 52` on, the greatest power of two in a number is `2 ^ 52` gaps. -/
theorem mul_gap_eq (long : 52 ≤ n.log2) : twoTo 52 * gap n = twoTo n.log2 := by
  calc
    twoTo 52 * gap n = twoTo (52 + (n.log2 - 52)) := (Nat.pow_add ..).symm
    _ = twoTo n.log2 := by rw [Nat.add_sub_cancel' long]

/-- **A long number is rounded to 53 bits**, or to the power of two that follows. -/
theorem divHalfEven_gap_bounds (long : 52 ≤ n.log2) :
    twoTo 52 ≤ divHalfEven n (gap n) ∧ divHalfEven n (gap n) ≤ twoTo 53 := by
  have nonzero : n ≠ 0 := by
    rintro rfl
    cases long
  have first : twoTo n.log2 ≤ n := Nat.log2_self_le nonzero
  have last : n < twoTo (n.log2 + 1) := Nat.lt_log2_self
  rw [twoTo_succ] at last
  rw [← mul_gap_eq long] at first last
  rw [← Nat.mul_assoc] at last
  have lower := divHalfEven_mono (gap n) first
  have upper := divHalfEven_mono (gap n) (Nat.le_of_lt last)
  rw [divHalfEven_mul (gap_pos n)] at lower upper
  exact ⟨lower, upper⟩

/-- **A rounded number has the magnitude** of the number, or is the next power of two. -/
theorem roundNat_bounds (nonzero : n ≠ 0) :
    twoTo n.log2 ≤ roundNat n ∧ roundNat n ≤ twoTo (n.log2 + 1) := by
  by_cases short : n.log2 ≤ 52
  · rw [roundNat_of_log2_le short]
    exact ⟨Nat.log2_self_le nonzero, Nat.le_of_lt Nat.lt_log2_self⟩
  · have long := Nat.le_of_not_le short
    obtain ⟨lower, upper⟩ := divHalfEven_gap_bounds long
    rw [twoTo_succ, ← mul_gap_eq long, ← Nat.mul_assoc]
    exact ⟨Nat.mul_le_mul_right _ lower, Nat.mul_le_mul_right _ upper⟩

/-- **Rounding is monotone.** -/
theorem roundNat_mono (le : m ≤ n) : roundNat m ≤ roundNat n := by
  by_cases zero : m = 0
  · subst zero
    exact Nat.zero_le _
  have nonzero : n ≠ 0 := by omega
  have logs : m.log2 ≤ n.log2 :=
    (Nat.le_log2 nonzero).mpr (Nat.le_trans (Nat.log2_self_le zero) le)
  rcases Nat.eq_or_lt_of_le logs with same | less
  · have gaps : gap m = gap n := congrArg (fun k => twoTo (k - 52)) same
    unfold roundNat
    rw [gaps]
    exact Nat.mul_le_mul_right _ (divHalfEven_mono (gap n) le)
  · -- a power of two lies between the two
    calc
      roundNat m ≤ twoTo (m.log2 + 1) := (roundNat_bounds zero).2
      _ ≤ twoTo n.log2 := Nat.pow_le_pow_right (by decide) less
      _ ≤ roundNat n := (roundNat_bounds nonzero).1

/-- Up to `2 ^ 53` natural numbers are not rounded. -/
theorem roundNat_of_le (le : n ≤ twoTo 53) : roundNat n = n := by
  rcases Nat.eq_or_lt_of_le le with rfl | less
  · decide +kernel
  by_cases zero : n = 0
  · rw [zero]
    rfl
  · exact roundNat_of_log2_le (Nat.le_of_lt_succ ((Nat.log2_lt zero).mpr less))

/-! ### Integers -/

/-- The natural number with a sign. -/
def signed (negative : Bool) (n : Nat) : Int := if negative then -n else n

/-- **The integer nearest to an integer among the doubles.** -/
def roundInt (a : Int) : Int := signed (a < 0) (roundNat a.natAbs)

variable {a b : Int}

theorem roundInt_of_nonneg (nonnegative : 0 ≤ a) : roundInt a = roundNat a.natAbs := by
  unfold roundInt signed
  rw [decide_eq_false (Int.not_lt.mpr nonnegative)]
  rfl

theorem roundInt_of_neg (negative : a < 0) : roundInt a = -roundNat a.natAbs := by
  unfold roundInt signed
  rw [decide_eq_true negative]
  rfl

/-- **Up to `2 ^ 53` in magnitude integers are not rounded.** -/
theorem roundInt_of_natAbs_le (le : a.natAbs ≤ twoTo 53) : roundInt a = a := by
  rcases Int.lt_or_le a 0 with negative | nonnegative
  · rw [roundInt_of_neg negative, roundNat_of_le le]
    omega
  · rw [roundInt_of_nonneg nonnegative, roundNat_of_le le]
    omega

/-- **Rounding changes no order**, though it can make integers equal. -/
theorem roundInt_mono (le : a ≤ b) : roundInt a ≤ roundInt b := by
  rcases Int.lt_or_le a 0 with negative | nonnegative
  · rcases Int.lt_or_le b 0 with both | apart
    · have rounded : roundNat b.natAbs ≤ roundNat a.natAbs := roundNat_mono (by omega)
      rw [roundInt_of_neg negative, roundInt_of_neg both]
      omega
    · rw [roundInt_of_neg negative, roundInt_of_nonneg apart]
      omega
  · have rounded : roundNat a.natAbs ≤ roundNat b.natAbs := roundNat_mono (by omega)
    rw [roundInt_of_nonneg nonnegative, roundInt_of_nonneg (Int.le_trans nonnegative le)]
    omega

/-- **Rounding moves an integer by half of a gap** at most. -/
theorem roundInt_near (a : Int) :
    2 * roundInt a ≤ 2 * a + gap a.natAbs ∧ 2 * a ≤ 2 * roundInt a + gap a.natAbs := by
  have near := divHalfEven_near (gap_pos a.natAbs) a.natAbs
  rcases Int.lt_or_le a 0 with negative | nonnegative
  · rw [roundInt_of_neg negative]
    unfold roundNat
    omega
  · rw [roundInt_of_nonneg nonnegative]
    unfold roundNat
    omega

/-- **Words that are rounded alike** are at most `2 ^ 11` apart. -/
theorem natAbs_sub_le_of_roundInt_eq (ha : a.natAbs < twoTo 64) (hb : b.natAbs < twoTo 64)
    (alike : roundInt a = roundInt b) : (a - b).natAbs ≤ twoTo 11 := by
  have narrow {n : Nat} (small : n < twoTo 64) : gap n ≤ twoTo 11 := by
    have length : n.log2 - 52 ≤ 11 := by
      by_cases zero : n = 0
      · rw [zero]
        decide
      · have bits := (Nat.log2_lt zero).mpr small
        omega
    exact Nat.pow_le_pow_right (by decide) length
  have nearA := roundInt_near a
  have nearB := roundInt_near b
  have narrowA := narrow ha
  have narrowB := narrow hb
  omega

/-! ### Doubles -/

/-- The first guess for the exponent of an integer is right. -/
theorem shortOf52Bits_eq_false (nonzero : n ≠ 0) :
    shortOf52Bits n 1 (52 - n.log2) = false := by
  have up : ((52 : Int) - n.log2).toNat = 52 - n.log2 := by omega
  have down : (-((52 : Int) - n.log2)).toNat = n.log2 - 52 := by omega
  have enough : twoTo 52 * twoTo (n.log2 - 52) ≤ n * twoTo (52 - n.log2) :=
    calc
      twoTo 52 * twoTo (n.log2 - 52) = twoTo (52 + (n.log2 - 52)) := (Nat.pow_add ..).symm
      _ = twoTo (n.log2 + (52 - n.log2)) := by congr 1; omega
      _ = twoTo n.log2 * twoTo (52 - n.log2) := Nat.pow_add ..
      _ ≤ n * twoTo (52 - n.log2) := Nat.mul_le_mul_right _ (Nat.log2_self_le nonzero)
  unfold shortOf52Bits
  rw [up, down, Nat.mul_one]
  exact decide_eq_false (Nat.not_lt.mpr enough)

/-- The fields of the double nearest to a natural number. -/
theorem nearest_eq (negative : Bool) (nonzero : n ≠ 0) :
    nearest negative n 1 0 =
      if divHalfEven (n * twoTo (52 - n.log2)) (gap n) = twoTo 53 then
        ofParts? negative (twoTo 52) (n.log2 - 52 + 1)
      else ofParts? negative (divHalfEven (n * twoTo (52 - n.log2)) (gap n)) (n.log2 - 52) := by
  have guess : (0 : Int) + n.log2 - (Nat.log2 1) - 52 = n.log2 - 52 := by
    have unit : Nat.log2 1 = 0 := by decide
    omega
  have shift : (0 : Int) - (n.log2 - 52) = 52 - n.log2 := by omega
  have least : max ((n.log2 : Int) - 52) (-1074) = n.log2 - 52 := by omega
  have up : ((52 : Int) - n.log2).toNat = 52 - n.log2 := by omega
  have down : ((n.log2 : Int) - 52 - 0).toNat = n.log2 - 52 := by omega
  unfold nearest
  simp only [if_neg nonzero, guess, shift, shortOf52Bits_eq_false nonzero, Bool.false_eq_true,
    if_false, least, up, down, Nat.one_mul]
  rfl

/-- A double with a natural exponent is an integer. -/
theorem exists_ofParts?_of_nat (negative : Bool) {m j : Nat} (fits : Canonical m j) :
    ∃ x, ofParts? negative m j = some x ∧ x.toInt? = some (signed negative (m * twoTo j)) := by
  have nonnegative : (0 : Int) ≤ j := Int.natCast_nonneg j
  refine ⟨_, dif_pos fits, ?_⟩
  unfold toInt?
  rw [if_pos nonnegative]
  rfl

/-- A double is an integer if its mantissa ends in enough zeros. -/
theorem exists_ofParts?_of_neg (negative : Bool) {q j : Nat} (fits : Canonical (q * twoTo j) (-j)) :
    ∃ x, ofParts? negative (q * twoTo j) (-j) = some x ∧ x.toInt? = some (signed negative q) := by
  by_cases unit : j = 0
  · subst unit
    obtain ⟨x, parts, whole⟩ := exists_ofParts?_of_nat negative fits
    rw [twoTo_zero, Nat.mul_one, Nat.mul_one] at whole
    exact ⟨x, parts, whole⟩
  · have fraction : ¬ (0 : Int) ≤ -j := by omega
    have shift : (-(-j : Int)).toNat = j := by omega
    refine ⟨_, dif_pos fits, ?_⟩
    unfold toInt?
    rw [if_neg fraction, shift, if_pos (Nat.mul_mod_left q (twoTo j)),
      Nat.mul_div_cancel q (twoTo_pos j)]
    rfl

/-- Zero is an integer. -/
theorem toInt?_zero (negative : Bool) : (zero negative).toInt? = some (signed negative 0) := by
  have fraction : ¬ (0 : Int) ≤ -1074 := by decide
  unfold toInt? zero
  rw [if_neg fraction, if_pos (Nat.zero_mod _), Nat.zero_div]
  rfl

/-- The double nearest to a short number has its digits, filled up with zeros. -/
theorem exists_nearest_of_short (negative : Bool) (nonzero : n ≠ 0) (short : n.log2 ≤ 52) :
    ∃ x, nearest negative n 1 0 = some x ∧ x.toInt? = some (signed negative n) := by
  obtain ⟨j, fill⟩ := Nat.exists_eq_add_of_le short
  have pad : 52 - n.log2 = j := by omega
  have exponent : (n.log2 : Int) - 52 = -j := by omega
  have exact : divHalfEven (n * twoTo j) (gap n) = n * twoTo j := by
    have filled := divHalfEven_mul Nat.one_pos (n * twoTo j)
    rwa [Nat.mul_one, ← gap_of_log2_le short] at filled
  have first : twoTo 52 ≤ n * twoTo j := by
    calc
      twoTo 52 = twoTo n.log2 * twoTo j := by rw [fill]; exact Nat.pow_add ..
      _ ≤ n * twoTo j := Nat.mul_le_mul_right _ (Nat.log2_self_le nonzero)
  have last : n * twoTo j < twoTo 53 := by
    calc
      n * twoTo j < twoTo (n.log2 + 1) * twoTo j :=
        Nat.mul_lt_mul_of_pos_right Nat.lt_log2_self (twoTo_pos j)
      _ = twoTo (n.log2 + j + 1) := by rw [Nat.add_right_comm]; exact (Nat.pow_add ..).symm
      _ = twoTo 53 := by rw [← fill]
  rw [nearest_eq negative nonzero, pad, exponent, exact, if_neg (Nat.ne_of_lt last)]
  exact exists_ofParts?_of_neg negative ⟨last, by omega, by omega, .inl first⟩

/-- The double nearest to a long number has its first 53 digits, rounded. -/
theorem exists_nearest_of_long (negative : Bool) (long : 52 ≤ n.log2) (small : n.log2 < 1023) :
    ∃ x, nearest negative n 1 0 = some x ∧ x.toInt? = some (signed negative (roundNat n)) := by
  have nonzero : n ≠ 0 := by
    rintro rfl
    cases long
  obtain ⟨first, last⟩ := divHalfEven_gap_bounds long
  obtain ⟨j, rest⟩ := Nat.exists_eq_add_of_le long
  have pad : 52 - n.log2 = 0 := by omega
  have exponent : (n.log2 : Int) - 52 = j := by omega
  have gapped : gap n = twoTo j := by
    unfold gap
    rw [rest, Nat.add_sub_cancel_left]
  rw [nearest_eq negative nonzero, pad, twoTo_zero, Nat.mul_one, exponent]
  unfold roundNat
  rw [gapped] at first last ⊢
  by_cases full : divHalfEven n (twoTo j) = twoTo 53
  · -- rounding reached the next power of two
    have next : (j : Int) + 1 = (j + 1 : Nat) := rfl
    have same : twoTo 53 * twoTo j = twoTo 52 * twoTo (j + 1) := by
      rw [twoTo_succ j, Nat.mul_left_comm, twoTo_succ 52, Nat.mul_assoc]
    rw [if_pos full, full, same, next]
    exact exists_ofParts?_of_nat negative ⟨by decide, by omega, by omega, .inl (Nat.le_refl _)⟩
  · rw [if_neg full]
    exact exists_ofParts?_of_nat negative
      ⟨Nat.lt_of_le_of_ne last full, by omega, by omega, .inl first⟩

/-- **The double nearest to an integer is the rounded integer**, unless that is beyond the
doubles. -/
theorem exists_ofInt_eq (small : a.natAbs.log2 < 1023) :
    ∃ x, ofInt a = some x ∧ x.toInt? = some (roundInt a) := by
  unfold ofInt roundInt
  by_cases zero : a.natAbs = 0
  · rw [zero]
    exact ⟨.zero _, rfl, toInt?_zero _⟩
  by_cases short : a.natAbs.log2 ≤ 52
  · rw [roundNat_of_log2_le short]
    exact exists_nearest_of_short _ zero short
  · exact exists_nearest_of_long _ (Nat.le_of_not_le short) small

/-! ### Comparing -/

variable {x y : Double}

theorem signed_mul (negative : Bool) (m n : Nat) :
    signed negative (m * n) = signed negative m * n := by
  cases negative with
  | false => exact Int.natCast_mul m n
  | true =>
    show -((m * n : Nat) : Int) = -m * n
    rw [Int.natCast_mul, Int.neg_mul]

/-- Counted in finer units, a number is more of them. -/
theorem units_eq_mul {e e' : Int} (finer : e' ≤ e) (within : e ≤ x.exponent) :
    x.units e' = x.units e * twoTo (e - e').toNat := by
  have sum : (x.exponent - e').toNat = (x.exponent - e).toNat + (e - e').toNat := by omega
  have split : x.mantissa * twoTo (x.exponent - e').toNat =
      x.mantissa * twoTo (x.exponent - e).toNat * twoTo (e - e').toNat := by
    rw [sum, Nat.mul_assoc]
    exact congrArg _ (Nat.pow_add ..)
  calc
    x.units e' = signed x.negative (x.mantissa * twoTo (x.exponent - e').toNat) := rfl
    _ = signed x.negative (x.mantissa * twoTo (x.exponent - e).toNat) * twoTo (e - e').toNat := by
      rw [split, signed_mul]
    _ = x.units e * twoTo (e - e').toNat := rfl

/-- Multiplying both sides changes no comparison. -/
theorem compare_mul {k : Nat} (positive : 0 < k) (a b : Int) :
    compare (a * k) (b * k) = compare a b := by
  have positive : (0 : Int) < k := Int.natCast_pos.mpr positive
  have less : a * k < b * k ↔ a < b := Int.mul_lt_mul_right positive
  have equal : a * k = b * k ↔ a = b := Int.mul_eq_mul_right_iff (Int.ne_of_gt positive)
  show compareOfLessAndEq _ _ = compareOfLessAndEq _ _
  unfold compareOfLessAndEq
  simp only [less, equal]

/-- **Numbers compare in any units** in which they can be counted. -/
theorem cmp_eq {e : Int} (hx : e ≤ x.exponent) (hy : e ≤ y.exponent) :
    x.cmp y = compare (x.units e) (y.units e) := by
  have finer : e ≤ commonExponent x y := Int.le_min.mpr ⟨hx, hy⟩
  rw [units_eq_mul finer (Int.min_le_left ..), units_eq_mul finer (Int.min_le_right ..),
    compare_mul (twoTo_pos _)]
  rfl

/-- An integer is so many units. -/
theorem units_of_toInt? {e : Int} (whole : x.toInt? = some a) (within : e ≤ x.exponent)
    (fraction : e ≤ 0) : x.units e = a * twoTo (-e).toNat := by
  unfold toInt? at whole
  by_cases natural : 0 ≤ x.exponent
  · rw [if_pos natural] at whole
    have units : x.units 0 = a := by
      rw [← Option.some.inj whole, ← Int.sub_zero x.exponent]
      rfl
    rw [units_eq_mul fraction natural, units, Int.zero_sub]
  · rw [if_neg natural] at whole
    split at whole
    · rename_i divides
      have digits := Nat.div_mul_cancel (Nat.dvd_of_mod_eq_zero divides)
      have scaled : x.units x.exponent = a * twoTo (-x.exponent).toNat := by
        unfold units
        rw [Int.sub_self, ← Option.some.inj whole]
        show signed _ (x.mantissa * 1) = signed _ _ * _
        rw [Nat.mul_one, ← signed_mul, digits]
      have sum : (-e).toNat = (-x.exponent).toNat + (x.exponent - e).toNat := by omega
      have split : twoTo (-e).toNat = twoTo (-x.exponent).toNat * twoTo (x.exponent - e).toNat := by
        rw [sum]
        exact Nat.pow_add ..
      rw [units_eq_mul within (Int.le_refl _), scaled, split, Int.natCast_mul, Int.mul_assoc]
    · cases whole

/-- **Doubles that are integers compare as integers.** -/
theorem cmp_of_toInt? (hx : x.toInt? = some a) (hy : y.toInt? = some b) :
    x.cmp y = compare a b := by
  let e := min 0 (min x.exponent y.exponent)
  have fraction : e ≤ 0 := by omega
  have withinX : e ≤ x.exponent := by omega
  have withinY : e ≤ y.exponent := by omega
  rw [cmp_eq withinX withinY, units_of_toInt? hx withinX fraction,
    units_of_toInt? hy withinY fraction, compare_mul (twoTo_pos _)]

end StepFlow.Double
