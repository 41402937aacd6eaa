import StepFlow.Expression.Eval
import StepFlow.Proofs.Number.Integers

/-!
# Comparing integers

Expressions compare numbers by the doubles that stand for them.  For two integers this is the
comparison of the integers nearest to them among the doubles.  It says the truth about the
integers themselves if they are equal or rounded apart, and only then (`compares_words`).

Two integers of 64 bits that are rounded alike lie within `2 ^ 11` of each other, and one of them
is beyond `2 ^ 53`.  Such integers count as equal, whichever is greater
(`not_forall_compares`); the order of any others is kept, because rounding is monotone.
-/

namespace StepFlow.Expression

open Double

/-- An integer that fits 64 bits, with a sign or without one. -/
def IsWord (a : Int) : Prop := -(twoTo 63 : Int) ≤ a ∧ a < twoTo 64

/-- The context of two integers. -/
def pair (a b : Int) : Value := .obj [("x", .int a), ("y", .int b)]

/-- **An expression says whether** something holds, in the context of two integers. -/
def Says (source : String) (a b : Int) (v : Bool) : Prop :=
  ∃ e, parse source = .ok e ∧ e.eval (pair a b) = .ok (.bool v)

/-- **The comparisons of `a` and `b` say the truth about `c` and `d`.** -/
structure Compares (a b c d : Int) : Prop where
  equal : Says "x == y" a b (c = d)
  notEqual : Says "x != y" a b (c ≠ d)
  less : Says "x < y" a b (c < d)
  lessEqual : Says "x <= y" a b (c ≤ d)

variable {a b c d : Int}

theorem IsWord.natAbs_lt (word : IsWord a) : a.natAbs < twoTo 64 := by
  obtain ⟨lower, upper⟩ := word
  have half : (twoTo 63 : Int) < twoTo 64 := by decide +kernel
  omega

theorem IsWord.exists_ofInt_eq (word : IsWord a) :
    ∃ x, ofInt a = some x ∧ x.toInt? = some (roundInt a) := by
  apply Double.exists_ofInt_eq
  by_cases zero : a.natAbs = 0
  · rw [zero]
    decide
  · have bits := (Nat.log2_lt zero).mpr word.natAbs_lt
    omega

/-! ### Values -/

/-- **Integers are in the order of the rounded ones.** -/
theorem order?_int (ha : IsWord a) (hb : IsWord b) :
    (Value.int a).order? (.int b) = some (compare (roundInt a) (roundInt b)) := by
  obtain ⟨x, hx, wholeX⟩ := ha.exists_ofInt_eq
  obtain ⟨y, hy, wholeY⟩ := hb.exists_ofInt_eq
  unfold Value.order? Value.toDouble?
  simp only [hx, hy, cmp_of_toInt? wholeX wholeY]

/-- **Integers are equal if the rounded ones are.** -/
theorem looseEq_int (ha : IsWord a) (hb : IsWord b) :
    (Value.int a).looseEq (.int b) = (roundInt a = roundInt b : Bool) := by
  obtain ⟨x, hx, wholeX⟩ := ha.exists_ofInt_eq
  obtain ⟨y, hy, wholeY⟩ := hb.exists_ofInt_eq
  unfold Value.looseEq Value.toDouble? Double.same
  simp only [hx, hy, cmp_of_toInt? wholeX wholeY, Std.LawfulEqCmp.compare_eq_iff_eq]

/-! ### Expressions -/

/-- An operator between the two integers. -/
def between (op : BinaryOp) : Tree := .binary op (.path [.key "x"]) (.path [.key "y"])

/-- An operator that evaluates both of its operands is applied to the integers. -/
theorem eval_between {op : BinaryOp} (conjunction : op ≠ .and) (disjunction : op ≠ .or) :
    (between op).eval (pair a b) = applyBinary op (.int a) (.int b) := by
  cases op <;> first | rfl | contradiction

theorem says_of_applyBinary {source : String} {v : Bool} (op : BinaryOp)
    (read : parse source = .ok ⟨source, between op⟩) (conjunction : op ≠ .and)
    (disjunction : op ≠ .or) (applied : applyBinary op (.int a) (.int b) = .ok (.bool v)) :
    Says source a b v :=
  ⟨_, read, (eval_between conjunction disjunction).trans applied⟩

/-- An expression does not say both that something holds and that it does not. -/
theorem Says.unique {source : String} {v w : Bool} (hv : Says source a b v)
    (hw : Says source a b w) : v = w := by
  obtain ⟨e, read, evaluated⟩ := hv
  obtain ⟨e', read', evaluated'⟩ := hw
  cases read.symm.trans read'
  cases evaluated.symm.trans evaluated'
  rfl

/-- **Integers compare as the doubles nearest to them.** -/
theorem compares_roundInt (ha : IsWord a) (hb : IsWord b) :
    Compares a b (roundInt a) (roundInt b) := by
  have equal := looseEq_int ha hb
  have order := order?_int ha hb
  constructor
  · apply says_of_applyBinary .equal (by rfl) nofun nofun
    simp only [applyBinary, equal]
  · apply says_of_applyBinary .notEqual (by rfl) nofun nofun
    simp only [applyBinary, equal, ne_eq, decide_not]
  · apply says_of_applyBinary .less (by rfl) nofun nofun
    simp only [applyBinary, order, Option.some.injEq, Int.compare_eq_lt]
  · apply says_of_applyBinary .lessEqual (by rfl) nofun nofun
    have either : roundInt a ≤ roundInt b ↔ roundInt a < roundInt b ∨ roundInt a = roundInt b :=
      Int.le_iff_lt_or_eq
    simp only [applyBinary, order, Option.some.injEq, Int.compare_eq_lt,
      Std.LawfulEqCmp.compare_eq_iff_eq, either, Bool.decide_or]

/-- Comparisons say the truth about any two integers that are equal and ordered alike. -/
theorem Compares.congr {c' d' : Int} (h : Compares a b c d) (equal : c = d ↔ c' = d')
    (less : c < d ↔ c' < d') : Compares a b c' d' := by
  have lessEqual : c ≤ d ↔ c' ≤ d' := by omega
  constructor
  · simpa only [equal] using h.equal
  · simpa only [ne_eq, equal] using h.notEqual
  · simpa only [less] using h.less
  · simpa only [lessEqual] using h.lessEqual

/-- The comparisons are the truth about the integers exactly if these are equal or rounded
apart. -/
theorem compares_iff (ha : IsWord a) (hb : IsWord b) :
    Compares a b a b ↔ a = b ∨ roundInt a ≠ roundInt b := by
  have rounded := compares_roundInt ha hb
  constructor
  · intro truth
    have alike := decide_eq_decide.mp (truth.equal.unique rounded.equal)
    by_cases same : a = b
    · exact .inl same
    · exact .inr (mt alike.mpr same)
  · rintro (rfl | apart)
    · exact rounded.congr (by simp only) (by simp only [Int.lt_irrefl])
    · have distinct : a ≠ b := mt (congrArg roundInt) apart
      have up : a ≤ b → roundInt a ≤ roundInt b := roundInt_mono
      have down : b ≤ a → roundInt b ≤ roundInt a := roundInt_mono
      exact rounded.congr (by simp only [apart, distinct]) (by omega)

/-- **What comparisons of integers say.**  Any two integers of 64 bits compare as the integers
nearest to them among the doubles.  This is the truth about the integers themselves exactly if
they are equal or rounded apart, and so it is if both are at most `2 ^ 53` in magnitude, or if
they are more than `2 ^ 11` apart. -/
theorem compares_words (ha : IsWord a) (hb : IsWord b) :
    Compares a b (roundInt a) (roundInt b) ∧
      (Compares a b a b ↔ a = b ∨ roundInt a ≠ roundInt b) ∧
      (a.natAbs ≤ twoTo 53 ∧ b.natAbs ≤ twoTo 53 ∨ twoTo 11 < (a - b).natAbs →
        Compares a b a b) := by
  refine ⟨compares_roundInt ha hb, compares_iff ha hb, fun apart => ?_⟩
  apply (compares_iff ha hb).mpr
  rcases apart with ⟨smallA, smallB⟩ | far
  · rw [roundInt_of_natAbs_le smallA, roundInt_of_natAbs_le smallB]
    exact Decidable.em _
  · right
    intro alike
    have close := natAbs_sub_le_of_roundInt_eq ha.natAbs_lt hb.natAbs_lt alike
    omega

/-- The greatest integer with a sign and the greatest without one are told apart, and so are two
neighbours below `2 ^ 53`. -/
theorem compares_words_extremes :
    (IsWord 9223372036854775807 ∧ IsWord 18446744073709551615 ∧
      Compares 9223372036854775807 18446744073709551615 9223372036854775807
        18446744073709551615) ∧
      IsWord 9007199254740991 ∧ IsWord 9007199254740992 ∧
        Compares 9007199254740991 9007199254740992 9007199254740991 9007199254740992 := by
  have signed : IsWord 9223372036854775807 := by constructor <;> decide +kernel
  have unsigned : IsWord 18446744073709551615 := by constructor <;> decide +kernel
  have last : IsWord 9007199254740991 := by constructor <;> decide +kernel
  have limit : IsWord 9007199254740992 := by constructor <;> decide +kernel
  refine ⟨⟨signed, unsigned, (compares_words signed unsigned).2.2 (.inr ?_)⟩,
    last, limit, (compares_words last limit).2.2 (.inl ⟨?_, ?_⟩)⟩ <;> decide +kernel

/-- **Beyond `2 ^ 53` neighbours can count as equal.** -/
theorem not_forall_compares : ¬ ∀ a b : Int, IsWord a → IsWord b → Compares a b a b := by
  intro truth
  have limit : IsWord 9007199254740992 := by constructor <;> decide +kernel
  have next : IsWord 9007199254740993 := by constructor <;> decide +kernel
  have apart := (compares_iff limit next).mp (truth _ _ limit next)
  revert apart
  decide +kernel

end StepFlow.Expression
