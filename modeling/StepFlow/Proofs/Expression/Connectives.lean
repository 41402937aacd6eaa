import StepFlow.Expression.Eval

/-!
# The laws of the connectives

Negation and the two connectives look at their operands only through their **verdicts**: whether
the operand is satisfied, or the failure that keeps it from a value (`Tree.verdict`).  Values that
are no truth values count by their truthiness.

The right verdict is asked for only where the left one does not decide, and so a failure on the
right can be hidden, while one on the left never is.  The laws of Boolean algebra that keep the
order of the operands hold with failures, too: De Morgan's laws, associativity, and distributivity
over an operand on the right (`Tree.lawful`).  Commutativity does not.
-/

namespace StepFlow.Expression

/-- Whether something is satisfied, or why that cannot be said. -/
abbrev Verdict := Except Failure Bool

namespace Verdict

def not (p : Verdict) : Verdict := (!·) <$> p

/-- Both verdicts, the second one only after a satisfied first one. -/
def and (p q : Verdict) : Verdict := do if ← p then q else return false

/-- Either verdict, the second one only after an unsatisfied first one. -/
def or (p q : Verdict) : Verdict := do if ← p then return true else q

variable (p q r : Verdict)

theorem not_not : not (not p) = p := by
  cases p with
  | error f => rfl
  | ok a => cases a <;> rfl

theorem not_and : not (and p q) = or (not p) (not q) := by
  cases p with
  | error f => rfl
  | ok a => cases a <;> rfl

theorem not_or : not (or p q) = and (not p) (not q) := by
  cases p with
  | error f => rfl
  | ok a => cases a <;> rfl

theorem and_assoc : and (and p q) r = and p (and q r) := by
  cases p with
  | error f => rfl
  | ok a => cases a <;> rfl

theorem or_assoc : or (or p q) r = or p (or q r) := by
  cases p with
  | error f => rfl
  | ok a => cases a <;> rfl

theorem and_or : and p (or q r) = or (and p q) (and p r) := by
  cases p with
  | error f => rfl
  | ok a => cases a <;> rfl

theorem or_and : or p (and q r) = and (or p q) (or p r) := by
  cases p with
  | error f => rfl
  | ok a => cases a <;> rfl

/-- A failure on the right can be hidden, one on the left cannot. -/
example (f : Failure) :
    and (.ok false) (.error f) = .ok false ∧ and (.error f) (.ok false) = .error f :=
  ⟨rfl, rfl⟩

end Verdict

namespace Tree

/-- The verdict of a tree in a context. -/
def verdict (context : Value) (t : Tree) : Verdict := Value.truthy <$> t.eval context

/-- The negation of a tree. -/
abbrev not (a : Tree) : Tree := unary .not a

/-- The conjunction of two trees. -/
abbrev and (a b : Tree) : Tree := binary .and a b

/-- The disjunction of two trees. -/
abbrev or (a b : Tree) : Tree := binary .or a b

variable (context : Value) (a b c : Tree)

/-- An expression is satisfied by the verdict of its tree. -/
theorem isSatisfied_eq (e : Expression) : e.isSatisfied context = e.root.verdict context := rfl

/-! ### From trees to verdicts -/

/-- **Negation** looks at the verdict of its operand. -/
theorem eval_not : (not a).eval context = .bool <$> Verdict.not (a.verdict context) := by
  unfold verdict
  simp only [eval]
  cases a.eval context <;> rfl

/-- **Conjunction** looks at the verdicts of its operands. -/
theorem eval_and :
    (and a b).eval context = .bool <$> Verdict.and (a.verdict context) (b.verdict context) := by
  unfold verdict
  simp only [eval]
  cases a.eval context with
  | error f => rfl
  | ok v =>
    show (if v.truthy then _ else _) = Value.bool <$> (if v.truthy then _ else _)
    split
    · cases b.eval context <;> rfl
    · rfl

/-- **Disjunction** looks at the verdicts of its operands. -/
theorem eval_or :
    (or a b).eval context = .bool <$> Verdict.or (a.verdict context) (b.verdict context) := by
  unfold verdict
  simp only [eval]
  cases a.eval context with
  | error f => rfl
  | ok v =>
    show (if v.truthy then _ else _) = Value.bool <$> (if v.truthy then _ else _)
    split
    · rfl
    · cases b.eval context <;> rfl

/-- A truth value is satisfied if it is true. -/
theorem truthy_bool (p : Verdict) : Value.truthy <$> Value.bool <$> p = p := by
  cases p <;> rfl

theorem verdict_not : (not a).verdict context = Verdict.not (a.verdict context) := by
  rw [verdict, eval_not, truthy_bool]

theorem verdict_and :
    (and a b).verdict context = Verdict.and (a.verdict context) (b.verdict context) := by
  rw [verdict, eval_and, truthy_bool]

theorem verdict_or :
    (or a b).verdict context = Verdict.or (a.verdict context) (b.verdict context) := by
  rw [verdict, eval_or, truthy_bool]

/-! ### The laws -/

/-- **The laws of the connectives**, as equations between full outcomes: the same value, or the
same failure. -/
structure Lawful : Prop where
  not_and : (not (and a b)).eval context = (or (not a) (not b)).eval context
  not_or : (not (or a b)).eval context = (and (not a) (not b)).eval context
  and_assoc : (and (and a b) c).eval context = (and a (and b c)).eval context
  or_assoc : (or (or a b) c).eval context = (or a (or b c)).eval context
  and_or : (and a (or b c)).eval context = (or (and a b) (and a c)).eval context
  or_and : (or a (and b c)).eval context = (and (or a b) (or a c)).eval context
  /-- The value of `a` need not be a truth value, so only the verdicts are the same. -/
  not_not : (not (not a)).verdict context = a.verdict context

/-- **The laws hold** for all trees in every context, whatever the values of the operands, and
whichever of them fail. -/
theorem lawful : Lawful context a b c where
  not_and := by
    rw [eval_not, eval_or, verdict_and, verdict_not, verdict_not, Verdict.not_and]
  not_or := by
    rw [eval_not, eval_and, verdict_or, verdict_not, verdict_not, Verdict.not_or]
  and_assoc := by
    rw [eval_and, eval_and, verdict_and, verdict_and, Verdict.and_assoc]
  or_assoc := by
    rw [eval_or, eval_or, verdict_or, verdict_or, Verdict.or_assoc]
  and_or := by
    rw [eval_and, eval_or, verdict_or, verdict_and, verdict_and, Verdict.and_or]
  or_and := by
    rw [eval_or, eval_and, verdict_and, verdict_or, verdict_or, Verdict.or_and]
  not_not := by
    rw [verdict_not, verdict_not, Verdict.not_not]

end Tree

end StepFlow.Expression
