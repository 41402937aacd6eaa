import StepFlow.Proofs.Expression.Paths

/-!
# How evaluation ends

A tree has a value in a context, or it fails, and a failure is always the fault of one of its
operators: an operator on numbers fails on the kinds of its operands, a quotient or a remainder
also on zero, and `=~` on a pattern that is none (`Operator.Raises`, `Tree.failsBy_eval`).  So a
tree of comparisons, containments and connectives always has a value, whatever data it looks at,
and evaluation never fails on reading: reading is over once there is a tree.  A condition fails to
be read only if its text is no expression (`isEvaluated_decide`).

`FailsBy` is closed under binding and every operator satisfies it, so that the theorem about trees
is one case for each constructor.

Two definitions have branches that are there for completeness only: `applyBinary` has one for the
connectives, which evaluation decides itself, and `calculate` one for operators that are not
arithmetic.  Evaluation that would stop there is the same evaluation (`Tree.evalOrStop_eq`).
-/

namespace StepFlow.Expression

/-- An operator, on one operand or on two. -/
inductive Operator where
  | unary (op : UnaryOp)
  | binary (op : BinaryOp)
deriving Repr, DecidableEq

/-- The operators that compute with numbers. -/
def BinaryOp.isArithmetic : BinaryOp → Bool
  | add | subtract | multiply | divide | remainder => true
  | _ => false

namespace Operator

/-- The operators that give truth values. -/
def isLogical : Operator → Bool
  | unary op => op = .not
  | binary op => !op.isArithmetic

/-- The operators that have no value for some operands. -/
def isPartial : Operator → Bool
  | unary op => op = .negate
  | binary op => op.isArithmetic || op = .matchesPattern

/-- **Which failures are the fault of an operator.** -/
inductive Raises : Operator → Failure → Prop
  | negate (k : Kind) : Raises (unary .negate) (.kind (.negate k))
  | arithmetic {op : BinaryOp} (computes : op.isArithmetic) (left right : Kind) :
    Raises (binary op) (.kind (.arithmetic left right))
  | division : Raises (binary .divide) .divisionByZero
  | remainder : Raises (binary .remainder) .divisionByZero
  | patternKind (k : Kind) : Raises (binary .matchesPattern) (.kind (.pattern k))
  | patternText (text : String) : Raises (binary .matchesPattern) (.pattern text)

theorem Raises.isPartial {o : Operator} {f : Failure} (raised : o.Raises f) :
    o.isPartial = true := by
  cases raised with
  | arithmetic computes => simp only [Operator.isPartial, computes, Bool.true_or]
  | _ => rfl

end Operator

/-- The operators of a tree. -/
def Tree.applied : Tree → List Operator
  | literal _ => []
  | path _ => []
  | unary op x => .unary op :: x.applied
  | binary op l r => .binary op :: (l.applied ++ r.applied)

/-- The operator that a tree applies last. -/
def Tree.operator? : Tree → Option Operator
  | literal _ => none
  | path _ => none
  | unary op _ => some (.unary op)
  | binary op _ _ => some (.binary op)

/-! ### Failures -/

/-- **What operators can come to**: a value, or a failure that is the fault of one of them. -/
def FailsBy {α : Type} (operators : List Operator) (outcome : Except Failure α) : Prop :=
  ∀ f, outcome = .error f → ∃ o ∈ operators, o.Raises f

namespace FailsBy

variable {α β : Type} {operators others : List Operator} {outcome : Except Failure α}

theorem ok (a : α) : FailsBy operators (.ok a : Except Failure α) := by
  intro f failed
  cases failed

/-- A failure that an operator raises. -/
theorem raised {o : Operator} {f : Failure} (raises : o.Raises f) :
    FailsBy [o] (.error f : Except Failure α) := by
  intro g failed
  cases failed
  exact ⟨o, List.mem_singleton_self o, raises⟩

theorem mono (fails : FailsBy operators outcome) (more : operators ⊆ others) :
    FailsBy others outcome := by
  intro f failed
  obtain ⟨o, listed, raises⟩ := fails f failed
  exact ⟨o, more listed, raises⟩

/-- Evaluating one thing after another fails by what either of them fails by. -/
theorem bind {next : α → Except Failure β} (fails : FailsBy operators outcome)
    (rest : ∀ a, FailsBy operators (next a)) : FailsBy operators (outcome >>= next) := by
  intro f failed
  cases outcome with
  | ok a => exact rest a f failed
  | error g =>
    cases failed
    exact fails f rfl

theorem map (g : α → β) (fails : FailsBy operators outcome) :
    FailsBy operators (g <$> outcome) := by
  intro f failed
  cases outcome with
  | ok a => cases failed
  | error e =>
    cases failed
    exact fails f rfl

end FailsBy

variable {op : BinaryOp} {l r : Value}

theorem failsBy_calculate (op : BinaryOp) (x y : Double) :
    FailsBy [.binary op] (calculate op x y) := by
  unfold calculate
  split
  · exact .ok _
  · exact .ok _
  · split
    · exact .raised .division
    · exact .ok _
  · split
    · exact .raised .remainder
    · exact .ok _
  · exact .ok _

theorem failsBy_arithmetic (computes : op.isArithmetic) (l r : Value) :
    FailsBy [.binary op] (arithmetic op l r) := by
  unfold arithmetic
  split
  · exact failsBy_calculate op _ _
  · exact .raised (.arithmetic computes _ _)

theorem failsBy_addOrJoin (l r : Value) : FailsBy [.binary .add] (addOrJoin l r) := by
  unfold addOrJoin
  split
  · exact .ok _
  · exact .ok _
  · exact failsBy_arithmetic rfl l r

theorem failsBy_matchPattern (l r : Value) :
    FailsBy [.binary .matchesPattern] (matchPattern l r) := by
  unfold matchPattern
  split
  · exact .raised (.patternKind _)
  · split
    · exact .raised (.patternText _)
    · exact .ok _

/-- **An operator on two operands fails by itself.** -/
theorem failsBy_applyBinary (op : BinaryOp) (l r : Value) :
    FailsBy [.binary op] (applyBinary op l r) := by
  cases op with
  | matchesPattern => exact (failsBy_matchPattern l r).map _
  | add => exact failsBy_addOrJoin l r
  | subtract => exact failsBy_arithmetic rfl l r
  | multiply => exact failsBy_arithmetic rfl l r
  | divide => exact failsBy_arithmetic rfl l r
  | remainder => exact failsBy_arithmetic rfl l r
  | _ => exact .ok _

theorem failsBy_applyUnary (op : UnaryOp) (v : Value) :
    FailsBy [.unary op] (applyUnary op v) := by
  cases op with
  | not => exact .ok _
  | negate =>
    unfold applyUnary
    simp only
    split
    · exact .ok _
    · exact .raised (.negate _)

/-- **A tree fails by one of its operators.** -/
theorem Tree.failsBy_eval (context : Value) (t : Tree) :
    FailsBy t.applied (t.eval context) := by
  induction t with
  | literal v => exact .ok v
  | path segments => exact .ok _
  | unary op x ih =>
    simp only [eval]
    refine (ih.mono (List.subset_cons_self _ _)).bind fun v => ?_
    exact (failsBy_applyUnary op v).mono (List.cons_subset_cons _ (List.nil_subset _))
  | binary op l r left right =>
    have ofLeft : l.applied ⊆ (Tree.binary op l r).applied :=
      List.subset_cons_of_subset _ (List.subset_append_left _ _)
    have ofRight : r.applied ⊆ (Tree.binary op l r).applied :=
      List.subset_cons_of_subset _ (List.subset_append_right _ _)
    rw [eval_binary]
    refine (left.mono ofLeft).bind fun a => ?_
    split
    · refine (right.mono ofRight).bind fun b => ?_
      exact (failsBy_applyBinary op a b).mono (List.cons_subset_cons _ (List.nil_subset _))
    · exact .ok _

/-- A tree has a value in every context if each of its operators has one for all operands. -/
theorem Tree.exists_value {t : Tree} (total : ∀ o ∈ t.applied, o.isPartial = false)
    (context : Value) : ∃ v, t.eval context = .ok v := by
  cases came : t.eval context with
  | ok v => exact ⟨v, rfl⟩
  | error f =>
    obtain ⟨o, listed, raises⟩ := t.failsBy_eval context f came
    cases (total o listed).symm.trans raises.isPartial

example (context : Value) :
    ∃ v, (Tree.binary .contains (.path [.key "tags"]) (.literal .null)).eval context = .ok v :=
  Tree.exists_value (by decide) context

/-! ### Reading is over -/

/-- **What evaluation can come to**: a value, or a failure that is not one of
reading. -/
def IsEvaluated {α : Type} (o : Except Failure α) : Prop := ∀ e, o ≠ .error (.read e)

/-- No operator fails on reading. -/
theorem FailsBy.isEvaluated {α : Type} {operators : List Operator} {outcome : Except Failure α}
    (fails : FailsBy operators outcome) : IsEvaluated outcome := by
  intro e failed
  obtain ⟨o, -, raises⟩ := fails _ failed
  cases raises

/-- **A condition that is an expression never fails on reading**, in no context. -/
theorem isEvaluated_decide {source : String} {e : Expression} (h : parse source = .ok e)
    (context : Value) : IsEvaluated (decide source context) := by
  unfold decide
  rw [h]
  exact ((e.root.failsBy_eval context).map _).isEvaluated

/-! ### Truth values -/

/-- **An outcome that is a truth value**, if it is a value at all. -/
def IsTruth (outcome : Except Failure Value) : Prop := ∀ v, outcome = .ok v → ∃ b, v = .bool b

namespace IsTruth

theorem bool (b : Bool) : IsTruth (.ok (.bool b)) := by
  intro v valued
  cases valued
  exact ⟨b, rfl⟩

/-- What comes last says which value it is. -/
theorem bind {α : Type} {outcome : Except Failure α} {next : α → Except Failure Value}
    (last : ∀ a, IsTruth (next a)) : IsTruth (outcome >>= next) := by
  intro v valued
  cases outcome with
  | ok a => exact last a v valued
  | error f => cases valued

theorem map (outcome : Except Failure Bool) : IsTruth (.bool <$> outcome) := by
  intro v valued
  cases outcome with
  | ok b => exact bool b v valued
  | error f => cases valued

end IsTruth

theorem isTruth_applyBinary (logical : (Operator.binary op).isLogical) (l r : Value) :
    IsTruth (applyBinary op l r) := by
  cases op with
  | matchesPattern => exact .map _
  | add | subtract | multiply | divide | remainder => cases logical
  | _ => exact .bool _

/-- **A tree comes to a truth value** if its last operator gives truth values. -/
theorem Tree.isTruth_eval {t : Tree} {o : Operator} (last : t.operator? = some o)
    (logical : o.isLogical) (context : Value) : IsTruth (t.eval context) := by
  cases t with
  | literal => cases last
  | path => cases last
  | unary op x =>
    cases last
    cases op with
    | negate => cases logical
    | not => exact .bind fun v => .bool _
  | binary op l r =>
    cases last
    rw [eval_binary]
    refine .bind fun a => ?_
    split
    · exact .bind fun b => isTruth_applyBinary logical a b
    · exact .bool _

/-! ### Branches that are never taken -/

/-- **Why evaluation stops without a value**: it fails, or it takes a branch that is there for
completeness only. -/
inductive Stop where
  | failed (f : Failure)
  | unreachable
deriving Repr, DecidableEq

/-- `calculate`, without an answer for an operator that is not arithmetic. -/
def calculateOrStop (op : BinaryOp) (x y : Double) : Except Stop Value :=
  if op.isArithmetic then (calculate op x y).mapError .failed else .error .unreachable

/-- `arithmetic` by way of `calculateOrStop`. -/
def arithmeticOrStop (op : BinaryOp) (l r : Value) : Except Stop Value :=
  match l.toDouble?, r.toDouble? with
  | some x, some y => calculateOrStop op x y
  | _, _ => .error (.failed (.kind (.arithmetic l.kind r.kind)))

/-- The text that two values are joined to, if one of them is a text. -/
def joined? (l r : Value) : Option Value :=
  match l, r with
  | .str a, b => some (.str (a ++ b.display))
  | a, .str b => some (.str (a.display ++ b))
  | _, _ => none

/-- `addOrJoin` by way of `calculateOrStop`. -/
def addOrJoinOrStop (l r : Value) : Except Stop Value :=
  match joined? l r with
  | some text => .ok text
  | none => arithmeticOrStop .add l r

/-- `applyBinary`, without an answer for a connective. -/
def applyBinaryOrStop (op : BinaryOp) (l r : Value) : Except Stop Value :=
  match op with
  | .and => .error .unreachable
  | .or => .error .unreachable
  | .add => addOrJoinOrStop l r
  | .subtract => arithmeticOrStop .subtract l r
  | .multiply => arithmeticOrStop .multiply l r
  | .divide => arithmeticOrStop .divide l r
  | .remainder => arithmeticOrStop .remainder l r
  | op => (applyBinary op l r).mapError .failed

/-- **Evaluation that stops at the branches that are there for completeness only.** -/
def Tree.evalOrStop (context : Value) : Tree → Except Stop Value
  | .literal v => .ok v
  | .path segments => .ok ((lookup context segments).getD .null)
  | .unary op x => do (applyUnary op (← x.evalOrStop context)).mapError .failed
  | .binary .and l r => do
    if (← l.evalOrStop context).truthy then return .bool (← r.evalOrStop context).truthy
    else return .bool false
  | .binary .or l r => do
    if (← l.evalOrStop context).truthy then return .bool true
    else return .bool (← r.evalOrStop context).truthy
  | .binary op l r => do
    let a ← l.evalOrStop context
    let b ← r.evalOrStop context
    applyBinaryOrStop op a b

/-- Naming the failures of one thing after another is naming those of each. -/
theorem mapError_bind {ε δ α β : Type} (g : ε → δ) (o : Except ε α) (next : α → Except ε β) :
    (o >>= next).mapError g = o.mapError g >>= fun a => (next a).mapError g := by
  cases o <;> rfl

theorem arithmeticOrStop_eq (computes : op.isArithmetic) (l r : Value) :
    arithmeticOrStop op l r = (arithmetic op l r).mapError .failed := by
  unfold arithmeticOrStop arithmetic
  cases l.toDouble? with
  | none => rfl
  | some x =>
    cases r.toDouble? with
    | none => rfl
    | some y => exact if_pos computes

theorem addOrJoin_eq (l r : Value) :
    addOrJoin l r = (joined? l r).elim (arithmetic .add l r) .ok := by
  cases l <;> cases r <;> rfl

theorem addOrJoinOrStop_eq (l r : Value) :
    addOrJoinOrStop l r = (addOrJoin l r).mapError .failed := by
  rw [addOrJoin_eq]
  unfold addOrJoinOrStop
  cases joined? l r with
  | some text => rfl
  | none => exact arithmeticOrStop_eq rfl l r

theorem applyBinaryOrStop_eq (conjunction : op ≠ .and) (disjunction : op ≠ .or) (l r : Value) :
    applyBinaryOrStop op l r = (applyBinary op l r).mapError .failed := by
  cases op with
  | and => contradiction
  | or => contradiction
  | add => exact addOrJoinOrStop_eq l r
  | subtract | multiply | divide | remainder => exact arithmeticOrStop_eq rfl l r
  | _ => rfl

/-- **Evaluation never comes to a branch that is there for completeness only.** -/
theorem Tree.evalOrStop_eq (context : Value) (t : Tree) :
    t.evalOrStop context = (t.eval context).mapError .failed := by
  fun_induction Tree.eval context t with
  | case1 v => rfl
  | case2 segments => rfl
  | case3 op x ih => simp only [evalOrStop, mapError_bind, ih]
  | case4 l r left right =>
    simp only [evalOrStop, mapError_bind, left, right]
    congr 1
    funext a
    split
    · simp only [mapError_bind]
      rfl
    · rfl
  | case5 l r left right =>
    simp only [evalOrStop, mapError_bind, left, right]
    congr 1
    funext a
    split
    · rfl
    · simp only [mapError_bind]
      rfl
  | case6 op l r conjunction disjunction left right =>
    simp only [evalOrStop, mapError_bind, left, right]
    congr 1
    funext a
    congr 1
    funext b
    exact applyBinaryOrStop_eq conjunction disjunction a b

/-! ### All ends of an evaluation -/

/-- **How a tree ends in a context**, by the operators that it has. -/
structure Tree.Ends (t : Tree) (context : Value) : Prop where
  /-- Without unary minus, arithmetic and `=~` there is a value. -/
  value : (∀ o ∈ t.applied, o.isPartial = false) → ∃ v, t.eval context = .ok v
  /-- Only a quotient or a remainder fails on zero. -/
  division : t.eval context = .error .divisionByZero →
    .binary .divide ∈ t.applied ∨ .binary .remainder ∈ t.applied
  /-- Only `=~` fails on a pattern. -/
  pattern : ∀ text, t.eval context = .error (.pattern text) →
    .binary .matchesPattern ∈ t.applied
  /-- Only unary minus, arithmetic and `=~` fail on a kind. -/
  kind : ∀ fault, t.eval context = .error (.kind fault) → ∃ o ∈ t.applied, o.isPartial = true
  /-- Reading is over. -/
  read : ∀ e, t.eval context ≠ .error (.read e)
  /-- Evaluation that would stop at a branch that is there for completeness only is the same
  evaluation. -/
  same : t.evalOrStop context = (t.eval context).mapError .failed
  /-- It comes to no such branch. -/
  reached : t.evalOrStop context ≠ .error .unreachable
  /-- Negations, connectives, comparisons, containments and matches are truth values. -/
  truth : ∀ o v, t.operator? = some o → o.isLogical = true → t.eval context = .ok v →
    ∃ b, v = .bool b

/-- **How evaluation ends**, for every tree in every context. -/
theorem Tree.ends_eval (t : Tree) (context : Value) : t.Ends context := by
  have fails := t.failsBy_eval context
  have same := t.evalOrStop_eq context
  constructor
  · exact fun total => t.exists_value total context
  · intro failed
    obtain ⟨o, listed, raises⟩ := fails _ failed
    cases raises with
    | division => exact .inl listed
    | remainder => exact .inr listed
  · intro text failed
    obtain ⟨o, listed, raises⟩ := fails _ failed
    cases raises
    exact listed
  · intro fault failed
    obtain ⟨o, listed, raises⟩ := fails _ failed
    exact ⟨o, listed, raises.isPartial⟩
  · exact fails.isEvaluated
  · exact same
  · intro stopped
    rw [same] at stopped
    cases came : t.eval context with
    | ok v => rw [came] at stopped; cases stopped
    | error f => rw [came] at stopped; cases stopped
  · exact fun o v last logical valued => isTruth_eval last logical context v valued

end StepFlow.Expression
