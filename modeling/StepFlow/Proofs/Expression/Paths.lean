import StepFlow.Expression.Eval

/-!
# What an expression reads

An expression looks at its context only through its paths (`Tree.paths`), and only through those
that its evaluation comes to (`Tree.reads`): nothing is looked up after a failure, and a connective
skips its right operand where the left one decides.  What is found there settles the value or the
failure of the expression (`Tree.eval_of_reads`), and so two contexts in which its paths find the
same cannot be told apart (`decide_congr`, `eval_of_indistinct`).

A path that leads nowhere reads as null.  So finding null and finding nothing are one and the same
to an expression (`Indistinct`).
-/

namespace StepFlow.Expression

/-- The paths of a tree. -/
def Tree.paths : Tree → List (List Segment)
  | literal _ => []
  | path segments => [segments]
  | unary _ x => x.paths
  | binary _ l r => l.paths ++ r.paths

variable {v w : Value}

/-! ### What is looked up -/

/-- Does evaluation go on with the right operand, after the left one came to `a`?  A connective
does without it where `a` decides. -/
def BinaryOp.goesOn (op : BinaryOp) (a : Value) : Bool :=
  match op with
  | .and => a.truthy
  | .or => !a.truthy
  | _ => true

/-- **An operator is applied to both of its operands**, unless the left one decides. -/
theorem Tree.eval_binary (context : Value) (op : BinaryOp) (l r : Tree) :
    (Tree.binary op l r).eval context = do
      let a ← l.eval context
      if op.goesOn a then
        let b ← r.eval context
        applyBinary op a b
      else return .bool a.truthy := by
  cases op with
  | and =>
    simp only [eval, BinaryOp.goesOn, applyBinary]
    congr 1
    funext a
    by_cases decided : a.truthy <;> simp [decided, pure, Except.pure]
  | or =>
    simp only [eval, BinaryOp.goesOn, applyBinary]
    congr 1
    funext a
    by_cases decided : a.truthy <;> simp [decided, pure, Except.pure]
  | _ => rfl

/-- **The paths that are looked up** when a tree is evaluated, in their order. -/
def Tree.reads (context : Value) : Tree → List (List Segment)
  | literal _ => []
  | path segments => [segments]
  | unary _ x => x.reads context
  | binary op l r =>
    l.reads context ++
      match l.eval context with
      | .ok a => if op.goesOn a then r.reads context else []
      | .error _ => []

/-- Only paths of the tree are looked up. -/
theorem Tree.reads_subset (context : Value) (t : Tree) : t.reads context ⊆ t.paths := by
  induction t with
  | literal => exact List.Subset.refl _
  | path => exact List.Subset.refl _
  | unary op x ih => exact ih
  | binary op l r left right =>
    refine List.append_subset.mpr ⟨List.subset_append_of_subset_left _ left, ?_⟩
    apply List.subset_append_of_subset_right
    split
    · split
      · exact right
      · exact List.nil_subset _
    · exact List.nil_subset _

/-! ### What is found -/

/-- **Two findings that an expression cannot tell apart**: the same one, or null and nothing. -/
inductive Indistinct : Option Value → Option Value → Prop
  | same (found : Option Value) : Indistinct found found
  | missing_null : Indistinct none (some .null)
  | null_missing : Indistinct (some .null) none

/-- Two findings are indistinct if they read as the same value. -/
theorem indistinct_iff {a b : Option Value} : Indistinct a b ↔ a.getD .null = b.getD .null := by
  constructor
  · intro alike
    cases alike <;> rfl
  · intro same
    cases a with
    | none =>
      cases b with
      | none => exact .same none
      | some y =>
        cases same
        exact .missing_null
    | some x =>
      cases b with
      | none =>
        cases same
        exact .null_missing
      | some y =>
        cases same
        exact .same _

/-- **What is looked up settles the value.**  If another context gives the same, or null for
nothing, at each path that is looked up, the tree has the same value or failure there. -/
theorem Tree.eval_of_reads {t : Tree}
    (alike : ∀ path ∈ t.reads v, Indistinct (lookup v path) (lookup w path)) :
    t.eval w = t.eval v := by
  induction t with
  | literal => rfl
  | path segments =>
    have found := indistinct_iff.mp (alike segments (List.mem_singleton_self segments))
    simp only [eval, found]
  | unary op x ih =>
    simp only [eval]
    rw [ih alike]
  | binary op l r left right =>
    have first : l.eval w = l.eval v :=
      left fun path read => alike path (List.mem_append_left _ read)
    rw [eval_binary, eval_binary, first]
    cases came : l.eval v with
    | error f => rfl
    | ok a =>
      cases on : op.goesOn a with
      | false => simp only [on, bind, Except.bind]; rfl
      | true =>
        have second : r.eval w = r.eval v := by
          refine right fun path read => alike path (List.mem_append_right _ ?_)
          simp only [came, on, if_true, read]
        rw [second]

/-- **A tree reads its context through its paths.** -/
theorem Tree.eval_congr {t : Tree} (same : ∀ path ∈ t.paths, lookup v path = lookup w path) :
    t.eval v = t.eval w := by
  refine (Tree.eval_of_reads fun path read => ?_).symm
  rw [same path (t.reads_subset v read)]
  exact .same _

/-! ### Conditions and expressions -/

/-- A condition that can be read is decided by its tree. -/
theorem decide_of_parse {e : Expression} (read : parse e.source = .ok e) (v : Value) :
    decide e.source v = e.isSatisfied v := by
  unfold decide
  rw [read]
  rfl

/-- **A condition reads its context through its paths.** -/
theorem decide_congr {source : String}
    (same : ∀ e, parse source = .ok e → ∀ path ∈ e.root.paths, lookup v path = lookup w path) :
    decide source v = decide source w := by
  unfold decide
  cases read : parse source with
  | error e => rfl
  | ok e =>
    show e.isSatisfied v = e.isSatisfied w
    unfold isSatisfied Expression.eval
    rw [Tree.eval_congr (same e read)]

/-- **An expression observes nothing but the paths it names**, and does not tell null from
nothing: in any two contexts in which each of its paths finds the same, or null in one and nothing
in the other, it has the same value or the same failure. -/
theorem eval_of_indistinct (e : Expression)
    (alike : ∀ path ∈ e.root.paths, Indistinct (lookup v path) (lookup w path)) :
    e.eval v = e.eval w ∧ e.isSatisfied v = e.isSatisfied w := by
  have same : e.eval v = e.eval w :=
    (Tree.eval_of_reads fun path read => alike path (e.root.reads_subset v read)).symm
  refine ⟨same, ?_⟩
  unfold isSatisfied
  rw [same]

/-- The expression `state.done && error == null`. -/
def settled : Expression where
  source := "state.done && error == null"
  root := .binary .and (.path [.key "state", .key "done"])
    (.binary .equal (.path [.key "error"]) (.literal .null))

/-- A context in which the error is null. -/
def nullError : Value := .obj [("error", .null), ("state", .obj [("done", .bool true)])]

/-- A context without an error, and with more than that expression names. -/
def noError : Value := .obj [("state", .obj [("done", .bool true), ("secret", .int 7)])]

/-- The two contexts are the same to the expression, which holds in both. -/
theorem eval_of_indistinct_settled :
    parse "state.done && error == null" = .ok settled ∧
      (∀ path ∈ settled.root.paths, Indistinct (lookup nullError path) (lookup noError path)) ∧
        settled.eval nullError = settled.eval noError ∧
          settled.eval nullError = .ok (.bool true) := by
  have alike : ∀ path ∈ settled.root.paths,
      Indistinct (lookup nullError path) (lookup noError path) := by
    intro path named
    rcases List.mem_cons.mp named with rfl | named
    · exact .same _
    · cases List.mem_singleton.mp named
      exact .null_missing
  exact ⟨by rfl, alike, (eval_of_indistinct settled alike).1, by rfl⟩

end StepFlow.Expression
