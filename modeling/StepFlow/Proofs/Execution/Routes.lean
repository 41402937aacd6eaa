import StepFlow.Execution.Route

/-!
# How a route is chosen

After a step a shortcut for the outcome comes first.  Without one the conditions of the branches
are evaluated in their order, until one of them does not come to false: if it holds, its branch is
the route, and if it fails, there is no route.  If all of them are false, the route is the default
(`Execution.Routing`).

The choice is made once more with a question for each condition that is evaluated
(`Execution.routeBy`), so that the questions can be kept (`Execution.routeLogged`).  No condition
is evaluated for a shortcut, and none after the one that decides; what stands behind it has no
influence on the route (`firstBranch_of_decides`, `Execution.routed`).
-/

namespace StepFlow

/-- The shortcut of a step for an outcome. -/
def Step.shortcut? (s : Step) (o : Outcome) : Option String :=
  if o.success then s.onSuccess else s.onFailure

/-- The route that a search of the branches of a step leads to. -/
def Step.routeOf (s : Step) : Option Branch → Route
  | some b => .branch b.name b.target
  | none => .default s.next.default

/-- The step with other branches. -/
def Step.withBranches (s : Step) (branches : List Branch) : Step :=
  { s with next := { s.next with branches } }

namespace Execution

variable {context : Value} {branches before after rest : List Branch} {b : Branch}

/-! ### The search for a branch -/

/-- The conditions of branches that come to false. -/
def Refused (context : Value) (branches : List Branch) : Prop :=
  ∀ b ∈ branches, Expression.decide b.condition context = .ok false

/-- **The ways to search branches**: with what is found, the branches whose conditions are
evaluated for it. -/
inductive Searching (context : Value) (branches : List Branch) :
    Except Expression.Failure (Option Branch) → List Branch → Prop
  | holds {before after : List Branch} {b : Branch} (listed : branches = before ++ b :: after)
      (refused : Refused context before)
      (holds : Expression.decide b.condition context = .ok true) :
    Searching context branches (.ok (some b)) (before ++ [b])
  | fails {before after : List Branch} {b : Branch} {f : Expression.Failure}
      (listed : branches = before ++ b :: after) (refused : Refused context before)
      (failed : Expression.decide b.condition context = .error f) :
    Searching context branches (.error f) (before ++ [b])
  | refuses (refused : Refused context branches) : Searching context branches (.ok none) branches

theorem Refused.cons (first : Expression.decide b.condition context = .ok false)
    (refused : Refused context rest) : Refused context (b :: rest) :=
  List.forall_mem_cons.mpr ⟨first, refused⟩

/-- A condition that comes to false is passed by. -/
theorem Searching.cons {found : Except Expression.Failure (Option Branch)} {seen : List Branch}
    (first : Expression.decide b.condition context = .ok false)
    (searching : Searching context rest found seen) :
    Searching context (b :: rest) found (b :: seen) := by
  cases searching with
  | holds listed refused holds => exact .holds (congrArg (b :: ·) listed) (refused.cons first) holds
  | fails listed refused failed =>
    exact .fails (congrArg (b :: ·) listed) (refused.cons first) failed
  | refuses refused => exact .refuses (refused.cons first)

/-- **A search goes one of the ways.** -/
theorem searching_firstBranch (context : Value) (branches : List Branch) :
    ∃ seen, Searching context branches (firstBranch context branches) seen := by
  induction branches with
  | nil => exact ⟨[], .refuses (List.forall_mem_nil _)⟩
  | cons b rest ih =>
    unfold firstBranch
    cases decided : Expression.decide b.condition context with
    | error f => exact ⟨[b], .fails (List.nil_append _).symm (List.forall_mem_nil _) decided⟩
    | ok holds =>
      cases holds with
      | true => exact ⟨[b], .holds (List.nil_append _).symm (List.forall_mem_nil _) decided⟩
      | false =>
        obtain ⟨seen, searching⟩ := ih
        exact ⟨b :: seen, searching.cons decided⟩

/-- **What stands behind a branch that decides** has no influence on the search. -/
theorem firstBranch_of_decides (decides : Expression.decide b.condition context ≠ .ok false)
    (before after other : List Branch) :
    firstBranch context (before ++ b :: after) = firstBranch context (before ++ b :: other) := by
  induction before with
  | nil =>
    show firstBranch context (b :: after) = firstBranch context (b :: other)
    unfold firstBranch
    cases decided : Expression.decide b.condition context with
    | error f => rfl
    | ok holds =>
      cases holds with
      | true => rfl
      | false => contradiction
  | cons c before ih =>
    show firstBranch context (c :: (before ++ b :: after)) =
      firstBranch context (c :: (before ++ b :: other))
    unfold firstBranch
    rw [ih]

/-! ### The choice, with its questions -/

section

variable {m : Type → Type} [Monad m]

/-- `firstBranch`, where `ask` evaluates a condition. -/
def searchBy (ask : String → m Bool) : List Branch → m (Option Branch)
  | [] => pure none
  | b :: rest => do
    if ← ask b.condition then return some b
    else searchBy ask rest

/-- `chooseRoute`, where `ask` evaluates a condition. -/
def routeBy (ask : String → m Bool) (s : Step) (o : Outcome) : m Route :=
  match s.shortcut? o with
  | some target => pure (.shortcut target)
  | none => do
    match ← searchBy ask s.next.branches with
    | some b => return .branch b.name b.target
    | none => return .default s.next.default

end

/-- What may fail, and keeps a list of questions. -/
abbrev Logged := ExceptT Expression.Failure (StateM (List String))

/-- Evaluates a condition, and keeps it. -/
def asking (context : Value) (condition : String) : Logged Bool := fun log =>
  (Expression.decide condition context, log ++ [condition])

/-- **The route after a step, with the conditions that are evaluated for it**, in their order. -/
def routeLogged (x : Execution) (s : Step) (o : Outcome) :
    Except Expression.Failure Route × List String :=
  routeBy (asking (x.branchContext o)) s o []

theorem searchBy_eq (context : Value) (branches : List Branch) :
    searchBy (Expression.decide · context) branches = firstBranch context branches := by
  induction branches with
  | nil => rfl
  | cons b rest ih =>
    unfold searchBy firstBranch
    rw [ih]

/-- Asking by evaluation is the choice itself. -/
theorem routeBy_eq (x : Execution) (s : Step) (o : Outcome) :
    routeBy (Expression.decide · (x.branchContext o)) s o = x.chooseRoute s o := by
  unfold routeBy chooseRoute
  rw [searchBy_eq]
  rfl

/-- What follows an answer is done with it. -/
theorem bind_answered {α β : Type} {ask : Logged α} {log log' : List String} {a : α}
    (came : ask log = (.ok a, log')) (next : α → Logged β) : (ask >>= next) log = next a log' := by
  show (match ask log with | (a, s) => ExceptT.bindCont next a s) = next a log'
  rw [came]
  rfl

/-- Nothing follows a failure. -/
theorem bind_failed {α β : Type} {ask : Logged α} {log log' : List String}
    {f : Expression.Failure} (came : ask log = (.error f, log')) (next : α → Logged β) :
    (ask >>= next) log = (.error f, log') := by
  show (match ask log with | (a, s) => ExceptT.bindCont next a s) = (.error f, log')
  rw [came]
  rfl

/-- A condition that comes to false is asked for, and the search goes on. -/
theorem searchBy_of_false (first : Expression.decide b.condition context = .ok false)
    (rest : List Branch) (log : List String) :
    searchBy (asking context) (b :: rest) log =
      searchBy (asking context) rest (log ++ [b.condition]) :=
  bind_answered (congrArg (·, log ++ [b.condition]) first) _

theorem searchBy_of_refused (refused : Refused context before) (rest : List Branch)
    (log : List String) :
    searchBy (asking context) (before ++ rest) log =
      searchBy (asking context) rest (log ++ before.map (·.condition)) := by
  induction before generalizing log with
  | nil => rw [List.map_nil, List.append_nil, List.nil_append]
  | cons c before ih =>
    obtain ⟨first, refused⟩ := List.forall_mem_cons.mp refused
    rw [List.cons_append, searchBy_of_false first, ih refused, List.append_assoc, List.map_cons,
      List.singleton_append]

/-- **A search asks for the conditions of its way**, and for no others. -/
theorem Searching.logged {found : Except Expression.Failure (Option Branch)} {seen : List Branch}
    (searching : Searching context branches found seen) (log : List String) :
    searchBy (asking context) branches log = (found, log ++ seen.map (·.condition)) := by
  cases searching with
  | holds listed refused holds =>
    rw [listed, searchBy_of_refused refused, List.map_append, ← List.append_assoc]
    exact bind_answered (congrArg (·, _) holds) _
  | fails listed refused failed =>
    rw [listed, searchBy_of_refused refused, List.map_append, ← List.append_assoc]
    exact bind_failed (congrArg (·, _) failed) _
  | refuses refused =>
    have all := searchBy_of_refused refused [] log
    rw [List.append_nil] at all
    exact all

/-- Nothing is evaluated behind a condition that fails. -/
example : searchBy (asking .null) [⟨none, "missing", "a"⟩, ⟨none, "-missing", "b"⟩,
    ⟨none, "true", "c"⟩] [] = (.error (.kind (.negate .null)), ["missing", "-missing"]) := by rfl

/-! ### Routes -/

/-- **The ways to a route after a step**: with the route or the failure, the conditions that are
evaluated for it. -/
inductive Routing (x : Execution) (s : Step) (o : Outcome) :
    Except Expression.Failure Route → List String → Prop
  | shortcut {target : String} (set : s.shortcut? o = some target) :
    Routing x s o (.ok (.shortcut target)) []
  | branches {found : Except Expression.Failure (Option Branch)} {seen : List Branch}
      (unset : s.shortcut? o = none)
      (searching : Searching (x.branchContext o) s.next.branches found seen) :
    Routing x s o (found.map s.routeOf) (seen.map (·.condition))

variable {x : Execution} {s : Step} {o : Outcome}

theorem chooseRoute_of_shortcut {target : String} (set : s.shortcut? o = some target) :
    x.chooseRoute s o = .ok (.shortcut target) := by
  unfold chooseRoute
  unfold Step.shortcut? at set
  rw [set]

theorem chooseRoute_of_unset (unset : s.shortcut? o = none) :
    x.chooseRoute s o = (firstBranch (x.branchContext o) s.next.branches).map s.routeOf := by
  unfold chooseRoute
  unfold Step.shortcut? at unset
  rw [unset]
  cases firstBranch (x.branchContext o) s.next.branches with
  | error f => rfl
  | ok found => cases found <;> rfl

/-- **A route is chosen in one of the ways.** -/
theorem routing_chooseRoute (x : Execution) (s : Step) (o : Outcome) :
    ∃ conditions, Routing x s o (x.chooseRoute s o) conditions := by
  cases shortcut : s.shortcut? o with
  | some target =>
    rw [chooseRoute_of_shortcut shortcut]
    exact ⟨[], .shortcut shortcut⟩
  | none =>
    rw [chooseRoute_of_unset shortcut]
    obtain ⟨seen, searching⟩ := searching_firstBranch (x.branchContext o) s.next.branches
    exact ⟨_, .branches shortcut searching⟩

/-- **A choice asks for the conditions of its way**, and for no others. -/
theorem Routing.logged {r : Except Expression.Failure Route} {conditions : List String}
    (routing : Routing x s o r conditions) : x.routeLogged s o = (r, conditions) := by
  unfold routeLogged routeBy
  cases routing with
  | shortcut set =>
    rw [set]
    rfl
  | branches unset searching =>
    rw [unset]
    have asked := searching.logged []
    cases searching with
    | holds => exact bind_answered asked _
    | fails => exact bind_failed asked _
    | refuses => exact bind_answered asked _

/-- The questions that are kept leave the choice as it is. -/
theorem routeLogged_eq (x : Execution) (s : Step) (o : Outcome) :
    (x.routeLogged s o).1 = x.chooseRoute s o := by
  obtain ⟨conditions, routing⟩ := routing_chooseRoute x s o
  rw [routing.logged]

theorem routeLogged_eq_iff {r : Except Expression.Failure Route} {conditions : List String} :
    x.routeLogged s o = (r, conditions) ↔ Routing x s o r conditions := by
  constructor
  · intro logged
    obtain ⟨_, routing⟩ := routing_chooseRoute x s o
    cases logged.symm.trans routing.logged
    exact routing
  · exact Routing.logged

/-- With a shortcut no branch has an influence on the route. -/
theorem chooseRoute_withBranches {target : String} (set : s.shortcut? o = some target)
    (other : List Branch) : x.chooseRoute (s.withBranches other) o = x.chooseRoute s o :=
  (chooseRoute_of_shortcut (s := s.withBranches other) set).trans
    (chooseRoute_of_shortcut set).symm

/-- The branches behind one that decides have no influence on the route. -/
theorem chooseRoute_of_decides (listed : s.next.branches = before ++ b :: after)
    (decides : Expression.decide b.condition (x.branchContext o) ≠ .ok false)
    (other : List Branch) :
    x.chooseRoute (s.withBranches (before ++ b :: other)) o = x.chooseRoute s o := by
  cases shortcut : s.shortcut? o with
  | some target => exact chooseRoute_withBranches shortcut _
  | none =>
    calc x.chooseRoute (s.withBranches (before ++ b :: other)) o
      _ = (firstBranch (x.branchContext o) (before ++ b :: other)).map s.routeOf :=
        chooseRoute_of_unset (s := s.withBranches (before ++ b :: other)) shortcut
      _ = (firstBranch (x.branchContext o) s.next.branches).map s.routeOf := by
        rw [listed, firstBranch_of_decides decides before other after]
      _ = x.chooseRoute s o := (chooseRoute_of_unset shortcut).symm

/-- Unless the route is the default, a shortcut or one of the branches decides it. -/
theorem Routing.exists_decides {r : Except Expression.Failure Route} {conditions : List String}
    (routing : Routing x s o r conditions) (decided : ∀ target, r ≠ .ok (.default target)) :
    (∃ target, s.shortcut? o = some target) ∨
      ∃ before b after, s.next.branches = before ++ b :: after ∧
        Expression.decide b.condition (x.branchContext o) ≠ .ok false := by
  cases routing with
  | shortcut set => exact .inl ⟨_, set⟩
  | branches unset searching =>
    right
    cases searching with
    | holds listed refused holds => exact ⟨_, _, _, listed, by rw [holds]; nofun⟩
    | fails listed refused failed => exact ⟨_, _, _, listed, by rw [failed]; nofun⟩
    | refuses refused => exact absurd rfl (decided s.next.default)

/-- Branches that are never reached can be appended. -/
theorem chooseRoute_append (decided : ∀ target, x.chooseRoute s o ≠ .ok (.default target))
    (extra : List Branch) :
    x.chooseRoute (s.withBranches (s.next.branches ++ extra)) o = x.chooseRoute s o := by
  obtain ⟨_, routing⟩ := routing_chooseRoute x s o
  rcases routing.exists_decides decided with ⟨target, set⟩ | ⟨before, b, after, listed, decides⟩
  · exact chooseRoute_withBranches set _
  · rw [listed, List.append_assoc, List.cons_append]
    exact chooseRoute_of_decides listed decides (after ++ extra)

/-- **How the route after a step is chosen.** -/
structure Routed (x : Execution) (s : Step) (o : Outcome) : Prop where
  /-- What is chosen, and the conditions that are evaluated for it, are those of one of the ways,
  and of no other. -/
  ways : ∀ r conditions, x.routeLogged s o = (r, conditions) ↔ Routing x s o r conditions
  /-- The choice by questions is the choice. -/
  asked : routeBy (Expression.decide · (x.branchContext o)) s o = x.chooseRoute s o
  /-- What is chosen does not depend on whether the questions are kept. -/
  chosen : (x.routeLogged s o).1 = x.chooseRoute s o
  /-- The branches behind one that decides have no influence. -/
  behind : ∀ before b after, s.next.branches = before ++ b :: after →
    Expression.decide b.condition (x.branchContext o) ≠ .ok false →
      ∀ other, x.chooseRoute (s.withBranches (before ++ b :: other)) o = x.chooseRoute s o
  /-- With a shortcut no branch has any. -/
  shortcut : ∀ target, s.shortcut? o = some target →
    ∀ other, x.chooseRoute (s.withBranches other) o = x.chooseRoute s o
  /-- Appended branches are reached only where the route was the default. -/
  appended : (∀ target, x.chooseRoute s o ≠ .ok (.default target)) →
    ∀ extra, x.chooseRoute (s.withBranches (s.next.branches ++ extra)) o = x.chooseRoute s o

/-- **How a route is chosen**, for every state, step and outcome. -/
theorem routed (x : Execution) (s : Step) (o : Outcome) : Routed x s o where
  ways _ _ := routeLogged_eq_iff
  asked := routeBy_eq x s o
  chosen := routeLogged_eq x s o
  behind _ _ _ listed decides other := chooseRoute_of_decides listed decides other
  shortcut _ set other := chooseRoute_withBranches set other
  appended decided extra := chooseRoute_append decided extra

end Execution

end StepFlow
