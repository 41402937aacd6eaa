import StepFlow.Execution.Context
import StepFlow.Expression.Eval
import StepFlow.Human

/-!
# Where a run goes next

Before a looping step is entered, its loop decides whether it repeats once more
(`Execution.decideLoop`).  After a step, the run takes a **route**: a shortcut
for success or failure, the first branch whose condition holds, or the default.
A looping step that is not routed explicitly goes on with itself, until its
loop decides otherwise.
-/

namespace StepFlow

/-- **How the next step was found.** -/
inductive Route where
  | shortcut (target : String)
  | branch (name : Option String) (target : String)
  | default (target : Option String)
deriving Repr, DecidableEq

namespace Route

/-- Where a route leads. -/
def target : Route → Option String
  | shortcut t => some t
  | branch _ t => some t
  | default t => t

/-- Did the step choose the target, or was there nothing else? -/
def isExplicit : Route → Bool
  | default _ => false
  | _ => true

end Route

/-- The sum of two words, kept within their range. -/
def saturatingAdd (a b : Int64) : Int64 :=
  .ofInt (max Int64.minValue.toInt (min Int64.maxValue.toInt (a.toInt + b.toInt)))

namespace Execution

/-- Notes one more repetition of a step. -/
def countIteration (x : Execution) (step : String) : Execution :=
  { x with iterations := x.iterations.insert step (x.iterationsOf step + 1) }

/-- **Decides whether a looping step repeats once more**, and keeps count.  The
counter of a counting loop starts at its first decision and advances whenever it
is below the limit. -/
def decideLoop (x : Execution) (step : String) (l : Loop) :
    Except Expression.Failure (Bool × Execution) :=
  if l.limit ≤ x.iterationsOf step then .ok (false, x)
  else
    match l with
    | .counting start increment limit =>
      let counter := (x.counters.get? step).getD start
      if counter.toInt < limit.toNat then
        let counters := x.counters.insert step (saturatingAdd counter increment)
        .ok (true, { x with counters }.countIteration step)
      else .ok (false, { x with counters := x.counters.insert step counter })
    | .whileTrue condition _ => do
      if ← Expression.decide condition (x.loopContext step) then return (true, x.countIteration step)
      else return (false, x)
    | .untilTrue condition _ => do
      if ← Expression.decide condition (x.loopContext step) then return (false, x)
      else return (true, x.countIteration step)

/-- The first branch whose condition holds. -/
def firstBranch (context : Value) : List Branch → Except Expression.Failure (Option Branch)
  | [] => .ok none
  | b :: rest => do
    if ← Expression.decide b.condition context then return some b
    else firstBranch context rest

/-- **The route after a step** that came to `o`. -/
def chooseRoute (x : Execution) (s : Step) (o : Outcome) : Except Expression.Failure Route :=
  match if o.success then s.onSuccess else s.onFailure with
  | some target => .ok (.shortcut target)
  | none => do
    match ← firstBranch (x.branchContext o) s.next.branches with
    | some b => return .branch b.name b.target
    | none => return .default s.next.default

/-- Goes from a step to the next: to none or to the end marker is the end, to the
step itself is no move. -/
def transition (x : Execution) (s : Step) (next : Option String) : Execution :=
  match next with
  | none => (x.resetLoop s.id).complete
  | some target =>
    if target = endMarker then (x.resetLoop s.id).complete
    else if target = s.id then x
    else (x.resetLoop s.id).moveTo target

/-- Where a route leads from a step: a looping step repeats unless it was routed
explicitly. -/
def nextTarget (s : Step) (r : Route) : Option String :=
  if s.loop.isSome && !r.isExplicit then some s.id else r.target

/-- Is this the failure that strict settings do not pass over? -/
def isUnroutedFailure (r : Route) (o : Outcome) : Bool := !o.success && !r.isExplicit

/-- The fault of a step whose failure nothing routes. -/
def unroutedFault (s : Step) (o : Outcome) : Fault :=
  .toolFailed s.id s.tool (o.error.getD ⟨"TOOL_EXECUTION_ERROR", ""⟩)

/-- **Follows a route.** -/
def follow (x : Execution) (strict : Bool) (s : Step) (r : Route) (o : Outcome) : Execution :=
  if strict && isUnroutedFailure r o then x.fail (unroutedFault s o)
  else x.transition s (nextTarget s r)

/-- **What a step comes to**: its result is recorded, and the run takes its route.
The route is absent if a condition has no value, and then the run has failed. -/
def conclude (x : Execution) (strict : Bool) (s : Step) (r : ToolResult) :
    Option Route × Execution :=
  let x := x.record s.id r
  match x.chooseRoute s r.toOutcome with
  | .error f => (none, x.fail (.expression f))
  | .ok route => (some route, x.follow strict s route r.toOutcome)

/-- **Passes the gate of a step** that waits for a person: the step succeeds with
the input as its data. -/
def passGate (x : Execution) (strict : Bool) (p : Pipeline) (input : Option Value) (now : Instant) :
    Execution :=
  match p.step? x.current with
  | none => x.fail (.stepNotFound x.current)
  | some s => (x.conclude strict s ⟨.succeeded input, .instantaneous now⟩).2

/-- **Takes in a response** of a person to a waiting run. -/
def respond (x : Execution) (strict : Bool) (p : Pipeline) (r : HumanResponse) (now : Instant) :
    Execution :=
  let y := ({ x with status := .running, humanInput := r.input }).merge (r.modifications.getD .empty)
  if r.approved then y.passGate strict p r.input now
  else y.fail (.rejected x.current r.notes)

end Execution

end StepFlow
