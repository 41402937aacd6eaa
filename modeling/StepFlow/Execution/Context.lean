import StepFlow.Execution.Format
import StepFlow.Value.Path

/-!
# What conditions and parameters see

Conditions are evaluated against an object made from the state of the run, and
parameters are read from the results of earlier steps.  A parameter whose source
has no result, no data, or nothing at the path is left out; the global state is
always handed over.
-/

namespace StepFlow

namespace Execution

/-- **What the condition of a loop sees**: the global state under two names, the
results, and the counter and the repetitions of the step. -/
def loopContext (x : Execution) (step : String) : Value :=
  .record
    [("globalState", some (.ofTable x.globalState)),
      ("state", some (.ofTable x.globalState)),
      ("results", some x.resultsValue),
      ("counter", some (((x.counters.get? step).map fun n => .int n.toInt).getD .null)),
      ("iteration", some (.ofNat (x.iterationsOf step).toNat))]

/-- **What the condition of a branch sees**: the data, the success and the error of
the step, the global state and the results. -/
def branchContext (x : Execution) (o : Outcome) : Value :=
  .record
    [("result", some (o.data.getD .null)),
      ("state", some (.ofTable x.globalState)),
      ("success", some (.bool o.success)),
      ("error", some ((o.error.map ErrorReport.toValue).getD .null)),
      ("results", some x.resultsValue)]

/-- What a binding hands over. -/
def resolve (x : Execution) : Binding → Option Value
  | .static v => some v
  | .dynamic source path => do
    let result ← x.results.get? source
    let data ← result.data
    Path.resolve data path

/-- The name of the parameter that carries the global state. -/
def globalStateKey : String := "globalState"

/-- Writes the parameters that can be resolved. -/
def resolveAll (x : Execution) : Entries Binding → Table Value → Table Value
  | [], t => t
  | (name, b) :: rest, t =>
    match x.resolve b with
    | some v => x.resolveAll rest (t.insert name v)
    | none => x.resolveAll rest t

/-- **The parameters of a step.** -/
def parameters (x : Execution) (s : Step) : Table Value :=
  (x.resolveAll s.parameters.entries .empty).insert globalStateKey (.ofTable x.globalState)

end Execution

end StepFlow
