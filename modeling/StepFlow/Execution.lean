import StepFlow.Fault
import StepFlow.Pipeline

/-!
# The state of a run

An **execution** is one run of a pipeline: where it stands, what its steps came
to, the global state, the bookkeeping of the loop at the current step, and the
path it took.  This module has its elementary changes; each is a function from
one state to the next, and none of them looks at the clock (`touch` does).

A run is running, waits for a person, or is over: completed or failed.
-/

namespace StepFlow

/-- **The id of an execution**, a number of 128 bits in its text. -/
structure ExecutionId where
  number : Nat
deriving Repr, DecidableEq

/-- **The status of a run.** -/
inductive Status where
  | running | waiting | completed | failed
deriving Repr, DecidableEq

namespace Status

/-- The word for a status. -/
def word : Status → String
  | running => "running"
  | waiting => "waiting_for_human"
  | completed => "completed"
  | failed => "failed"

/-- A run that is over never changes again. -/
def isOver : Status → Bool
  | completed => true
  | failed => true
  | _ => false

end Status

/-- **One run of a pipeline.** -/
structure Execution where
  pipelineId : String
  id : ExecutionId
  /-- The id of the current step. -/
  current : String
  status : Status
  /-- What each step came to last. -/
  results : Table ToolResult
  globalState : Table Value
  /-- The counters of counting loops. -/
  counters : Table Int64
  /-- How often a looping step has repeated so far. -/
  iterations : Table UInt32
  /-- The steps visited, in order. -/
  path : List String
  started : Instant
  updated : Instant
  error : Option ExecutionError := none
  /-- What a person last gave as input. -/
  humanInput : Option Value := none

namespace Execution

/-- **A fresh run** of a pipeline: at its start, with its global state overlaid by
`initial`. -/
def fresh (p : Pipeline) (initial : Table Value) (id : ExecutionId) (now : Instant) :
    Execution where
  pipelineId := p.id
  id
  current := p.start
  status := .running
  results := .empty
  globalState := p.globalState.overlay initial
  counters := .empty
  iterations := .empty
  path := [p.start]
  started := now
  updated := now

/-- Notes the time of a change. -/
def touch (x : Execution) (now : Instant) : Execution := { x with updated := now }

/-- Is the run running? -/
def isRunning (x : Execution) : Bool := x.status = .running

/-- Goes to a step. -/
def moveTo (x : Execution) (step : String) : Execution :=
  { x with current := step, path := x.path ++ [step] }

/-- Ends the run well. -/
def complete (x : Execution) : Execution := { x with status := .completed }

/-- Waits for a person. -/
def suspend (x : Execution) : Execution := { x with status := .waiting }

/-- Ends the run with a fault at the current step. -/
def fail (x : Execution) (f : Fault) : Execution :=
  { x with status := .failed, error := some (f.capture (some x.current)) }

/-- Overlays the global state. -/
def merge (x : Execution) (changes : Table Value) : Execution :=
  { x with globalState := x.globalState.overlay changes }

/-- The key of the global state that shows the last data. -/
def lastResultKey : String := "lastResult"

/-- **Records what a step came to.**  The data of a success shows in the global
state. -/
def record (x : Execution) (step : String) (r : ToolResult) : Execution :=
  { x with
    results := x.results.insert step r
    globalState := match r.success, r.data with
      | true, some data => x.globalState.insert lastResultKey data
      | _, _ => x.globalState }

/-- Forgets the loop of a step. -/
def resetLoop (x : Execution) (step : String) : Execution :=
  { x with counters := x.counters.erase step, iterations := x.iterations.erase step }

/-- How often a step has repeated so far. -/
def iterationsOf (x : Execution) (step : String) : UInt32 := (x.iterations.get? step).getD 0

end Execution

end StepFlow
