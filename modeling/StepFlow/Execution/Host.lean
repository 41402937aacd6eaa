import StepFlow.Human
import StepFlow.Settings

/-!
# What surrounds a run

A run calls tools, tells what happens, asks people and lets time pass.  It does
so through a **host**: operations on a state `σ` that the run itself never looks
into.  Everything a run does to the world is one of these operations, so the
rules of a run can be stated for every host, whatever its tools answer and
whenever it is told to cancel.
-/

namespace StepFlow

/-- **What happens in a run**, as its observers are told. -/
inductive Event where
  | started (pipelineId name : String)
  | stepStarted (step : String)
  | stepRetrying (step : String) (attempt : Nat)
  | stepCompleted (step : String) (attempts : Nat) (next : Option String)
  | stepFailed (step : String) (attempts : Nat) (message : String)
  | loopIteration (step : String) (iteration : UInt32)
  | loopExited (step : String) (iterations : UInt32)
  | humanRequested (step : String)
  | humanReceived (step : String) (approved : Bool)
  | finished (status : Status)
deriving Repr, DecidableEq

/-- What a tool is called for: an attempt at a step, or the hook at the end. -/
inductive Purpose where
  | attempt (execution : ExecutionId) (step : String)
  | hook (execution : ExecutionId)
deriving Repr, DecidableEq

/-- The run in whose name a tool is called. -/
def Purpose.execution : Purpose → ExecutionId
  | attempt id _ => id
  | hook id => id

/-- **A call of a tool.** -/
structure Call where
  purpose : Purpose
  tool : String
  parameters : Table Value

/-- **The surroundings of a run.** -/
structure Host (σ : Type) where
  /-- The time. -/
  now : σ → Instant
  /-- Has anyone asked to cancel a run? -/
  isCancelled : ExecutionId → σ → Bool
  /-- Calls a tool that may take so many seconds. -/
  call : Call → (timeout : UInt64) → σ → ToolResult × σ
  /-- Tells what happens in a run. -/
  emit : ExecutionId → Event → σ → σ
  /-- Lets milliseconds pass. -/
  pause : UInt64 → σ → σ
  /-- Shows the state of a run to others. -/
  publish : Execution → σ → σ
  /-- Asks a person. -/
  ask : HumanRequest → σ → σ

end StepFlow
