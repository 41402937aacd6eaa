import StepFlow.Instant
import StepFlow.Value

/-!
# What a tool call comes to

A tool answers with data or with an **error** (`ToolError`).  Either way the
call has an **outcome**: it succeeded or not, with or without data, with or
without the report of an error.  An outcome with the times of the call is a
**result**, and results are what a run records.

Data that is null and no data at all are two things.
-/

namespace StepFlow

/-- **What a tool can err with.** -/
inductive ToolError where
  | notFound (name : String)
  | invalidParameters (text : String)
  | failed (code text : String)
  | timedOut (seconds : UInt64)
  | internal (text : String)
deriving Repr, DecidableEq

namespace ToolError

/-- The code of an error. -/
def code : ToolError → String
  | notFound _ => "TOOL_NOT_FOUND"
  | invalidParameters _ => "INVALID_PARAMETERS"
  | failed code _ => code
  | timedOut _ => "TIMEOUT"
  | internal _ => "TOOL_EXECUTION_ERROR"

/-- The wording of an error, its own code included. -/
def display : ToolError → String
  | notFound name => "Tool not found: " ++ name
  | invalidParameters text => "Invalid parameters: " ++ text
  | failed code text => "[" ++ code ++ "] " ++ text
  | timedOut seconds => "Timeout after " ++ toString seconds.toNat ++ " seconds"
  | internal text => "Internal error: " ++ text

/-- The wording of an error beside its code. -/
def message : ToolError → String
  | failed _ text => text
  | e => e.display

end ToolError

/-- The report of an error. -/
structure ErrorReport where
  code : String
  message : String
deriving Repr, DecidableEq

/-- The report of what a tool erred with. -/
def ToolError.report (e : ToolError) : ErrorReport := ⟨e.code, e.message⟩

/-- **What a call came to.** -/
structure Outcome where
  success : Bool
  data : Option Value := none
  error : Option ErrorReport := none

namespace Outcome

/-- A success. -/
def succeeded (data : Option Value) : Outcome := { success := true, data }

/-- A failure with its report. -/
def failed (report : ErrorReport) : Outcome := { success := false, error := some report }

/-- The failure that an error amounts to. -/
def ofError (e : ToolError) : Outcome := failed e.report

/-- The outcome of a tool that answers with data or errs; null is no data. -/
def ofAnswer : Except ToolError Value → Outcome
  | .ok .null => succeeded none
  | .ok data => succeeded (some data)
  | .error e => ofError e

/-- The message of a failure, empty if there is no report. -/
def errorMessage (o : Outcome) : String := (o.error.map (·.message)).getD ""

end Outcome

/-- The times of a call. -/
structure Metrics where
  start : Instant
  stop : Instant
  latency : UInt64
deriving Repr, DecidableEq

/-- The times of something that took no time. -/
def Metrics.instantaneous (now : Instant) : Metrics := ⟨now, now, 0⟩

/-- **The result of a call**: its outcome and its times. -/
structure ToolResult extends Outcome where
  metrics : Metrics

end StepFlow
