import StepFlow.Document
import StepFlow.Tool
import StepFlow.Value.Record

/-!
# The format of results

Data is written whenever there is some, null included; when it is read back,
null counts as no data.
-/

namespace StepFlow

open Document

variable {δ : Type} [Document δ]

/-- Reads an instant. -/
def Instant.read (d : δ) : Option Instant := (text? d).bind Instant.read?

/-- Reads the report of an error. -/
def ErrorReport.read (d : δ) : Option ErrorReport := do
  let f ← fields? ["code", "message"] d
  return ⟨← f.required text? "code", ← f.required text? "message"⟩

/-- Writes the report of an error. -/
def ErrorReport.toValue (r : ErrorReport) : Value :=
  .record [("code", some (.str r.code)), ("message", some (.str r.message))]

/-- Reads the times of a call. -/
def Metrics.read (d : δ) : Option Metrics := do
  let f ← fields? ["startTime", "endTime", "latencyMs"] d
  return { start := ← f.required Instant.read "startTime"
           stop := ← f.required Instant.read "endTime"
           latency := ← f.required uint64? "latencyMs" }

/-- Writes the times of a call. -/
def Metrics.toValue (m : Metrics) : Value :=
  .record
    [("startTime", some (.str m.start.text)), ("endTime", some (.str m.stop.text)),
      ("latencyMs", some (.ofNat m.latency.toNat))]

/-- The fields that an outcome is written with. -/
def Outcome.toFields (o : Outcome) : List (String × Option Value) :=
  [("success", some (.bool o.success)), ("data", o.data),
    ("error", o.error.map ErrorReport.toValue)]

/-- Writes an outcome. -/
def Outcome.toValue (o : Outcome) : Value := .record o.toFields

namespace ToolResult

/-- **Reads a result.** -/
def read (d : δ) : Option ToolResult := do
  let f ← fields? ["success", "data", "error", "metrics"] d
  return { success := ← f.required bool? "success"
           data := ← f.optional value? "data"
           error := ← f.optional ErrorReport.read "error"
           metrics := ← f.required Metrics.read "metrics" }

/-- **Writes a result.** -/
def toValue (r : ToolResult) : Value :=
  .record (r.toOutcome.toFields ++ [("metrics", some r.metrics.toValue)])

end ToolResult

end StepFlow
