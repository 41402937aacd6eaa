import StepFlow.Expression.Error
import StepFlow.Text.Quoted
import StepFlow.Pipeline.Validation
import StepFlow.Tool.Format

/-!
# Why a pipeline is refused or a run fails

Each cause has a constructor, a stable code and a wording.  A run that fails
keeps an `ExecutionError`: code and wording of the cause, and the step that was
current.
-/

namespace StepFlow

/-- **Why a pipeline is refused or a run fails.** -/
inductive Fault where
  /-- The definition is not well-formed. -/
  | invalid (text : String)
  /-- The current step is not declared. -/
  | stepNotFound (id : String)
  /-- A step failed, nothing routed the failure, and the settings are strict. -/
  | toolFailed (step tool : String) (report : ErrorReport)
  /-- A person did not approve of a step. -/
  | rejected (step : String) (notes : Option String)
  /-- A condition has no value. -/
  | expression (failure : Expression.Failure)
  /-- The run was cancelled. -/
  | cancelled
deriving Repr, DecidableEq

namespace Fault

/-- The fault of a definition with a violation. -/
def ofViolation (v : Violation) : Fault := invalid v.message

/-- The code of a fault. -/
def code : Fault → String
  | invalid _ => "VALIDATION_ERROR"
  | stepNotFound _ => "STEP_NOT_FOUND"
  | toolFailed .. => "TOOL_EXECUTION_ERROR"
  | rejected .. => "HUMAN_REJECTION"
  | expression _ => "EXPRESSION_ERROR"
  | cancelled => "CANCELLED"

/-- The wording of a fault. -/
def message : Fault → String
  | invalid text => "Validation error: " ++ text
  | stepNotFound id => "Step not found: " ++ id
  | toolFailed step tool report =>
    "Tool " ++ Text.mention tool ++ " failed in step " ++ Text.mention step ++ ": [" ++ report.code
      ++ "] " ++ report.message
  | rejected step notes =>
    "Step " ++ Text.mention step ++ " was rejected by human reviewer"
      ++ (notes.map fun n => ": " ++ n).getD ""
  | expression failure => "Expression error: " ++ failure.message
  | cancelled => "Execution cancelled"

end Fault

/-- **The error that a failed run keeps.** -/
structure ExecutionError where
  code : String
  message : String
  step : Option String := none
deriving Repr, DecidableEq

/-- The error that a fault leaves behind. -/
def Fault.capture (f : Fault) (step : Option String) : ExecutionError := ⟨f.code, f.message, step⟩

namespace ExecutionError

variable {δ : Type} [Document δ]

open Document

/-- Reads the error of a run. -/
def read (d : δ) : Option ExecutionError := do
  let f ← fields? ["code", "message", "stepId"] d
  return { code := ← f.required text? "code"
           message := ← f.required text? "message"
           step := ← f.optional text? "stepId" }

/-- Writes the error of a run. -/
def toValue (e : ExecutionError) : Value :=
  .record
    [("code", some (.str e.code)), ("message", some (.str e.message)), ("stepId", e.step.map .str)]

end ExecutionError

end StepFlow
