import StepFlow.Execution
import StepFlow.Value.Record

/-!
# Asking a person

A run that waits for a person hands out a **request**: which step waits, what to
ask, and the state of the run.  The **response** approves or not; it may carry
an input for later steps and changes to the global state.
-/

namespace StepFlow

/-- **What a person is asked.** -/
structure HumanRequest where
  execution : ExecutionId
  step : String
  prompt : String
  /-- The run at the moment it began to wait. -/
  state : Execution

/-- **What a person answers.** -/
structure HumanResponse where
  approved : Bool
  input : Option Value := none
  modifications : Option (Table Value) := none
  notes : Option String := none

namespace HumanResponse

/-- An approval. -/
def approve : HumanResponse := { approved := true }

/-- A rejection. -/
def reject (notes : String) : HumanResponse := { approved := false, notes := some notes }

/-- Adds an input. -/
def withInput (r : HumanResponse) (input : Value) : HumanResponse := { r with input := some input }

/-- Adds a change to the global state. -/
def withModification (r : HumanResponse) (key : String) (value : Value) : HumanResponse :=
  { r with modifications := some ((r.modifications.getD .empty).insert key value) }

variable {δ : Type} [Document δ]

open Document

/-- **Reads a response.** -/
def read (d : δ) : Option HumanResponse := do
  let f ← fields? ["approved", "input", "modifications", "notes"] d
  return { approved := ← f.required bool? "approved"
           input := ← f.optional value? "input"
           modifications := ← f.optional (table? value?) "modifications"
           notes := ← f.optional text? "notes" }

/-- **Writes a response.** -/
def toValue (r : HumanResponse) : Value :=
  .record
    [("approved", some (.bool r.approved)), ("input", r.input),
      ("modifications", r.modifications.map .ofTable), ("notes", r.notes.map .str)]

end HumanResponse

/-- What a person is asked at a step. -/
def Step.question (s : Option Step) (id : String) : String :=
  (s.bind (·.prompt)).getD ("Approve step " ++ Text.mention id ++ "?")

end StepFlow
