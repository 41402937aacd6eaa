import StepFlow.Pipeline.Format

/-!
# Patches

A **patch** changes the fields of a pipeline that it sets and leaves the others.
Steps are known by their keys, so a patched step takes its key for an id,
whatever id it states.  A patch may state an id, but a pipeline keeps its own.
-/

namespace StepFlow

/-- **A partial update.**  Absent fields are left unchanged. -/
structure Patch where
  id : Option String := none
  name : Option String := none
  description : Option String := none
  start : Option String := none
  steps : Option (Table Step) := none
  globalState : Option (Table Value) := none
  onComplete : Option String := none
  onError : Option String := none
  metadata : Option (Table Value) := none

namespace Patch

/-- Steps under their keys. -/
def alignIds (steps : Table Step) : Table Step := steps.mapValues fun key s => { s with id := key }

/-- **Overwrites the fields that a patch sets.** -/
def apply (q : Patch) (p : Pipeline) : Pipeline :=
  { id := p.id
    name := q.name.getD p.name
    description := q.description.getD p.description
    start := q.start.getD p.start
    steps := (q.steps.map alignIds).getD p.steps
    globalState := q.globalState.getD p.globalState
    onComplete := q.onComplete.or p.onComplete
    onError := q.onError.or p.onError
    metadata := q.metadata.getD p.metadata }

variable {δ : Type} [Document δ]

open Document

/-- **Reads a patch.** -/
def read (d : δ) : Option Patch := do
  let f ← fields? ("id" :: Definition.fieldNames) d
  return { id := ← f.optional text? "id"
           name := ← f.optional text? "name"
           description := ← f.optional text? "description"
           start := ← f.optional text? "startStepId"
           steps := ← f.optional (table? Step.read) "steps"
           globalState := ← f.optional (table? value?) "globalState"
           onComplete := ← f.optional text? "onComplete"
           onError := ← f.optional text? "onError"
           metadata := ← f.optional (table? value?) "metadata" }

/-- **Writes a patch.** -/
def toValue (q : Patch) : Value :=
  .record
    [("id", q.id.map .str),
      ("name", q.name.map .str),
      ("description", q.description.map .str),
      ("startStepId", q.start.map .str),
      ("steps", q.steps.map (.ofTableWith Step.toValue)),
      ("globalState", q.globalState.map .ofTable),
      ("onComplete", q.onComplete.map .str),
      ("onError", q.onError.map .str),
      ("metadata", q.metadata.map .ofTable)]

end Patch

end StepFlow
