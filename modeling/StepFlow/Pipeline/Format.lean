import StepFlow.Pipeline
import StepFlow.Step.Format

/-!
# The format of pipelines

A definition and a pipeline are written with the same fields; a pipeline has
its id in front.  Description and global state are always written, metadata
only if there are any.
-/

namespace StepFlow

open Document

variable {δ : Type} [Document δ]

namespace Definition

/-- The fields of a definition in their order. -/
def fieldNames : List String :=
  ["name", "description", "startStepId", "steps", "globalState", "onComplete", "onError",
    "metadata"]

/-- Reads a definition from the fields of a record. -/
def ofFields (f : Fields δ) : Option Definition :=
  return { name := ← f.required text? "name"
           description := ← f.withDefault "" text? "description"
           start := ← f.required text? "startStepId"
           steps := ← f.required (table? Step.read) "steps"
           globalState := ← f.withDefault .empty (table? value?) "globalState"
           onComplete := ← f.optional text? "onComplete"
           onError := ← f.optional text? "onError"
           metadata := ← f.withDefault .empty (table? value?) "metadata" }

/-- **Reads a definition.** -/
def read (d : δ) : Option Definition := do ofFields (← fields? fieldNames d)

/-- The fields that a definition is written with. -/
def toFields (d : Definition) : List (String × Option Value) :=
  [("name", some (.str d.name)),
    ("description", some (.str d.description)),
    ("startStepId", some (.str d.start)),
    ("steps", some (.ofTableWith Step.toValue d.steps)),
    ("globalState", some (.ofTable d.globalState)),
    ("onComplete", d.onComplete.map .str),
    ("onError", d.onError.map .str),
    ("metadata", Value.writtenIf (!d.metadata.isEmpty) (.ofTable d.metadata))]

/-- **Writes a definition.** -/
def toValue (d : Definition) : Value := .record d.toFields

end Definition

namespace Pipeline

/-- **Reads a pipeline.** -/
def read (d : δ) : Option Pipeline := do
  let f ← fields? ("id" :: Definition.fieldNames) d
  let id ← f.required text? "id"
  let definition ← Definition.ofFields f
  return { definition with id }

/-- **Writes a pipeline.** -/
def toValue (p : Pipeline) : Value := .record (("id", some (.str p.id)) :: p.toDefinition.toFields)

end Pipeline

end StepFlow
