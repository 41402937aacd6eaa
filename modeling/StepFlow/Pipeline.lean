import StepFlow.Step

/-!
# Pipelines

A **definition** is a set of steps with a start, an initial global state and
the tools to call at the end.  A **pipeline** is a definition under an id.

A step is known by its key in the table of steps.  A step that was declared
without an id takes its key (`Definition.fillIds`), and a definition becomes a
pipeline only after that.
-/

namespace StepFlow

/-- **A definition.** -/
structure Definition where
  name : String
  description : String := ""
  start : String
  steps : Table Step
  globalState : Table Value := .empty
  /-- The tool called once when a run completes. -/
  onComplete : Option String := none
  /-- The tool called once when a run fails. -/
  onError : Option String := none
  metadata : Table Value := .empty

/-- **A pipeline**: a definition under an id. -/
structure Pipeline extends Definition where
  id : String

/-- The step under the id `key` if it has none of its own. -/
def Step.withDefaultId (s : Step) (key : String) : Step :=
  if s.id.isEmpty then { s with id := key } else s

namespace Definition

/-- Steps without an id take their key. -/
def fillIds (d : Definition) : Definition :=
  { d with steps := d.steps.mapValues fun key s => s.withDefaultId key }

/-- **The pipeline of a definition**, under `id`. -/
def toPipeline (d : Definition) (id : String) : Pipeline := { d.fillIds with id }

end Definition

/-- The step under `id`. -/
def Pipeline.step? (p : Pipeline) (id : String) : Option Step := p.steps.get? id

theorem Step.withDefaultId_withDefaultId (s : Step) (key : String) :
    (s.withDefaultId key).withDefaultId key = s.withDefaultId key := by
  unfold withDefaultId
  split <;> simp_all

theorem Definition.get?_fillIds (d : Definition) (key : String) :
    d.fillIds.steps.get? key = (d.steps.get? key).map (·.withDefaultId key) :=
  Table.get?_mapValues _ _ _

/-- Filling in ids twice is filling them in once. -/
@[simp] theorem Definition.fillIds_fillIds (d : Definition) : d.fillIds.fillIds = d.fillIds := by
  have h : d.fillIds.fillIds.steps = d.fillIds.steps := Table.ext_get? fun key => by
    rw [get?_fillIds, get?_fillIds, Option.map_map]
    congr 1
    exact funext fun s => Step.withDefaultId_withDefaultId s key
  unfold fillIds at h ⊢
  simp only at h ⊢
  rw [h]

end StepFlow
