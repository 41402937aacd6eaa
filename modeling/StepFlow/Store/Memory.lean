import StepFlow.Store

/-!
# Pipelines in memory

The plain backend: a list of pipelines.  A pipeline that is saved again keeps its
place.  What is in the list can always be read.
-/

namespace StepFlow

/-- **Pipelines in a list**, in the order in which they were first saved. -/
structure Memory where
  pipelines : List Pipeline := []

namespace Memory

/-- Replaces the first pipeline with the id of `p`, or adds `p` at the end. -/
def put (p : Pipeline) : List Pipeline → List Pipeline
  | [] => [p]
  | q :: rest => if q.id = p.id then p :: rest else q :: put p rest

/-- Saves a pipeline. -/
def save (p : Pipeline) (m : Memory) : Memory := ⟨put p m.pipelines⟩

/-- The pipeline under an id. -/
def load (id : String) (m : Memory) : Option Pipeline := m.pipelines.find? fun p => p.id = id

/-- Deletes a pipeline. -/
def delete (id : String) (m : Memory) : Bool × Memory :=
  let kept := m.pipelines.filter fun p => p.id ≠ id
  (kept.length ≠ m.pipelines.length, ⟨kept⟩)

instance : Backend Memory where
  empty := {}
  save := save
  load id m := .ok (m.load id)
  delete := delete
  list m := .ok m.pipelines

end Memory

end StepFlow
