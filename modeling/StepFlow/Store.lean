import StepFlow.Pipeline.Patch
import StepFlow.Text.Occurrence
import StepFlow.Unicode.LowerCase

/-!
# A store of pipelines

A **store** keeps pipelines under ids of its own making.  It works over any
**backend** that saves, loads, deletes and lists pipelines; every operation of
the store is a few calls of its backend.

* A definition that is stored becomes a pipeline under a fresh id.
* A backend can have a place taken by something that it cannot read.  To ask for it is then an
  error, which is not the answer that there is nothing.
* A definition that comes in as a value is checked for its shape first; a value
  that is refused leaves the store as it is.
* A search disregards case and looks into names and descriptions.
-/

namespace StepFlow

/-- **What is kept under an id cannot be read.** -/
structure Corrupt where
  id : String
deriving Repr, DecidableEq

/-- How a backend reports this. -/
def Corrupt.message (c : Corrupt) : String := "Corrupt definition stored for pipeline " ++ c.id

/-- **A backend**, with its contents of type `β`. -/
class Backend (β : Type) where
  /-- Nothing stored. -/
  empty : β
  /-- Inserts a pipeline, or replaces the one with its id. -/
  save : Pipeline → β → β
  /-- The pipeline under an id, if there is one. -/
  load : (id : String) → β → Except Corrupt (Option Pipeline)
  /-- Deletes a pipeline, and tells whether it was there. -/
  delete : (id : String) → β → Bool × β
  /-- All pipelines, in the order in which they were first saved. -/
  list : β → Except Corrupt (List Pipeline)

namespace Store

variable {β : Type} [Backend β]

/-- Stores a definition under a fresh id. -/
def create (fresh : String) (d : Definition) (b : β) : Pipeline × β :=
  (d.toPipeline fresh, Backend.save (d.toPipeline fresh) b)

/-- The pipeline under an id. -/
def get (id : String) (b : β) : Except Corrupt (Option Pipeline) := Backend.load id b

/-- Patches a stored pipeline. -/
def update (id : String) (q : Patch) (b : β) : Except Corrupt (Option Pipeline) × β :=
  match Backend.load id b with
  | .error c => (.error c, b)
  | .ok none => (.ok none, b)
  | .ok (some p) => (.ok (some (q.apply p)), Backend.save (q.apply p) b)

/-- Deletes a pipeline, and tells whether it was there. -/
def delete (id : String) (b : β) : Bool × β := Backend.delete id b

/-- All pipelines. -/
def list (b : β) : Except Corrupt (List Pipeline) := Backend.list b

/-- Does a text occur in another if case does not count? -/
def mentions (query text : String) : Bool :=
  Text.occursIn (Unicode.lower query.toList) (Unicode.lower text.toList)

/-- Does a pipeline meet a query? -/
def isFound (query : String) (p : Pipeline) : Bool :=
  query.isEmpty || mentions query p.name || mentions query p.description

/-- **Searches the store.**  The empty query finds everything. -/
def find (query : String) (b : β) : Except Corrupt (List Pipeline) :=
  (Backend.list b).map (List.filter (isFound query))

/-- Has a step in a value no id, or its key for an id? -/
def hasOwnId (key : String) (step : Value) : Bool :=
  match (step.field? "id").bind Value.text? with
  | some id => id.isEmpty || id = key
  | none => true

/-- Has a value the shape of a definition: three texts, and steps under their ids? -/
def hasShape (v : Value) : Bool :=
  ["name", "description", "startStepId"].all (fun key => ((v.field? key).bind Value.text?).isSome)
    && match v.field? "steps" with
      | some (.obj steps) => !steps.isEmpty && steps.all fun e => hasOwnId e.1 e.2
      | _ => false

/-- The definition that an imported value holds. -/
def importable? (v : Value) : Option Definition :=
  if hasShape v then Definition.read v else none

/-- **Imports a value** under a fresh id. -/
def importValue (fresh : String) (v : Value) (b : β) : Option Pipeline × β :=
  match importable? v with
  | none => (none, b)
  | some d => let (p, b) := create fresh d b; (some p, b)

/-- **Exports a pipeline** as a value, its id included. -/
def exportValue (id : String) (b : β) : Except Corrupt (Option Value) :=
  (Backend.load id b).map (Option.map Pipeline.toValue)

end Store

end StepFlow
