import StepFlow.Pipeline.Validation

/-!
# Building pipelines

A pipeline can be put together piece by piece.  The pieces may come in any
order; what is wrong is reported at the end, when the pipeline is built: first
a step id that was used twice, then a missing start, then the first violation
of the definition.
-/

namespace StepFlow

namespace Step

/-- A step that calls `tool`, with no parameters and no targets. -/
def calling (id tool : String) : Step := { id, tool }

/-- Gives a parameter a fixed value. -/
def withStatic (s : Step) (name : String) (value : Value) : Step :=
  { s with parameters := s.parameters.insert name (.static value) }

/-- Takes a parameter from the data of an earlier step. -/
def withDynamic (s : Step) (name source path : String) : Step :=
  { s with parameters := s.parameters.insert name (.dynamic source path) }

/-- Sets the default target. -/
def leadingTo (s : Step) (target : String) : Step :=
  { s with next.default := some target }

/-- Adds a branch after those already there. -/
def withBranch (s : Step) (name condition target : String) : Step :=
  { s with next.branches := s.next.branches ++ [⟨some name, condition, target⟩] }

/-- Lets the step wait for a person. -/
def waitingForHuman (s : Step) (prompt : String) : Step :=
  { s with waitsForHuman := true, prompt := some prompt }

end Step

/-- **A pipeline in the making.** -/
structure Builder where
  name : String
  id : Option String := none
  description : String := ""
  start : Option String := none
  steps : Table Step := .empty
  /-- The ids that were used again, in order. -/
  repeated : List String := []
  globalState : Table Value := .empty
  onComplete : Option String := none
  onError : Option String := none
  metadata : Table Value := .empty

namespace Builder

/-- Adds a step under its id. -/
def addStep (b : Builder) (s : Step) : Builder :=
  { b with
    steps := b.steps.insert s.id s
    repeated := if b.steps.contains s.id then b.repeated ++ [s.id] else b.repeated }

/-- The definition put together so far, once its start is known. -/
def definition (b : Builder) (start : String) : Definition :=
  { b with start }

/-- **Builds the pipeline**, under `fresh` if no id was set. -/
def build (b : Builder) (fresh : String) : Except Violation Pipeline := do
  match b.repeated with
  | id :: _ => .error (.duplicateStep id)
  | [] =>
    match b.start with
    | none => .error .noStart
    | some start =>
      (b.definition start).validate
      return (b.definition start).toPipeline (b.id.getD fresh)

end Builder

end StepFlow
