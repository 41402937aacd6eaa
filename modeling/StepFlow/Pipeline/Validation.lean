import StepFlow.Expression.Parser
import StepFlow.Pipeline
import StepFlow.Text.Quoted
import StepFlow.Unicode.Blank

/-!
# Well-formed definitions

A definition is checked before it runs: it has a declared start, every step has
its key for an id and a tool to call, every target is a declared step or the
end marker, a looping step does not lead to itself by default, and every
condition is an expression.

`Definition.validate` reports the first **violation**: those of the definition
as a whole, then those of the steps in the order of their keys, and within a
step those of its id, its tool, its targets, its loop and its conditions.
-/

namespace StepFlow

/-- **What is wrong with a definition.** -/
inductive Violation where
  | duplicateStep (id : String)
  | noStart
  | noSteps
  | undeclaredStart (id : String)
  | mismatchedId (key id : String)
  | noTool (key : String)
  | undeclaredTarget (key : String) (mention : Mention) (target : String)
  | loopsToItself (key : String)
  | badCondition (key source : String) (error : Expression.ReadError)
deriving Repr, DecidableEq

/-- The wording of a violation. -/
def Violation.message : Violation → String
  | duplicateStep id => "Duplicate step ID: " ++ id
  | noStart => "No start step defined"
  | noSteps => "Pipeline has no steps"
  | undeclaredStart id => "Start step " ++ Text.mention id ++ " is not a declared step"
  | mismatchedId key id =>
    "Step declared under " ++ Text.mention key ++ " has mismatched id " ++ Text.mention id
  | noTool key => "Step " ++ Text.mention key ++ " has no tool name"
  | undeclaredTarget key mention target =>
    "Step " ++ Text.mention key ++ " " ++ mention.label ++ " references non-existent step "
      ++ Text.mention target
  | loopsToItself key => "Looping step " ++ Text.mention key ++ " cannot exit to itself"
  | badCondition key source e =>
    "Step " ++ Text.mention key ++ " has invalid expression " ++ Text.mention source ++ ": "
      ++ e.message

namespace Step

/-- May steps lead to `target`? -/
def isTarget (steps : Table Step) (target : String) : Bool :=
  target = endMarker || steps.contains target

/-- The first target of a step that is not declared. -/
def undeclaredTarget? (steps : Table Step) (s : Step) : Option (Mention × String) :=
  s.references.find? fun r => !isTarget steps r.2

/-- The first of some conditions that is no expression. -/
def badCondition? : List String → Option (String × Expression.ReadError)
  | [] => none
  | source :: rest =>
    match Expression.parse source with
    | .error e => some (source, e)
    | .ok _ => badCondition? rest

/-- The first violation of the step under `key`. -/
def violation? (steps : Table Step) (key : String) (s : Step) : Option Violation :=
  if !s.id.isEmpty && s.id ≠ key then some (.mismatchedId key s.id)
  else if Unicode.isBlankText s.tool && !s.waitsForHuman then some (.noTool key)
  else match s.undeclaredTarget? steps with
    | some (mention, target) => some (.undeclaredTarget key mention target)
    | none =>
      if s.loop.isSome && s.next.default = some key then some (.loopsToItself key)
      else (badCondition? s.conditions).map fun b => .badCondition key b.1 b.2

end Step

namespace Definition

/-- The first violation of a definition. -/
def violation? (d : Definition) : Option Violation :=
  if Unicode.isBlankText d.start then some .noStart
  else if d.steps.isEmpty then some .noSteps
  else if !d.steps.contains d.start then some (.undeclaredStart d.start)
  else d.steps.entries.findSome? fun e => e.2.violation? d.steps e.1

/-- **Checks a definition**, reporting the first violation. -/
def validate (d : Definition) : Except Violation Unit :=
  match d.violation? with
  | some v => .error v
  | none => .ok ()

end Definition

end StepFlow
