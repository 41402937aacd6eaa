import StepFlow.Value

/-!
# Steps

A **step** of a pipeline calls a tool, or waits for a person, and then says
where to go.  It tells

* where its parameters come from (`Binding`),
* where to go (`Next`, and the two shortcuts `onSuccess` and `onFailure`),
* whether and how it repeats (`Loop`).

`Step.references` lists every step a step can lead to and `Step.conditions`
every expression it can evaluate, so that both can be checked before a run.
-/

namespace StepFlow

/-- The target that ends the pipeline. -/
def endMarker : String := "end"

/-- **Where a parameter comes from.** -/
inductive Binding where
  /-- A fixed value. -/
  | static (value : Value)
  /-- What a path finds in the data that an earlier step came to. -/
  | dynamic (source : String) (path : String)

/-- A target under a condition. -/
structure Branch where
  name : Option String
  condition : String
  target : String
deriving Repr, DecidableEq

/-- **Where a step leads**: to the target of the first branch whose condition
holds, otherwise to the default, if there is one. -/
structure Next where
  default : Option String := none
  branches : List Branch := []
deriving Repr, DecidableEq

/-- **How a step repeats**, `limit` times at most. -/
inductive Loop where
  /-- A counter runs from `start` by `increment` while it is below the limit. -/
  | counting (start increment : Int64) (limit : UInt32)
  /-- The step repeats while the condition holds. -/
  | whileTrue (condition : String) (limit : UInt32)
  /-- The step repeats until the condition holds. -/
  | untilTrue (condition : String) (limit : UInt32)
deriving DecidableEq

namespace Loop

/-- How often the step may repeat. -/
def limit : Loop → UInt32
  | counting _ _ n => n
  | whileTrue _ n => n
  | untilTrue _ n => n

/-- The condition of a conditional loop. -/
def condition? : Loop → Option String
  | counting .. => none
  | whileTrue c _ => some c
  | untilTrue c _ => some c

/-- The word for the kind of a loop. -/
def kind : Loop → String
  | counting .. => "for"
  | whileTrue .. => "while"
  | untilTrue .. => "until"

end Loop

/-- **A step.** -/
structure Step where
  id : String
  tool : String
  parameters : Table Binding := .empty
  next : Next := {}
  /-- The step waits for a person instead of calling its tool. -/
  waitsForHuman : Bool := false
  prompt : Option String := none
  /-- Retries after the first attempt. -/
  maxRetries : Option UInt32 := none
  /-- Seconds that one attempt may take. -/
  timeout : Option UInt64 := none
  loop : Option Loop := none
  /-- Where a success leads, ahead of every condition. -/
  onSuccess : Option String := none
  /-- Where a failure leads, ahead of every condition. -/
  onFailure : Option String := none

/-- The place in a step that names another step. -/
inductive Mention where
  | next | branchTarget | onSuccess | onFailure
deriving Repr, DecidableEq

/-- How messages call such a place. -/
def Mention.label : Mention → String
  | next => "next"
  | branchTarget => "condition target"
  | onSuccess => "onSuccess"
  | onFailure => "onFailure"

namespace Step

/-- **Every target of a step** and where it is named, the end marker included. -/
def references (s : Step) : List (Mention × String) :=
  (s.next.default.map (.next, ·)).toList
    ++ s.next.branches.map (fun b => (.branchTarget, b.target))
    ++ (s.onSuccess.map (.onSuccess, ·)).toList
    ++ (s.onFailure.map (.onFailure, ·)).toList

/-- **Every expression that a step can evaluate**: the conditions of its branches
in order, then the condition of its loop. -/
def conditions (s : Step) : List String :=
  s.next.branches.map (·.condition) ++ (s.loop.bind Loop.condition?).toList

theorem mem_references_iff (s : Step) (m : Mention) (target : String) :
    (m, target) ∈ s.references ↔
      (m = .next ∧ s.next.default = some target) ∨
      (m = .branchTarget ∧ ∃ b ∈ s.next.branches, b.target = target) ∨
      (m = .onSuccess ∧ s.onSuccess = some target) ∨
      (m = .onFailure ∧ s.onFailure = some target) := by
  simp only [references, List.mem_append, Option.mem_toList, Option.map_eq_some_iff, List.mem_map,
    Prod.mk.injEq]
  grind

end Step

end StepFlow
