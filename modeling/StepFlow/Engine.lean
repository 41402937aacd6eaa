import StepFlow.Execution.Run

/-!
# The engine and its tools

The **engine** keeps every run that it started, in the order of their start,
until the run is removed.  Runs are numbered from 0, and no number is used twice.
It also keeps what it was asked to cancel, the time, and a trail of what
happened.

The engine answers **requests**.  A tool may make requests itself while it is
called, about any run, its own included.

A **toolbox** stands for all tools.  What a tool does when it is called may depend
on the calls made before and on the answers to its own requests, and on nothing
else.

A call has a **time limit**, and all that the tool waits for counts: its own
delays, and those of the runs that it has driven.  When the time is up, whatever
was going on within the call is dropped where it stands.  A run that was being
driven for the tool is then **abandoned**: nobody drives it on.
-/

namespace StepFlow

/-- Why a request is not understood. -/
inductive Refusal where
  | noSuchPipeline
  | unknownCall
  /-- A part of the request does not have the right shape. -/
  | unreadable
  /-- The request came from a tool within a tool within a tool, and so on. -/
  | nestedTooDeeply
deriving Repr, DecidableEq

/-- **What the engine can be asked.** -/
inductive Request where
  /-- Start a run of a pipeline, with its global state overlaid. -/
  | start (pipeline : Pipeline) (initial : Table Value)
  /-- Take in the response of a person. -/
  | respond (id : ExecutionId) (response : HumanResponse)
  /-- Tell the state of a run. -/
  | get (id : ExecutionId)
  /-- Tell the states of all runs. -/
  | list
  /-- Forget a run. -/
  | remove (id : ExecutionId)
  /-- Forget all runs that are over. -/
  | cleanup
  /-- Cancel a run. -/
  | cancel (id : ExecutionId)
  /-- Something that is no request. -/
  | malformed (why : Refusal)

/-- **What the engine answers.** -/
inductive Answer where
  | state (x : Option Execution)
  | states (xs : List Execution)
  | count (n : Nat)
  | verdict (b : Bool)
  | refused (why : Refusal)

/-- **What somebody does** who is called by the engine: lets milliseconds pass, makes
requests and goes on by their answers, and comes to something in the end. -/
inductive Activity (α : Type) where
  | done (a : α)
  | wait (ms : Nat) (next : Activity α)
  | request (r : Request) (next : Answer → Activity α)

/-- **A reply that is laid down beforehand**: after a delay in milliseconds a tool
makes its requests, one after another, and then it comes to its outcome. -/
structure Reply where
  delay : Nat := 0
  requests : List Request := []
  outcome : Outcome

/-- What a tool does that gives a reply. -/
def Reply.activity (r : Reply) : Activity Outcome :=
  .wait r.delay (r.requests.foldr (fun r next => .request r fun _ => next) (.done r.outcome))

/-- **The tools.**  A call of an unknown tool reaches none of them. -/
structure Toolbox where
  knows : String → Bool
  /-- What a tool does when it is called, after the calls made before, the latest first. -/
  reply : List Call → Call → Activity Outcome

/-- What the engine's trail tells. -/
inductive Entry where
  | called (c : Call)
  /-- A request that a tool made was answered. -/
  | answered (a : Answer)
  | happened (id : ExecutionId) (e : Event)

/-- A run that the engine keeps: its pipeline, and its state as last published. -/
structure Record where
  pipeline : Pipeline
  state : Execution

/-- **The engine.** -/
structure Engine where
  /-- The runs it keeps, oldest first. -/
  records : List Record := []
  /-- How many runs it has started. -/
  started : Nat := 0
  /-- The runs it was asked to cancel. -/
  cancelled : List ExecutionId := []
  /-- Milliseconds passed. -/
  clock : Nat := 0
  /-- What happened, the latest first. -/
  trail : List Entry := []
  /-- What people were asked, the latest first. -/
  inbox : List HumanRequest := []
  /-- When the time is up of the calls that are being made. -/
  limit : Option Nat := none
  /-- Is the time up? -/
  expired : Bool := false
  /-- The runs for which something was left undone because the time was up. -/
  abandoned : List ExecutionId := []

/-- How an engine is set up. -/
structure Setup where
  settings : Settings := {}
  tools : Toolbox
  /-- Are requests to people kept? -/
  listens : Bool := true
  /-- What is done when a person is asked, after the calls made before, the latest first.  The
  engine waits for it, and not for the person. -/
  handler : List Call → HumanRequest → Activity Unit := fun _ _ => .done ()
  /-- By how many steps a run may advance without a pause. -/
  budget : Nat

namespace Engine

/-- The time. -/
def now (e : Engine) : Instant := .ofMilliseconds e.clock

/-- Does a time come before the limit? -/
def inTime (e : Engine) (t : Nat) : Bool := e.limit.all fun limit => t ≤ limit

/-- Sets a limit, unless there is an earlier one. -/
def within (e : Engine) (t : Nat) : Engine :=
  { e with limit := if e.inTime t then some t else e.limit }

/-- Lets milliseconds pass, or the time that is left if this is less. -/
def elapse (e : Engine) (ms : Nat) : Engine :=
  if e.inTime (e.clock + ms) then { e with clock := e.clock + ms }
  else { e with clock := e.limit.getD e.clock, expired := true }

/-- Adds to the trail. -/
def note (e : Engine) (entry : Entry) : Engine := { e with trail := entry :: e.trail }

/-- The calls made so far, the latest first. -/
def calls (e : Engine) : List Call :=
  e.trail.filterMap fun
    | .called c => some c
    | _ => none

/-- The record of a run. -/
def record? (e : Engine) (id : ExecutionId) : Option Record :=
  e.records.find? fun r => r.state.id = id

/-- Writes the state of a run into its record, if there is one. -/
def publish (e : Engine) (x : Execution) : Engine :=
  { e with
    records := e.records.map fun r => if r.state.id = x.id then { r with state := x } else r }

/-- Adds a record for a new run. -/
def enlist (e : Engine) (p : Pipeline) (x : Execution) : Engine :=
  { e with records := e.records ++ [⟨p, x⟩], started := e.started + 1 }

/-- Forgets a run. -/
def forget (e : Engine) (id : ExecutionId) : Engine :=
  { e with records := e.records.filter fun r => r.state.id ≠ id }

/-- Forgets all runs that are over. -/
def forgetFinished (e : Engine) : Engine :=
  { e with records := e.records.filter fun r => !r.state.status.isOver }

/-- Raises the flag of a run that is to be cancelled. -/
def flag (e : Engine) (id : ExecutionId) : Engine := { e with cancelled := id :: e.cancelled }

/-- Leaves something undone that was to be done for a run. -/
def abandon (e : Engine) (id : ExecutionId) : Engine := { e with abandoned := id :: e.abandoned }

/-- Does something for a run, if the time is not up. -/
def attend (e : Engine) (id : ExecutionId) (act : Engine → Engine) : Engine :=
  if e.expired then e.abandon id else act e

end Engine

end StepFlow
