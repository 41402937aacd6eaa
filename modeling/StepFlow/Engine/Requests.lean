import StepFlow.Engine

/-!
# Answering requests

The engine is the host of its runs.  A tool that is called may make requests of
its own, which the engine answers before the tool comes to its outcome, and so may
the handler of requests to people; how deep such requests may nest is bounded
(`Setup.host`).

A run is claimed before a response is taken in, so that nobody can respond to it
twice.  A run that waits is cancelled at once, a running one when it next looks.
-/

namespace StepFlow

namespace Engine

/-- **Lets an activity go on** until it comes to something, or the time is up. -/
def perform {α : Type} (answer : Request → Engine → Answer × Engine) :
    Activity α → Engine → Option α × Engine
  | .done a, e => (some a, e)
  | .wait ms next, e =>
    let e := e.elapse ms
    if e.expired then (none, e) else perform answer next e
  | .request r next, e =>
    let (a, e) := answer r e
    if e.expired then (none, e) else perform answer (next a) (e.note (.answered a))

/-- The result of a call that began at `start` and is over now. -/
def resultSince (e : Engine) (start : Engine) (o : Outcome) : ToolResult :=
  { o with metrics := ⟨start.now, e.now, .ofNat (e.clock - start.clock)⟩ }

/-- Has a tool do what it does when it is called, until a time. -/
def consult (tools : Toolbox) (answer : Request → Engine → Answer × Engine) (c : Call)
    (deadline : Nat) (e : Engine) : Option Outcome × Engine :=
  perform answer (tools.reply e.calls c) ((e.note (.called c)).within deadline)

/-- The engine when a call returns that began at `start` and had time until the
deadline.  A limit that comes before this one is not the call's own. -/
def returning (e : Engine) (start : Engine) (deadline : Nat) : Engine :=
  { e with limit := start.limit, expired := e.expired && !start.inTime deadline }

/-- **Calls a tool.**  It must come to its outcome before its own time limit, and
before those of the calls within which the call is made.  If its own is the first
to pass, this is an error; if it is another, nobody waits for the result. -/
def call (tools : Toolbox) (answer : Request → Engine → Answer × Engine) (c : Call)
    (timeout : UInt64) (e : Engine) : ToolResult × Engine :=
  if e.expired then (e.resultSince e (.succeeded none), e.abandon c.purpose.execution)
  else if tools.knows c.tool then
    let deadline := e.clock + timeout.toNat * 1000
    let (o, after) := e.consult tools answer c deadline
    let after := after.returning e deadline
    let missed := if after.expired then .succeeded none else .ofError (.timedOut timeout)
    (after.resultSince e (o.getD missed), after)
  else (e.resultSince e (.ofError (.notFound c.tool)), e)

/-- Puts aside what a person is asked, where this is kept. -/
def setAside (e : Engine) (listens : Bool) (q : HumanRequest) : Engine :=
  if listens then { e with inbox := q :: e.inbox } else e

end Engine

namespace Setup

/-- **The host of the engine's runs**, given how the requests are answered that are
made meanwhile.  When the time is up, nothing is done any more. -/
def hostAnswering (u : Setup) (answer : Request → Engine → Answer × Engine) : Host Engine where
  now := Engine.now
  isCancelled id e := e.cancelled.contains id
  call := Engine.call u.tools answer
  emit id event e := e.attend id (·.note (.happened id event))
  pause ms e := if e.expired then e else e.elapse ms.toNat
  publish x e := e.attend x.id (·.publish x)
  ask q e := e.attend q.execution fun e =>
    (Engine.perform answer (u.handler e.calls q) (e.setAside u.listens q)).2

/-- Starts a run. -/
def start (u : Setup) (h : Host Engine) (p : Pipeline) (initial : Table Value) (e : Engine) :
    Execution × Engine :=
  let x := Execution.fresh p initial ⟨e.started⟩ e.now
  h.run u.settings p u.budget x (h.emit x.id (.started p.id p.name) (e.enlist p x))

/-- Takes in the response of a person to a run that waits. -/
def respond (u : Setup) (h : Host Engine) (id : ExecutionId) (r : HumanResponse) (e : Engine) :
    Option Execution × Engine :=
  match e.record? id with
  | none => (none, e)
  | some record =>
    if record.state.status = .waiting then
      let x := record.state
      let e := h.emit id (.humanReceived x.current r.approved)
        (e.publish { x with status := .running })
      let y := x.respond u.settings.failOnUnroutedError record.pipeline r e.now
      let (z, e) := h.run u.settings record.pipeline u.budget (y.touch e.now) e
      (some z, e)
    else (none, e)

/-- Cancels a run that is not over. -/
def cancel (u : Setup) (h : Host Engine) (id : ExecutionId) (e : Engine) : Bool × Engine :=
  match e.record? id with
  | none => (false, e)
  | some record =>
    if record.state.status.isOver then (false, e)
    else if record.state.status = .waiting then
      let x := (record.state.fail .cancelled).touch e.now
      (true, h.finish u.settings record.pipeline x ((e.flag id).publish x))
    else (true, e.flag id)

/-- **Answers a request**, given the host of the runs. -/
def answer (u : Setup) (h : Host Engine) : Request → Engine → Answer × Engine
  | .start p initial, e =>
    let (x, e) := u.start h p initial e
    (.state (some x), e)
  | .respond id r, e =>
    let (x, e) := u.respond h id r e
    (.state x, e)
  | .get id, e => (.state ((e.record? id).map (·.state)), e)
  | .list, e => (.states (e.records.map (·.state)), e)
  | .remove id, e => (.state ((e.record? id).map (·.state)), e.forget id)
  | .cleanup, e =>
    (.count (e.records.length - e.forgetFinished.records.length), e.forgetFinished)
  | .cancel id, e =>
    let (b, e) := u.cancel h id e
    (.verdict b, e)
  | .malformed why, e => (.refused why, e)

/-- The host of the engine's runs.  Requests nest `depth` deep at most. -/
def host (u : Setup) : (depth : Nat) → Host Engine
  | 0 => u.hostAnswering fun _ e => (.refused .nestedTooDeeply, e)
  | depth + 1 => u.hostAnswering fun r e => u.answer (u.host depth) r e

end Setup

end StepFlow
