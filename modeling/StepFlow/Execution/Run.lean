import StepFlow.Execution.Attempts
import StepFlow.Execution.Route

/-!
# Running a pipeline

A run **advances** step by step while it is running: the loop of the current
step decides, a gate suspends the run, a tool is called, and the run takes its
route.  When it is no longer running it is **settled**: a waiting run asks a
person, a run that is over calls the hook of its pipeline and is told to be
finished.

Before every step the run looks whether it was cancelled.  Whatever goes wrong
ends up in the state of the run.
-/

namespace StepFlow

variable {σ : Type}

namespace Host

/-- Tells what a step came to, unless its route is unknown. -/
def emitOutcome (h : Host σ) (id : ExecutionId) (step : Step) (attempts : Nat) (o : Outcome) :
    Option Route → σ → σ
  | none, s => s
  | some route, s =>
    if o.success then h.emit id (.stepCompleted step.id attempts route.target) s
    else h.emit id (.stepFailed step.id attempts o.errorMessage) s

/-- Calls the tool of a step and goes where its outcome leads. -/
def perform (h : Host σ) (settings : Settings) (step : Step) (x : Execution) (s : σ) :
    Execution × σ :=
  let s := h.emit x.id (.stepStarted step.id) s
  let retrying n _ s := h.emit x.id (.stepRetrying step.id n) s
  let (i, s) := h.invoke settings x.id step (x.parameters step) retrying s
  if i.cancelled then ((x.record step.id i.result).fail .cancelled, s)
  else
    let (route, y) := x.conclude settings.failOnUnroutedError step i.result
    (y, h.emitOutcome x.id step i.attempts i.result.toOutcome route s)

/-- Enters a step whose loop, if any, has decided to repeat. -/
def enter (h : Host σ) (settings : Settings) (step : Step) (x : Execution) (s : σ) :
    Execution × σ :=
  if step.waitsForHuman then (x.suspend, s) else h.perform settings step x s

/-- **Advances a run by one step.** -/
def advance (h : Host σ) (settings : Settings) (p : Pipeline) (x : Execution) (s : σ) :
    Execution × σ :=
  match p.step? x.current with
  | none => (x.fail (.stepNotFound x.current), s)
  | some step =>
    match step.loop with
    | none => h.enter settings step x s
    | some l =>
      match x.decideLoop step.id l with
      | .error f => (x.fail (.expression f), s)
      | .ok (true, y) =>
        h.enter settings step y (h.emit x.id (.loopIteration step.id (y.iterationsOf step.id)) s)
      | .ok (false, y) =>
        ((y.resetLoop step.id).transition step step.next.default,
          h.emit x.id (.loopExited step.id (y.iterationsOf step.id)) s)

/-- The tool to call when a run is over. -/
def hookOf (p : Pipeline) : Status → Option String
  | .completed => p.onComplete
  | .failed => p.onError
  | _ => none

/-- What the hook of a run is told. -/
def hookParameters (x : Execution) : Table Value :=
  .ofEntries
    [("executionId", .str x.id.text), ("pipelineId", .str x.pipelineId),
      (Execution.globalStateKey, .ofTable x.globalState),
      ("error", (x.error.map ExecutionError.toValue).getD .null)]

/-- Calls the hook of a run that is over; nothing comes of its result. -/
def callHook (h : Host σ) (settings : Settings) (p : Pipeline) (x : Execution) (s : σ) : σ :=
  match hookOf p x.status with
  | none => s
  | some tool => (h.call ⟨.hook x.id, tool, hookParameters x⟩ settings.timeout s).2

/-- Calls the hook of a run that is over and tells that it is finished. -/
def finish (h : Host σ) (settings : Settings) (p : Pipeline) (x : Execution) (s : σ) : σ :=
  h.emit x.id (.finished x.status) (h.callHook settings p x s)

/-- **Settles a run** that is no longer running. -/
def settle (h : Host σ) (settings : Settings) (p : Pipeline) (x : Execution) (s : σ) : σ :=
  let s := h.publish x s
  match x.status with
  | .running => s
  | .waiting =>
    h.ask ⟨x.id, x.current, Step.question (p.step? x.current) x.current, x⟩
      (h.emit x.id (.humanRequested x.current) s)
  | _ => h.finish settings p x s

/-- **Runs a pipeline** from a state, by `budget` steps at most, and settles it. -/
def run (h : Host σ) (settings : Settings) (p : Pipeline) :
    (budget : Nat) → Execution → σ → Execution × σ
  | 0, x, s => (x, s)
  | budget + 1, x, s =>
    if !x.isRunning then (x, h.settle settings p x s)
    else if h.isCancelled x.id s then
      let y := (x.fail .cancelled).touch (h.now s)
      (y, h.settle settings p y s)
    else
      let (y, s) := h.advance settings p x s
      let y := y.touch (h.now s)
      h.run settings p budget y (if y.isRunning then h.publish y s else s)

end Host

end StepFlow
