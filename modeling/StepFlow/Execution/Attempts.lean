import StepFlow.Execution.Host

/-!
# Attempts

A step calls its tool until an attempt succeeds, the attempts are used up, or
the run is cancelled.  Whether it is cancelled is asked after a failure that
could be repeated, and not again before the next attempt.
-/

namespace StepFlow

/-- **What the attempts at a step came to.** -/
structure Invocation where
  /-- The result of the last attempt. -/
  result : ToolResult
  attempts : Nat
  /-- Did cancellation keep attempts from being made? -/
  cancelled : Bool

/-- How a step is attempted: one call, the question for cancellation, and what
happens before attempt number `n`, which repeats a failure. -/
structure Attempt (σ : Type) where
  call : σ → ToolResult × σ
  isCancelled : σ → Bool
  beforeRetry : (n : Nat) → ToolResult → σ → σ

/-- Makes attempt number `n` and up to `left` more. -/
def Attempt.repeat {σ : Type} (a : Attempt σ) : (left n : Nat) → σ → Invocation × σ
  | 0, n, s =>
    let (result, s) := a.call s
    (⟨result, n, false⟩, s)
  | left + 1, n, s =>
    let (result, s) := a.call s
    if result.success then (⟨result, n, false⟩, s)
    else if a.isCancelled s then (⟨result, n, true⟩, s)
    else a.repeat left (n + 1) (a.beforeRetry (n + 1) result s)

/-- The same attempts, keeping what is handed over before each retry. -/
def Attempt.kept {σ : Type} (a : Attempt σ) : Attempt (σ × List (Nat × ToolResult)) where
  call s := let (r, t) := a.call s.1; (r, t, s.2)
  isCancelled s := a.isCancelled s.1
  beforeRetry n r s := (a.beforeRetry n r s.1, s.2 ++ [(n, r)])

/-- How many attempts a step may take. -/
def Step.maxAttempts (s : Step) (settings : Settings) : Nat :=
  min ((s.maxRetries.getD settings.maxRetries).toNat + 1) (twoTo 32 - 1)

/-- How many seconds an attempt at a step may take. -/
def Step.timeLimit (s : Step) (settings : Settings) : UInt64 := s.timeout.getD settings.timeout

/-- Pauses between two attempts, if the settings say so. -/
def Host.rest {σ : Type} (h : Host σ) (settings : Settings) (s : σ) : σ :=
  if settings.retryDelay = 0 then s else h.pause settings.retryDelay s

/-- How a step is attempted in a run. -/
def Host.attempt {σ : Type} (h : Host σ) (settings : Settings) (id : ExecutionId) (step : Step)
    (parameters : Table Value) (onRetry : (n : Nat) → ToolResult → σ → σ) : Attempt σ where
  call := h.call ⟨.attempt id step.id, step.tool, parameters⟩ (step.timeLimit settings)
  isCancelled := h.isCancelled id
  beforeRetry n result s := h.rest settings (onRetry n result s)

/-- **Invokes a step**: attempts it as often as it may be. -/
def Host.invoke {σ : Type} (h : Host σ) (settings : Settings) (id : ExecutionId) (step : Step)
    (parameters : Table Value) (onRetry : (n : Nat) → ToolResult → σ → σ) (s : σ) :
    Invocation × σ :=
  (h.attempt settings id step parameters onRetry).repeat (step.maxAttempts settings - 1) 1 s

end StepFlow
