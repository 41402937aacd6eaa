import StepFlow.Document
import StepFlow.Value.Record

/-!
# Settings of the engine

What holds for the steps that do not say otherwise: how often a failed attempt
is repeated, how long an attempt may take, how long to pause in between, and
whether a failure that no route takes care of ends the run.
-/

namespace StepFlow

/-- **Settings of the engine.** -/
structure Settings where
  /-- Retries of a step that sets none. -/
  maxRetries : UInt32 := 0
  /-- Seconds for one attempt of a step that sets none. -/
  timeout : UInt64 := 300
  /-- Milliseconds between two attempts. -/
  retryDelay : UInt64 := 0
  /-- Does a failure fail the run if neither `onFailure` nor a branch routes it? -/
  failOnUnroutedError : Bool := false
deriving Repr, DecidableEq

namespace Settings

variable {δ : Type} [Document δ]

open Document

/-- **Reads settings.**  Every field has a default. -/
def read (d : δ) : Option Settings := do
  let f ← fields?
    ["default_max_retries", "default_timeout_secs", "retry_delay_ms", "fail_on_unrouted_error"] d
  return { maxRetries := ← f.withDefault 0 uint32? "default_max_retries"
           timeout := ← f.withDefault 300 uint64? "default_timeout_secs"
           retryDelay := ← f.withDefault 0 uint64? "retry_delay_ms"
           failOnUnroutedError := ← f.withDefault false bool? "fail_on_unrouted_error" }

/-- **Writes settings.** -/
def toValue (s : Settings) : Value :=
  .record
    [("default_max_retries", some (.ofNat s.maxRetries.toNat)),
      ("default_timeout_secs", some (.ofNat s.timeout.toNat)),
      ("retry_delay_ms", some (.ofNat s.retryDelay.toNat)),
      ("fail_on_unrouted_error", some (.bool s.failOnUnroutedError))]

end Settings

end StepFlow
