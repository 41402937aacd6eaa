import StepFlow.Proofs.Execution.Agreement

/-!
# Hosts that serve a run alike

Two hosts can serve one run alike, though their states differ: in what they keep for other runs,
in their histories, or in the time.  What they have in common is a relation between their states
(`Host.Simulates`).  If every operation for a run keeps this relation, and calls come to the same
outcome, then a whole run comes to the same on both hosts, and the relation still holds
(`Host.Simulates.run`).

A relation says less than a view of one state in the other.  It can be as weak as what the engine
keeps of the one run.
-/

namespace StepFlow

variable {σ τ : Type} {timed : Prop} {S : σ → τ → Prop} {s : σ} {t : τ} {x y : Execution}

/-- Attempts that agree. -/
structure Invocation.Agrees (timed : Prop) (i j : Invocation) : Prop where
  result : i.result.Agrees timed j.result
  attempts : j.attempts = i.attempts
  cancelled : j.cancelled = i.cancelled

/-- Two ways to attempt a step that keep a relation of their states. -/
structure Attempt.Simulates (timed : Prop) (S : σ → τ → Prop) (a : Attempt σ) (b : Attempt τ) :
    Prop where
  call : ∀ {s t}, S s t → (a.call s).1.Agrees timed (b.call t).1 ∧ S (a.call s).2 (b.call t).2
  isCancelled : ∀ {s t}, S s t → b.isCancelled t = a.isCancelled s
  beforeRetry : ∀ n {r r' s t}, S s t → S (a.beforeRetry n r s) (b.beforeRetry n r' t)

/-- **Two runs that came to the same**, on hosts that are related afterwards. -/
structure Arrive (timed : Prop) (S : σ → τ → Prop) (a : Execution × σ) (b : Execution × τ) :
    Prop where
  run : a.1.Agrees timed b.1
  states : S a.2 b.2

theorem Attempt.Simulates.repeated {a : Attempt σ} {b : Attempt τ} (like : a.Simulates timed S b)
    (left n : Nat) (related : S s t) :
    (a.repeat left n s).1.Agrees timed (b.repeat left n t).1 ∧
      S (a.repeat left n s).2 (b.repeat left n t).2 := by
  induction left generalizing n s t with
  | zero =>
    obtain ⟨results, after⟩ := like.call related
    exact ⟨⟨results, rfl, rfl⟩, after⟩
  | succ left ih =>
    obtain ⟨results, after⟩ := like.call related
    have success : (b.call t).1.success = (a.call s).1.success :=
      congrArg Outcome.success results.outcome
    unfold Attempt.repeat
    simp only [success, like.isCancelled after]
    split
    · exact ⟨⟨results, rfl, rfl⟩, after⟩
    · split
      · exact ⟨⟨results, rfl, rfl⟩, after⟩
      · exact ih (n + 1) (like.beforeRetry (n + 1) after)

namespace Host

/-- **Two hosts serve one run alike**, as far as a relation of their states goes. -/
structure Simulates (timed : Prop) (id : ExecutionId) (S : σ → τ → Prop) (h : Host σ) (k : Host τ) :
    Prop where
  now : ∀ {s t}, S s t → timed → k.now t = h.now s
  isCancelled : ∀ {s t}, S s t → k.isCancelled id t = h.isCancelled id s
  call : ∀ c timeout {s t}, c.purpose.execution = id → S s t →
    (h.call c timeout s).1.Agrees timed (k.call c timeout t).1 ∧
      S (h.call c timeout s).2 (k.call c timeout t).2
  emit : ∀ event {s t}, S s t → S (h.emit id event s) (k.emit id event t)
  pause : ∀ ms {s t}, S s t → S (h.pause ms s) (k.pause ms t)
  publish : ∀ {x y s t}, x.id = id → x.Agrees timed y → S s t → S (h.publish x s) (k.publish y t)
  ask : ∀ step prompt {x y s t}, x.id = id → x.Agrees timed y → S s t →
    S (h.ask ⟨id, step, prompt, x⟩ s) (k.ask ⟨id, step, prompt, y⟩ t)

namespace Simulates

variable {id : ExecutionId} {h : Host σ} {k : Host τ} (like : h.Simulates timed id S k)
  (settings : Settings) (p : Pipeline) {step : Step}

include like

theorem emitOutcome (step : Step) (attempts : Nat) (o : Outcome) (route : Option Route)
    (related : S s t) :
    S (h.emitOutcome id step attempts o route s) (k.emitOutcome id step attempts o route t) := by
  unfold Host.emitOutcome
  split
  · exact related
  · split
    · exact like.emit _ related
    · exact like.emit _ related

variable (mine : x.id = id) (agrees : x.Agrees timed y) (related : S s t)

include mine agrees related

theorem attempts (step : Step) :
    (h.attempts settings step x s).1.Agrees timed (k.attempts settings step y t).1 ∧
      S (h.attempts settings step x s).2 (k.attempts settings step y t).2 := by
  subst mine
  have attempt : Attempt.Simulates timed S
      (h.attempt settings x.id step (x.parameters step)
        fun n _ s => h.emit x.id (.stepRetrying step.id n) s)
      (k.attempt settings x.id step (x.parameters step)
        fun n _ s => k.emit x.id (.stepRetrying step.id n) s) := by
    refine ⟨like.call _ _ rfl, like.isCancelled, fun n {r r' s t} related => ?_⟩
    have told := like.emit (.stepRetrying step.id n) related
    show S (h.rest settings _) (k.rest settings _)
    unfold Host.rest
    split
    · exact told
    · exact like.pause _ told
  unfold Host.attempts
  rw [agrees.id, agrees.parameters]
  exact attempt.repeated _ 1 (like.emit _ related)

theorem enter (blind : timed ∨ step.ReadsNoTimes) :
    Arrive timed S (h.enter settings step x s) (k.enter settings step y t) := by
  unfold Host.enter
  split
  · exact ⟨agrees.setStatus .waiting, related⟩
  · obtain ⟨came, after⟩ := like.attempts settings mine agrees related step
    rw [perform_eq, perform_eq]
    unfold Host.handle
    rw [came.cancelled]
    split
    · exact ⟨(agrees.record step.id came.result).fail _, after⟩
    · obtain ⟨route, concluded⟩ :=
        agrees.conclude settings.failOnUnroutedError blind came.result
      refine ⟨concluded, ?_⟩
      dsimp only
      rw [route, came.attempts, came.result.outcome, agrees.id, mine]
      exact like.emitOutcome step _ _ _ after

/-- **An advance** comes to the same. -/
theorem advance (blind : timed ∨ p.ReadsNoTimes) :
    Arrive timed S (h.advance settings p x s) (k.advance settings p y t) := by
  unfold Host.advance
  rw [agrees.current]
  cases declared : p.step? x.current with
  | none => exact ⟨agrees.fail _, related⟩
  | some step =>
    have blind : timed ∨ step.ReadsNoTimes := blind.imp_right fun untimed => untimed _ _ declared
    cases looping : step.loop with
    | none =>
      simp only [looping]
      exact like.enter settings mine agrees related blind
    | some l =>
      have decided := agrees.decideLoop blind looping step.id
      have place {b : Bool} {u : Execution} (came : x.decideLoop step.id l = .ok (b, u)) :
          u.id = id := (Execution.decides_decideLoop came).samePlace.id.trans mine
      simp only [looping]
      generalize x.decideLoop step.id l = dx at decided place
      generalize y.decideLoop step.id l = dy at decided
      cases decided with
      | failed f => exact ⟨agrees.fail _, related⟩
      | @decided u v b came =>
        cases b with
        | true =>
          dsimp only
          rw [agrees.id, mine, came.iterationsOf]
          exact like.enter settings (place rfl) came (like.emit _ related) blind
        | false =>
          dsimp only
          rw [agrees.id, mine, came.iterationsOf]
          exact ⟨(came.resetLoop _).transition _ _, like.emit _ related⟩

theorem finish : S (h.finish settings p x s) (k.finish settings p y t) := by
  have hook : S (h.callHook settings p x s) (k.callHook settings p y t) := by
    have told : hookParameters y = hookParameters x := by
      unfold hookParameters
      rw [agrees.id, agrees.globalState, agrees.error, agrees.pipelineId]
    unfold Host.callHook
    rw [agrees.status, told, agrees.id]
    split
    · exact related
    · exact (like.call ⟨.hook x.id, _, _⟩ _ mine related).2
  unfold Host.finish
  rw [agrees.status, agrees.id, mine]
  exact like.emit _ hook

theorem settle : S (h.settle settings p x s) (k.settle settings p y t) := by
  have shown := like.publish mine agrees related
  unfold Host.settle
  rw [agrees.status, agrees.current, agrees.id, mine]
  dsimp only
  split
  · exact shown
  · exact like.ask _ _ mine agrees (like.emit _ shown)
  · exact like.finish settings p mine agrees shown

/-- **A whole run comes to the same** on two hosts that serve it alike. -/
theorem run (blind : timed ∨ p.ReadsNoTimes) (budget : Nat) :
    Arrive timed S (h.run settings p budget x s) (k.run settings p budget y t) := by
  induction budget generalizing x y s t with
  | zero => exact ⟨agrees, related⟩
  | succ budget ih =>
    unfold Host.run
    rw [agrees.isRunning, agrees.id, mine, like.isCancelled related]
    split
    · exact ⟨agrees, like.settle settings p mine agrees related⟩
    · split
      · have failed := (agrees.fail .cancelled).touch (like.now related)
        exact ⟨failed, like.settle settings p (x := (x.fail .cancelled).touch (h.now s)) mine
          failed related⟩
      · obtain ⟨advanced, after⟩ := like.advance settings p mine agrees related blind
        have touched := advanced.touch (like.now after)
        have still (now : Instant) : ((h.advance settings p x s).1.touch now).id = id :=
          (h.advances_advance settings p x s).id_eq.trans mine
        dsimp only
        refine ih (still _) touched ?_
        rw [touched.isRunning]
        split
        · exact like.publish (still _) touched after
        · exact after

end Simulates

end Host

end StepFlow
