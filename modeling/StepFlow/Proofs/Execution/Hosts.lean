import StepFlow.Proofs.Execution.Transitions

/-!
# What a run leaves of its host

A run touches the state of its host only through the operations of the host, and in
its own name.  So whatever all operations for one run keep, the whole run keeps
(`Host.KeepsFor.run`).  This is what tells the runs of one host apart; what concerns none of
them in particular is kept by every operation (`Host.Keeps`).

The flag for cancellation is the case that matters.  Where flags are never taken
down, an advance that ends with the flag of its run down has never seen it up, and
it went as it would have gone on a host that is deaf to cancellation
(`Host.advance_deaf`).
-/

namespace StepFlow

variable {σ : Type}

/-- What is over does not wait. -/
theorem Status.ne_waiting_of_isOver {s : Status} (halted : s.isOver = true) : s ≠ .waiting := by
  rintro rfl
  cases halted

/-- What a person is asked for a run that waits. -/
def Execution.inquiry (p : Pipeline) (x : Execution) : HumanRequest :=
  ⟨x.id, x.current, Step.question (p.step? x.current) x.current, x⟩

/-- **Every operation of a host keeps a property of its state.** -/
structure Host.Keeps (h : Host σ) (I : σ → Prop) : Prop where
  call : ∀ c timeout s, I s → I (h.call c timeout s).2
  emit : ∀ id event s, I s → I (h.emit id event s)
  pause : ∀ ms s, I s → I (h.pause ms s)
  publish : ∀ x s, I s → I (h.publish x s)
  ask : ∀ q s, I s → I (h.ask q s)

/-- **Every operation for one run keeps a property of the state of its host.** -/
structure Host.KeepsFor (h : Host σ) (id : ExecutionId) (I : σ → Prop) : Prop where
  call : ∀ c timeout s, c.purpose.execution = id → I s → I (h.call c timeout s).2
  emit : ∀ event s, I s → I (h.emit id event s)
  pause : ∀ ms s, I s → I (h.pause ms s)
  publish : ∀ x s, x.id = id → I s → I (h.publish x s)
  ask : ∀ q s, q.execution = id → I s → I (h.ask q s)

/-- What every operation keeps, those for one run keep. -/
theorem Host.Keeps.keepsFor {h : Host σ} {I : σ → Prop} (keeps : h.Keeps I) (id : ExecutionId) :
    h.KeepsFor id I where
  call c timeout s _ := keeps.call c timeout s
  emit := keeps.emit id
  pause := keeps.pause
  publish x s _ := keeps.publish x s
  ask q s _ := keeps.ask q s

/-! ### Attempts -/

/-- Every attempt, and what happens before it, keeps a property of the state. -/
structure Attempt.Keeps (a : Attempt σ) (I : σ → Prop) : Prop where
  call : ∀ s, I s → I (a.call s).2
  beforeRetry : ∀ n r s, I s → I (a.beforeRetry n r s)

/-- The same attempts, whatever is asked for. -/
def Attempt.deaf (a : Attempt σ) : Attempt σ := { a with isCancelled := fun _ => false }

namespace Attempt

variable {a : Attempt σ} {I : σ → Prop}

theorem Keeps.repeat (keeps : a.Keeps I) {left n : Nat} {s : σ} (before : I s) :
    I (a.repeat left n s).2 := by
  induction left generalizing n s with
  | zero => exact keeps.call s before
  | succ left ih =>
    have after := keeps.call s before
    rw [Attempt.repeat]
    simp only
    split
    · exact after
    · split
      · exact after
      · exact ih (keeps.beforeRetry _ _ _ after)

/-- **Attempts that end with the flag down have not seen it up.** -/
theorem repeat_deaf (raised : ∀ s, a.isCancelled s = true → I s) {left n : Nat} {s : σ}
    (quiet : ¬ I (a.repeat left n s).2) : a.deaf.repeat left n s = a.repeat left n s := by
  induction left generalizing n s with
  | zero => rfl
  | succ left ih =>
    rw [Attempt.repeat] at quiet ⊢
    rw [Attempt.repeat]
    simp only at quiet ⊢
    show (if (a.call s).1.success = true then _ else if false = true then _ else _) = _
    by_cases succeeded : (a.call s).1.success = true
    · rw [if_pos succeeded, if_pos succeeded]
      rfl
    · rw [if_neg succeeded] at quiet
      rw [if_neg succeeded, if_neg succeeded, if_neg Bool.false_ne_true]
      -- a flag that was seen would still be up
      by_cases seen : a.isCancelled (a.call s).2 = true
      · rw [if_pos seen] at quiet
        exact absurd (raised _ seen) quiet
      · rw [if_neg seen] at quiet ⊢
        exact ih quiet

end Attempt

namespace Host

/-- The same host, which nobody can ask to cancel anything. -/
def deaf (h : Host σ) : Host σ := { h with isCancelled := fun _ _ => false }

/-- The attempts at a step, and the state of the host after them. -/
def attempts (h : Host σ) (settings : Settings) (step : Step) (x : Execution) (s : σ) :
    Invocation × σ :=
  h.invoke settings x.id step (x.parameters step)
    (fun n _ s => h.emit x.id (.stepRetrying step.id n) s) (h.emit x.id (.stepStarted step.id) s)

/-- What is made of the attempts at a step. -/
def handle (h : Host σ) (settings : Settings) (step : Step) (x : Execution)
    (came : Invocation × σ) : Execution × σ :=
  if came.1.cancelled then ((x.record step.id came.1.result).fail .cancelled, came.2)
  else
    let (route, y) := x.conclude settings.failOnUnroutedError step came.1.result
    (y, h.emitOutcome x.id step came.1.attempts came.1.result.toOutcome route came.2)

/-- A step is performed by making its attempts and going where they lead. -/
theorem perform_eq (h : Host σ) (settings : Settings) (step : Step) (x : Execution) (s : σ) :
    h.perform settings step x s = h.handle settings step x (h.attempts settings step x s) := rfl

variable {h : Host σ} {I : σ → Prop} (settings : Settings) (p : Pipeline)

/-- A run keeps its id. -/
theorem id_run (budget : Nat) (x : Execution) (s : σ) :
    (h.run settings p budget x s).1.id = x.id := by
  induction budget generalizing x s with
  | zero => rfl
  | succ budget ih =>
    unfold Host.run
    split
    · rfl
    · split
      · rfl
      · exact (ih _ _).trans (h.advances_advance settings p x s).id_eq

section Unrolled

variable (h) {x : Execution} {s : σ}

/-- A run that is not running is settled. -/
theorem run_of_halted (halted : x.status ≠ .running) (budget : Nat) (s : σ) :
    h.run settings p (budget + 1) x s = (x, h.settle settings p x s) := by
  have stopped : x.isRunning = false := decide_eq_false halted
  rw [Host.run, stopped, if_pos Bool.not_false]

/-- A run that finds its flag up fails, and is settled. -/
theorem run_of_isCancelled (running : x.status = .running) (seen : h.isCancelled x.id s = true)
    (budget : Nat) :
    h.run settings p (budget + 1) x s =
      ((x.fail .cancelled).touch (h.now s),
        h.settle settings p ((x.fail .cancelled).touch (h.now s)) s) := by
  have going : x.isRunning = true := decide_eq_true running
  rw [Host.run, going, seen, if_neg (by decide), if_pos rfl]

/-- A run that goes on advances, and the rest of its budget is for what it has come to. -/
theorem run_of_running (running : x.status = .running) (unasked : h.isCancelled x.id s = false)
    (budget : Nat) :
    h.run settings p (budget + 1) x s =
      let came := h.advance settings p x s
      let y := came.1.touch (h.now came.2)
      h.run settings p budget y (if y.isRunning then h.publish y came.2 else came.2) := by
  have going : x.isRunning = true := decide_eq_true running
  rw [Host.run, going, unasked, if_neg (by decide), if_neg Bool.false_ne_true]

end Unrolled

/-- **Where a run stops** that is driven by so many steps at most: what it has come to, and what it
has left of its host before it is settled. -/
def stop? (h : Host σ) (settings : Settings) (p : Pipeline) :
    (budget : Nat) → Execution → σ → Option (Execution × σ)
  | 0, _, _ => none
  | budget + 1, x, s =>
    if !x.isRunning then some (x, s)
    else if h.isCancelled x.id s then some ((x.fail .cancelled).touch (h.now s), s)
    else
      let (y, s) := h.advance settings p x s
      let y := y.touch (h.now s)
      h.stop? settings p budget y (if y.isRunning then h.publish y s else s)

section Stops

variable (h) {x : Execution} {s : σ}

/-- A run that is not running stops here. -/
theorem stop?_of_halted (halted : x.status ≠ .running) (budget : Nat) (s : σ) :
    h.stop? settings p (budget + 1) x s = some (x, s) := by
  have stopped : x.isRunning = false := decide_eq_false halted
  rw [Host.stop?, stopped, if_pos Bool.not_false]

/-- A run that finds its flag up stops as it fails. -/
theorem stop?_of_isCancelled (running : x.status = .running)
    (seen : h.isCancelled x.id s = true) (budget : Nat) :
    h.stop? settings p (budget + 1) x s = some ((x.fail .cancelled).touch (h.now s), s) := by
  have going : x.isRunning = true := decide_eq_true running
  rw [Host.stop?, going, seen, if_neg (by decide), if_pos rfl]

/-- A run that goes on stops where its next state stops. -/
theorem stop?_of_running (running : x.status = .running) (unasked : h.isCancelled x.id s = false)
    (budget : Nat) :
    h.stop? settings p (budget + 1) x s =
      let came := h.advance settings p x s
      let y := came.1.touch (h.now came.2)
      h.stop? settings p budget y (if y.isRunning then h.publish y came.2 else came.2) := by
  have going : x.isRunning = true := decide_eq_true running
  rw [Host.stop?, going, unasked, if_neg (by decide), if_neg Bool.false_ne_true]

end Stops

/-- **A run is settled where it stops.** -/
theorem run_of_stop? {budget : Nat} {x y : Execution} {s t : σ}
    (stops : h.stop? settings p budget x s = some (y, t)) :
    h.run settings p budget x s = (y, h.settle settings p y t) := by
  induction budget generalizing x s with
  | zero => cases stops
  | succ budget ih =>
    by_cases running : x.status = .running
    · cases seen : h.isCancelled x.id s with
      | true =>
        rw [h.stop?_of_isCancelled settings p running seen] at stops
        cases stops
        exact h.run_of_isCancelled settings p running seen budget
      | false =>
        rw [h.stop?_of_running settings p running seen] at stops
        rw [h.run_of_running settings p running seen]
        exact ih stops
    · rw [h.stop?_of_halted settings p running] at stops
      cases stops
      exact h.run_of_halted settings p running budget _

/-- A run keeps its id until it stops. -/
theorem id_of_stop? {budget : Nat} {x y : Execution} {s t : σ}
    (stops : h.stop? settings p budget x s = some (y, t)) : y.id = x.id := by
  rw [← h.id_run settings p budget x s, run_of_stop? settings p stops]

/-- A run that waits is settled by asking a person. -/
theorem settle_of_waiting {x : Execution} (waiting : x.status = .waiting) (s : σ) :
    h.settle settings p x s =
      h.ask (x.inquiry p) (h.emit x.id (.humanRequested x.current) (h.publish x s)) := by
  unfold Host.settle
  rw [waiting]
  rfl

/-- A run that is over is settled by finishing it. -/
theorem settle_of_isOver {x : Execution} (halted : x.status.isOver = true) (s : σ) :
    h.settle settings p x s = h.finish settings p x (h.publish x s) := by
  unfold Host.settle
  cases status : x.status with
  | running => rw [status] at halted; cases halted
  | waiting => rw [status] at halted; cases halted
  | completed => rfl
  | failed => rfl

section KeepsFor

variable {id : ExecutionId} (keeps : h.KeepsFor id I) {x : Execution} (mine : x.id = id)

include keeps

theorem KeepsFor.attempt (step : Step) (parameters : Table Value) :
    (h.attempt settings id step parameters
      fun n _ s => h.emit id (.stepRetrying step.id n) s).Keeps I where
  call s before := keeps.call _ _ s rfl before
  beforeRetry n r s before := by
    have told := keeps.emit (.stepRetrying step.id n) s before
    show I (h.rest settings _)
    unfold Host.rest
    split
    · exact told
    · exact keeps.pause _ _ told

theorem KeepsFor.emitOutcome (step : Step) (attempts : Nat) (o : Outcome)
    (route : Option Route) {s : σ} (before : I s) :
    I (h.emitOutcome id step attempts o route s) := by
  unfold Host.emitOutcome
  split
  · exact before
  · split
    · exact keeps.emit _ _ before
    · exact keeps.emit _ _ before

include mine

theorem KeepsFor.attempts (step : Step) {s : σ} (before : I s) :
    I (h.attempts settings step x s).2 := by
  subst mine
  exact (keeps.attempt settings step (x.parameters step)).repeat (keeps.emit _ _ before)

theorem KeepsFor.handle (step : Step) {came : Invocation × σ} (before : I came.2) :
    I (h.handle settings step x came).2 := by
  subst mine
  unfold Host.handle
  split
  · exact before
  · exact keeps.emitOutcome _ _ _ _ before

theorem KeepsFor.enter (step : Step) {s : σ} (before : I s) :
    I (h.enter settings step x s).2 := by
  unfold Host.enter
  split
  · exact before
  · rw [perform_eq]
    exact keeps.handle settings mine step (keeps.attempts settings mine step before)

/-- **An advance** keeps what the operations for its run keep. -/
theorem KeepsFor.advance {s : σ} (before : I s) : I (h.advance settings p x s).2 := by
  unfold Host.advance
  split
  · exact before
  · split
    · exact keeps.enter settings mine _ before
    · split
      · exact before
      · rename_i decided
        refine keeps.enter settings ?_ _ (mine ▸ keeps.emit _ _ before)
        exact (Execution.decides_decideLoop decided).samePlace.id.trans mine
      · exact mine ▸ keeps.emit _ _ before

theorem KeepsFor.finish {s : σ} (before : I s) : I (h.finish settings p x s) := by
  subst mine
  unfold Host.finish Host.callHook
  refine keeps.emit _ _ ?_
  split
  · exact before
  · exact keeps.call _ _ _ rfl before

/-- **Settling** keeps what the operations for its run keep, once it has shown the state. -/
theorem KeepsFor.settle_of_publish {s : σ} (published : I (h.publish x s)) :
    I (h.settle settings p x s) := by
  unfold Host.settle
  simp only
  split
  · exact published
  · exact keeps.ask _ _ mine (mine ▸ keeps.emit _ _ published)
  · exact keeps.finish settings p mine published

theorem KeepsFor.settle {s : σ} (before : I s) : I (h.settle settings p x s) :=
  keeps.settle_of_publish settings p mine (keeps.publish x s mine before)

/-- **Where a run stops**, its host has kept what the operations for the run keep. -/
theorem KeepsFor.stop? {budget : Nat} {y : Execution} {s t : σ} (before : I s)
    (stops : h.stop? settings p budget x s = some (y, t)) : I t := by
  induction budget generalizing x s with
  | zero => cases stops
  | succ budget ih =>
    by_cases running : x.status = .running
    · cases seen : h.isCancelled x.id s with
      | true =>
        rw [h.stop?_of_isCancelled settings p running seen] at stops
        cases stops
        exact before
      | false =>
        rw [h.stop?_of_running settings p running seen] at stops
        have advanced := keeps.advance settings p mine before
        have still (now : Instant) : ((h.advance settings p x s).1.touch now).id = id :=
          (h.advances_advance settings p x s).id_eq.trans mine
        refine ih (still _) ?_ stops
        split
        · exact keeps.publish _ _ (still _) advanced
        · exact advanced
    · rw [h.stop?_of_halted settings p running] at stops
      cases stops
      exact before

/-- **A whole run** keeps what the operations for it keep. -/
theorem KeepsFor.run (budget : Nat) {s : σ} (before : I s) :
    I (h.run settings p budget x s).2 := by
  induction budget generalizing x s with
  | zero => exact before
  | succ budget ih =>
    unfold Host.run
    split
    · exact keeps.settle settings p mine before
    · split
      · exact keeps.settle settings p (x := (x.fail .cancelled).touch (h.now s)) mine before
      · have advanced := keeps.advance settings p mine before
        have still (now : Instant) : ((h.advance settings p x s).1.touch now).id = id :=
          (h.advances_advance settings p x s).id_eq.trans mine
        simp only
        refine ih (still _) ?_
        split
        · exact keeps.publish _ _ (still _) advanced
        · exact advanced

end KeepsFor

namespace Keeps

variable (keeps : h.Keeps I)

include keeps

theorem handle (step : Step) (x : Execution) {came : Invocation × σ} (before : I came.2) :
    I (h.handle settings step x came).2 :=
  (keeps.keepsFor x.id).handle settings rfl step before

theorem finish (x : Execution) {s : σ} (before : I s) : I (h.finish settings p x s) :=
  (keeps.keepsFor x.id).finish settings p rfl before

theorem settle (x : Execution) {s : σ} (before : I s) : I (h.settle settings p x s) :=
  (keeps.keepsFor x.id).settle settings p rfl before

/-- **A whole run** keeps what the host keeps. -/
theorem run (budget : Nat) (x : Execution) {s : σ} (before : I s) :
    I (h.run settings p budget x s).2 :=
  (keeps.keepsFor x.id).run settings p rfl budget before

end Keeps

/-! ### Deaf hosts -/

variable {settings p} {x : Execution} {s : σ}

theorem perform_deaf (keeps : h.Keeps I) {step : Step}
    (raised : ∀ s, h.isCancelled x.id s = true → I s)
    (quiet : ¬ I (h.perform settings step x s).2) :
    h.deaf.perform settings step x s = h.perform settings step x s := by
  have down : ¬ I (h.attempts settings step x s).2 := by
    intro up
    exact quiet (keeps.handle settings step x up)
  have same : h.deaf.attempts settings step x s = h.attempts settings step x s :=
    Attempt.repeat_deaf (a := h.attempt settings x.id step (x.parameters step) _) raised down
  calc h.deaf.perform settings step x s
      = h.handle settings step x (h.deaf.attempts settings step x s) := rfl
    _ = h.handle settings step x (h.attempts settings step x s) := by rw [same]
    _ = h.perform settings step x s := rfl

theorem enter_deaf (keeps : h.Keeps I) {step : Step}
    (raised : ∀ s, h.isCancelled x.id s = true → I s)
    (quiet : ¬ I (h.enter settings step x s).2) :
    h.deaf.enter settings step x s = h.enter settings step x s := by
  unfold enter at quiet ⊢
  split
  · rfl
  · rename_i gate
    rw [if_neg gate] at quiet
    exact perform_deaf keeps raised quiet

/-- **An advance that ends with the flag down has not seen it up.** -/
theorem advance_deaf (keeps : h.Keeps I) (raised : ∀ s, h.isCancelled x.id s = true → I s)
    (quiet : ¬ I (h.advance settings p x s).2) :
    h.deaf.advance settings p x s = h.advance settings p x s := by
  unfold advance at quiet ⊢
  cases hs : p.step? x.current with
  | none => rfl
  | some step =>
    cases hl : step.loop with
    | none =>
      simp only [hs, hl] at quiet ⊢
      exact enter_deaf keeps raised quiet
    | some l =>
      cases decided : x.decideLoop step.id l with
      | error f => simp only [hl, decided]
      | ok outcome =>
        obtain ⟨b, y⟩ := outcome
        cases b with
        | true =>
          simp only [hs, hl, decided] at quiet ⊢
          have same : y.id = x.id := (Execution.decides_decideLoop decided).samePlace.id
          exact enter_deaf keeps (same.symm ▸ raised) quiet
        | false =>
          simp only [hl, decided]
          rfl

end Host

end StepFlow
