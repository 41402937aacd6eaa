import StepFlow.Proofs.Execution.Calls

/-!
# Runs that are cancelled while they work

A run looks at its flag before every step, and after every failure that it could repeat.  So
if the flag is up when an attempt at a step comes back, that attempt was the last
(`Host.Remembers.callOf_run`).  What is left of the run is fixed: the result is taken in,
a run that would go on finds the flag, and a run that is over is settled (`Host.Ends`).  It
never waits for a person again.

The flag does not undo what the result comes to.  A run that ends by this very result, well or
badly, ends as it would have ended without the flag (`Execution.EndsBy`).

What is load-bearing is that nothing comes between the return of an attempt and the next look
at the flag but events and the showing of states, and these leave the flag as it is.
-/

namespace StepFlow

variable {σ : Type}

namespace Execution

/-- **A run ends at a step by the result of an attempt**, whether or not anyone asked to cancel
it.  `u` is the run that performs the step. -/
inductive EndsBy (strict : Bool) (s : Step) (u : Execution) (r : ToolResult) : Execution → Prop
  /-- A condition of the routes has no value. -/
  | undecided {f : Expression.Failure}
      (h : (u.record s.id r).chooseRoute s r.toOutcome = .error f) :
      EndsBy strict s u r ((u.record s.id r).fail (.expression f))
  /-- Nothing routes the failure, and the settings do not let it pass. -/
  | unrouted {route : Route} (h : (u.record s.id r).chooseRoute s r.toOutcome = .ok route)
      (refused : strict = true ∧ isUnroutedFailure route r.toOutcome = true) :
      EndsBy strict s u r ((u.record s.id r).fail (unroutedFault s r.toOutcome))
  /-- The route leads nowhere, or to the end marker. -/
  | completes {route : Route} (h : (u.record s.id r).chooseRoute s r.toOutcome = .ok route)
      (ends : ∀ target, nextTarget s route = some target → target = endMarker) :
      EndsBy strict s u r (((u.record s.id r).resetLoop s.id).complete)

/-- **A run has failed because it was cancelled.** -/
structure WasCancelled (x : Execution) : Prop where
  status : x.status = .failed
  error : x.error = some ⟨"CANCELLED", "Execution cancelled", some x.current⟩

theorem wasCancelled_fail (x : Execution) (now : Instant) :
    ((x.fail .cancelled).touch now).WasCancelled := ⟨rfl, rfl⟩

variable {strict : Bool} {s : Step} {u y : Execution} {r : ToolResult}

/-- **What a step comes to**: the run goes on, or it ends by the result. -/
theorem endsBy_conclude (running : u.status = .running) (strict : Bool) (s : Step)
    (r : ToolResult) :
    (u.conclude strict s r).2.status = .running ∨
      EndsBy strict s u r (u.conclude strict s r).2 := by
  unfold conclude
  cases chosen : (u.record s.id r).chooseRoute s r.toOutcome with
  | error f =>
    simp only [chosen]
    exact .inr (.undecided chosen)
  | ok route =>
    simp only [chosen, follow]
    split
    · rename_i refused
      exact .inr (.unrouted chosen (Bool.and_eq_true_iff.mp refused))
    · have ends := transitions_transition (u.record s.id r) s (nextTarget s route)
      generalize (u.record s.id r).transition s (nextTarget s route) = y at ends
      cases ends with
      | completes ends => exact .inr (.completes chosen ends)
      | stays => exact .inl running
      | moves => exact .inl running

theorem EndsBy.isOver (h : EndsBy strict s u r y) : y.status.isOver = true := by
  cases h <;> rfl

end Execution

/-- **A deed that begins nothing**: a hook is called, or it is told what a step came to or that
the run is finished. -/
def Deed.IsClosing (id : ExecutionId) : Deed → Prop
  | called c => c.purpose = .hook id
  | told (.stepCompleted _ _ _) => True
  | told (.stepFailed _ _ _) => True
  | told (.finished _) => True
  | told _ => False

/-- The hook of a run only closes it. -/
theorem Execution.isClosing_hooked (x : Execution) (knows : String → Bool) (p : Pipeline) :
    ∀ deed ∈ x.hooked knows p, deed.IsClosing x.id := by
  intro deed done
  unfold Execution.hooked Execution.hookCall? at done
  cases hook : Host.hookOf p x.status with
  | none =>
    rw [hook] at done
    cases done
  | some tool =>
    rw [hook] at done
    unfold Option.map Call.deeds at done
    simp only at done
    split at done
    · cases List.mem_singleton.mp done
      rfl
    · cases done

/-- What is told of a step that was met only closes it. -/
theorem Execution.Meets.isClosing {strict : Bool} {s : Step} {attempts : Nat} {v y : Execution}
    {r : ToolResult} {told : List Deed} (meets : Meets strict s attempts v r told y)
    (id : ExecutionId) : ∀ deed ∈ told, deed.IsClosing id := by
  intro deed done
  cases meets with
  | stops => cases done
  | undecided => cases done
  | routed =>
    cases List.mem_singleton.mp done
    unfold Event.ofOutcome
    split <;> trivial

open Execution

namespace Host

variable {h : Host σ} {settings : Settings} {p : Pipeline}

/-- **How a run ends** that has come to `y` when its flag is up, and has left its host as `s`. -/
inductive Ends (h : Host σ) (settings : Settings) (p : Pipeline) (y : Execution) (s : σ) :
    Execution × σ → Prop
  /-- It is over already, and is settled. -/
  | settles (halted : y.status.isOver = true) (now : Instant) :
      Ends h settings p y s (y.touch now, h.settle settings p (y.touch now) s)
  /-- It finds that it was cancelled. -/
  | stops (running : y.status = .running) (start stop : Instant) {z : Execution}
      (failed : z = ((y.touch start).fail .cancelled).touch stop) :
      Ends h settings p y s (z, h.settle settings p z (h.publish (y.touch start) s))
  /-- It is cut off by its budget. -/
  | cut (now : Instant) :
      Ends h settings p y s
        (y.touch now, if (y.touch now).isRunning then h.publish (y.touch now) s else s)

/-- A run whose flag is up does no more than end. -/
theorem ends_run (budget : Nat) {y : Execution} {s : σ} (now : Instant)
    (awake : y.status ≠ .waiting)
    (raised : h.isCancelled y.id (h.publish (y.touch now) s) = true) :
    Ends h settings p y s (h.run settings p budget (y.touch now)
      (if (y.touch now).isRunning then h.publish (y.touch now) s else s)) := by
  cases budget with
  | zero => exact .cut now
  | succ budget =>
    by_cases running : y.status = .running
    · have goes : (y.touch now).isRunning = true := decide_eq_true running
      rw [if_pos goes, h.run_of_isCancelled settings p (of_decide_eq_true goes) raised]
      exact .stops running now _ rfl
    · have stopped : (y.touch now).isRunning = false := decide_eq_false running
      have halted : y.status.isOver = true := by
        cases status : y.status with
        | running => exact absurd status running
        | waiting => exact absurd status awake
        | completed => rfl
        | failed => rfl
      rw [h.run_of_halted settings p (of_decide_eq_false stopped), stopped,
        if_neg Bool.false_ne_true]
      exact .settles halted now

/-- **A call is an attempt** of the run `u` at its current step.  `d` was done before. -/
structure IsAttempt (p : Pipeline) (held : List Deed → σ → Prop) (u : Execution) (step : Step)
    (d : List Deed) (m : Made σ) : Prop where
  declared : p.step? u.current = some step
  called : m.call = u.attemptAt step
  before : held d m.state

/-- **The result of an attempt is taken in**: the run has come to `came.1`, and its host was
told so. -/
structure TakesIn (h : Host σ) (settings : Settings) (knows : String → Bool)
    (held : List Deed → σ → Prop) (u : Execution) (step : Step) (d : List Deed) (m : Made σ)
    (came : Execution × σ) : Prop where
  meets : ∃ n told, Meets settings.failOnUnroutedError step n u (m.result h) told came.1 ∧
    held (told ++ (m.call.deeds knows ++ d)) came.2
  turns : came.1 = (u.record step.id (m.result h)).fail .cancelled ∨ came.1.status = .running ∨
    EndsBy settings.failOnUnroutedError step u (m.result h) came.1

/-- A run that takes in a result does not wait. -/
theorem TakesIn.awake {knows : String → Bool} {held : List Deed → σ → Prop} {u : Execution}
    {step : Step} {d : List Deed} {m : Made σ} {came : Execution × σ}
    (takes : TakesIn h settings knows held u step d m came) : came.1.status ≠ .waiting := by
  rcases takes.turns with stopped | running | ends
  · rw [stopped]
    nofun
  · rw [running]
    nofun
  · exact Status.ne_waiting_of_isOver ends.isOver

/-- A run that ends does not wait, if it does not wait before. -/
theorem Ends.awake {y : Execution} {s : σ} {final : Execution × σ}
    (ends : Ends h settings p y s final) (awake : y.status ≠ .waiting) :
    final.1.status ≠ .waiting := by
  cases ends with
  | settles => exact awake
  | stops running start stop failed =>
    rw [failed]
    nofun
  | cut => exact awake

/-- **A run has failed because it was cancelled, or it has ended by the result of an attempt.** -/
theorem Ends.wasCancelled_or {knows : String → Bool} {held : List Deed → σ → Prop}
    {u : Execution} {step : Step} {d : List Deed} {m : Made σ} {came final : Execution × σ}
    (ends : Ends h settings p came.1 came.2 final)
    (takes : TakesIn h settings knows held u step d m came) (stopped : final.1.status ≠ .running) :
    final.1.WasCancelled ∨ EndsBy settings.failOnUnroutedError step u (m.result h) came.1 ∧
      ∃ now, final.1 = came.1.touch now := by
  have turned (now : Instant) (stopped : came.1.status ≠ .running) :
      (came.1.touch now).WasCancelled ∨
        EndsBy settings.failOnUnroutedError step u (m.result h) came.1 ∧
          ∃ now', came.1.touch now = came.1.touch now' := by
    rcases takes.turns with cancelled | running | ended
    · rw [cancelled]
      exact .inl (wasCancelled_fail _ now)
    · exact absurd running stopped
    · exact .inr ⟨ended, now, rfl⟩
  cases ends with
  | settles halted now =>
    refine turned now fun running => ?_
    rw [running] at halted
    cases halted
  | stops running start stop failed =>
    left
    rw [failed]
    exact wasCancelled_fail _ stop
  | cut now => exact turned now stopped

/-- **How a call stands in a run**, which ends as `final`.  `held` is what the host remembers
of the run, and `I` says that the flag of the run is up. -/
inductive CallOf (h : Host σ) (settings : Settings) (knows : String → Bool) (p : Pipeline)
    (id : ExecutionId) (held : List Deed → σ → Prop) (I : σ → Prop) (final : Execution × σ)
    (m : Made σ) : Prop
  /-- It is an attempt.  If the flag is up afterwards, it was the last. -/
  | attempt {step : Step} {u : Execution} {d : List Deed} (same : u.id = id)
      (attempt : IsAttempt p held u step d m)
      (last : I (m.after h) → ∃ came, TakesIn h settings knows held u step d m came ∧
        Ends h settings p came.1 came.2 final)
  /-- It is the hook of the run, which is over and has shown its state. -/
  | hook {d : List Deed} {s : σ} (halted : final.1.status.isOver = true)
      (called : m.call.purpose = .hook id) (before : held d s)
      (shown : m.state = h.publish final.1 s)

/-- The call of finishing a run: its hook, if it has one. -/
theorem mem_log_finish {x : Execution} {s : σ} {l : List (Made σ)} {m : Made σ}
    (made : m ∈ (h.logging.finish settings p x (s, l)).2) :
    m ∈ l ∨ m.call.purpose = .hook x.id ∧ m.state = s := by
  have called : m ∈ (h.logging.callHook settings p x (s, l)).2 := made
  unfold Host.callHook at called
  split at called
  · exact .inl called
  · rcases List.mem_cons.mp called with rfl | earlier
    · exact .inr ⟨rfl, rfl⟩
    · exact .inl earlier

/-- **The calls of settling a run**: its hook, if it is over. -/
theorem mem_log_settle {x : Execution} {s : σ} {l : List (Made σ)} {m : Made σ}
    (made : m ∈ (h.logging.settle settings p x (s, l)).2) :
    m ∈ l ∨ x.status.isOver = true ∧ m.call.purpose = .hook x.id ∧ m.state = h.publish x s := by
  by_cases halted : x.status.isOver = true
  · rw [settle_of_isOver settings p halted] at made
    exact (mem_log_finish made).imp_right fun hook => ⟨halted, hook⟩
  · left
    unfold Host.settle at made
    cases status : x.status with
    | running =>
      simp only [status] at made
      exact made
    | waiting =>
      simp only [status] at made
      exact made
    | completed => exact absurd (by rw [status]; rfl) halted
    | failed => exact absurd (by rw [status]; rfl) halted

/-- What is made of the attempts at a step calls no tool. -/
theorem log_handle (h : Host σ) (settings : Settings) (step : Step) (x : Execution)
    (came : Invocation × σ × List (Made σ)) :
    (h.logging.handle settings step x came).2.2 = came.2.2 := by
  have told (n : Nat) (o : Outcome) (route : Option Route) (s : σ × List (Made σ)) :
      (h.logging.emitOutcome x.id step n o route s).2 = s.2 := by
    unfold emitOutcome
    split
    · rfl
    · split <;> rfl
  unfold Host.handle
  split
  · rfl
  · exact told _ _ _ _

namespace Remembers

/-- A pause between two attempts is no deed. -/
theorem rest {knows : String → Bool} {id : ExecutionId} {held : List Deed → σ → Prop}
    (remembers : h.Remembers knows id held) (settings : Settings) {d : List Deed} {s : σ}
    (before : held d s) : held d (h.rest settings s) := by
  unfold Host.rest
  split
  · exact before
  · exact remembers.pause _ before

variable {knows : String → Bool} {id : ExecutionId} {held : List Deed → σ → Prop}
  (remembers : h.Remembers knows id held) {I : σ → Prop}
  (raises : ∀ s, I s → h.isCancelled id s = true)

include remembers raises

/-- **The attempts at a step.**  If the flag is up after one of them, it was the last. -/
theorem mem_log_attempts {x : Execution} {step : Step} {d : List Deed} {s : σ}
    {l : List (Made σ)} (mine : x.id = id) (before : held d s) {m : Made σ}
    (made : m ∈ (h.logging.attempts settings step x (s, l)).2.2) :
    m ∈ l ∨ m.call = x.attemptAt step ∧ (∃ d, held d m.state) ∧
      (I (m.after h) → (h.attempts settings step x s).1.result = m.result h ∧
        (h.attempts settings step x s).2 = m.after h) := by
  subst mine
  let plain := h.attempt settings x.id step (x.parameters step)
    fun n _ s => h.emit x.id (.stepRetrying step.id n) s
  let logged := h.logging.attempt settings x.id step (x.parameters step)
    fun n _ s => h.logging.emit x.id (.stepRetrying step.id n) s
  have resumes (n : Nat) (r : ToolResult) (s : σ) (l : List (Made σ)) :
      logged.beforeRetry n r (s, l) = (plain.beforeRetry n r s, l) := by
    show h.logging.rest settings _ = (h.rest settings _, l)
    unfold Host.rest
    split <;> rfl
  have ends {d : List Deed} {s : σ} {l : List (Made σ)} (before : held d s) :
      let now : Made σ := ⟨x.attemptAt step, step.timeLimit settings, s⟩
      m ∈ now :: l → m ∈ l ∨ m.call = x.attemptAt step ∧ (∃ d, held d m.state) ∧
        (I (m.after h) → now.result h = m.result h ∧ now.after h = m.after h) := by
    intro now made
    rcases List.mem_cons.mp made with rfl | earlier
    · exact .inr ⟨rfl, ⟨d, before⟩, fun _ => ⟨rfl, rfl⟩⟩
    · exact .inl earlier
  have repeated (left n : Nat) {d : List Deed} {s : σ} {l : List (Made σ)} (before : held d s)
      (made : m ∈ (logged.repeat left n (s, l)).2.2) :
      m ∈ l ∨ m.call = x.attemptAt step ∧ (∃ d, held d m.state) ∧
        (I (m.after h) → (plain.repeat left n s).1.result = m.result h ∧
          (plain.repeat left n s).2 = m.after h) := by
    -- on the attempts that are left; the log grows with each of them
    induction left generalizing n d s l with
    | zero => exact ends before made
    | succ left ih =>
      rw [Attempt.repeat_succ] at made ⊢
      by_cases succeeded : (plain.call s).1.success = true
      · rw [if_pos (show (logged.call (s, l)).1.success = true from succeeded)] at made
        rw [if_pos succeeded]
        exact ends before made
      · rw [if_neg (show ¬ (logged.call (s, l)).1.success = true from succeeded)] at made
        rw [if_neg succeeded]
        by_cases seen : plain.isCancelled (plain.call s).2 = true
        · rw [if_pos (show logged.isCancelled (logged.call (s, l)).2 = true from seen)] at made
          rw [if_pos seen]
          exact ends before made
        · rw [if_neg (show ¬ logged.isCancelled (logged.call (s, l)).2 = true from seen)] at made
          rw [if_neg seen]
          let now : Made σ := ⟨x.attemptAt step, step.timeLimit settings, s⟩
          have called := remembers.call now.call now.timeout rfl before
          have told := remembers.emit (.stepRetrying step.id (n + 1)) called
          have rested : held _ (plain.beforeRetry (n + 1) (plain.call s).1 (plain.call s).2) :=
            remembers.rest settings told
          have made' : m ∈ (logged.repeat left (n + 1)
              (plain.beforeRetry (n + 1) (plain.call s).1 (plain.call s).2, now :: l)).2.2 := by
            rw [← resumes]
            exact made
          rcases ih (n + 1) rested made' with here | later
          · rcases List.mem_cons.mp here with rfl | earlier
            · -- a flag that was up would have been seen
              exact .inr ⟨rfl, ⟨d, before⟩, fun up => absurd (raises _ up) seen⟩
            · exact .inl earlier
          · exact .inr later
  exact repeated _ 1 (remembers.emit _ before) made

/-- **An attempt at a step that is performed.**  If the flag is up afterwards, its result is
taken in. -/
theorem mem_log_perform (keeps : h.KeepsFor id I) {u : Execution} {step : Step}
    {d : List Deed} {s : σ} {l : List (Made σ)} (mine : u.id = id) (running : u.status = .running)
    (declared : p.step? u.current = some step) (before : held d s) {m : Made σ}
    (made : m ∈ (h.logging.perform settings step u (s, l)).2.2) :
    m ∈ l ∨ ∃ d, IsAttempt p held u step d m ∧
      (I (m.after h) → I (h.perform settings step u s).2 ∧
        TakesIn h settings knows held u step d m (h.perform settings step u s)) := by
  have attempted : m ∈ (h.logging.attempts settings step u (s, l)).2.2 := by
    rw [← h.log_handle settings step u]
    exact made
  refine (remembers.mem_log_attempts raises mine before attempted).imp_right ?_
  rintro ⟨called, ⟨d, before⟩, last⟩
  refine ⟨d, ⟨declared, called, before⟩, fun up => ?_⟩
  obtain ⟨result, left⟩ := last up
  have taken : held (m.call.deeds knows ++ d) (h.attempts settings step u s).2 := by
    rw [left]
    exact remembers.call m.call m.timeout (by rw [called]; exact mine) before
  obtain ⟨told, meets, handled⟩ := remembers.handle settings mine rfl taken
  rw [result] at meets
  rw [perform_eq]
  refine ⟨keeps.handle settings mine step (left ▸ up), ⟨_, told, meets, handled⟩, ?_⟩
  unfold Host.handle
  split
  · exact .inl (by rw [result])
  · exact .inr (result ▸ endsBy_conclude running _ _ _)

/-- **An attempt in an advance.** -/
theorem mem_log_advance (keeps : h.KeepsFor id I) {x : Execution} {d : List Deed} {s : σ}
    {l : List (Made σ)} (mine : x.id = id) (running : x.status = .running) (before : held d s)
    {m : Made σ} (made : m ∈ (h.logging.advance settings p x (s, l)).2.2) :
    m ∈ l ∨ ∃ step u d, u.id = id ∧ IsAttempt p held u step d m ∧
      (I (m.after h) → I (h.advance settings p x s).2 ∧
        TakesIn h settings knows held u step d m (h.advance settings p x s)) := by
  have entered {step : Step} {u : Execution} {d : List Deed} {s : σ}
      (hs : p.step? x.current = some step) (enters : Enters x step u) (before : held d s)
      (made : m ∈ (h.logging.enter settings step u (s, l)).2.2) :
      m ∈ l ∨ ∃ d, u.id = id ∧ IsAttempt p held u step d m ∧
        (I (m.after h) → I (h.enter settings step u s).2 ∧
          TakesIn h settings knows held u step d m (h.enter settings step u s)) := by
    have place := enters.samePlace
    unfold Host.enter at made ⊢
    split at made
    · exact .inl made
    · rename_i gate
      rw [if_neg gate]
      refine (remembers.mem_log_perform raises keeps (place.id.trans mine)
        (place.status.trans running) (place.current ▸ hs) before made).imp_right ?_
      rintro ⟨d, attempt, last⟩
      exact ⟨d, place.id.trans mine, attempt, last⟩
  unfold Host.advance at made ⊢
  cases hs : p.step? x.current with
  | none =>
    rw [hs] at made
    exact .inl made
  | some step =>
    rw [hs] at made
    cases hl : step.loop with
    | none =>
      simp only [hl] at made ⊢
      exact (entered hs (.straight hl) before made).imp_right fun tried => ⟨step, x, tried⟩
    | some loop =>
      cases decided : x.decideLoop step.id loop with
      | error f =>
        simp only [hl, decided] at made
        exact .inl made
      | ok outcome =>
        obtain ⟨b, u⟩ := outcome
        simp only [hl, decided] at made ⊢
        cases b with
        | true =>
          subst mine
          exact (entered hs (.again hl decided) (remembers.emit _ before) made).imp_right
            fun tried => ⟨step, u, tried⟩
        | false => exact .inl made

/-- **The calls of a run**, and what they are to it. -/
theorem callOf_run (keeps : h.KeepsFor id I)
    (shows : ∀ {y d s}, y.id = id → y.status = .running → held d s → held d (h.publish y s))
    (budget : Nat) {x : Execution} {d : List Deed} {s : σ} {l : List (Made σ)} (mine : x.id = id)
    (before : held d s) {m : Made σ}
    (made : m ∈ (h.logging.run settings p budget x (s, l)).2.2) :
    m ∈ l ∨ CallOf h settings knows p id held I (h.run settings p budget x s) m := by
  have settled {y : Execution} {d : List Deed} {s : σ} {l : List (Made σ)} (same : y.id = id)
      (before : held d s) (made : m ∈ (h.logging.settle settings p y (s, l)).2) :
      m ∈ l ∨ CallOf h settings knows p id held I (y, h.settle settings p y s) m := by
    refine (mem_log_settle made).imp_right ?_
    rintro ⟨halted, called, shown⟩
    exact .hook halted (same ▸ called) before shown
  induction budget generalizing x d s l with
  | zero => exact .inl made
  | succ budget ih =>
    by_cases running : x.status = .running
    · cases seen : h.isCancelled x.id s with
      | true =>
        rw [h.logging.run_of_isCancelled settings p (s := (s, l)) running seen] at made
        rw [h.run_of_isCancelled settings p running seen]
        exact settled mine before made
      | false =>
        rw [h.logging.run_of_running settings p (s := (s, l)) running seen] at made
        rw [h.run_of_running settings p running seen]
        -- the calls of the advance, and those of the rest of the run
        have tried (here : m ∈ (h.logging.advance settings p x (s, l)).2.2) :=
          remembers.mem_log_advance raises keeps mine running before here
        obtain ⟨new, enacts, advanced⟩ := remembers.advance settings mine (p := p) before
        have same := (maps_logging h).advance settings p x (s, l)
        rcases logged : h.logging.advance settings p x (s, l) with ⟨y, s', l'⟩
        rw [logged] at same made tried
        rw [show h.advance settings p x s = (y, s') from same] at enacts advanced tried ⊢
        have still : y.id = id := enacts.id_eq.trans mine
        have shown (now : Instant) : (if (y.touch now).isRunning then
            h.logging.publish (y.touch now) (s', l') else (s', l')) =
            (if (y.touch now).isRunning then h.publish (y.touch now) s' else s', l') := by
          split <;> rfl
        simp only [shown] at made
        have held' (now : Instant) : held (new ++ d)
            (if (y.touch now).isRunning then h.publish (y.touch now) s' else s') := by
          split
          · rename_i goes
            exact shows still (of_decide_eq_true goes) advanced
          · exact advanced
        rcases ih (x := y.touch (h.now s')) still (held' _) made with here | later
        · refine (tried here).imp_right ?_
          rintro ⟨step, u, d, same, attempt, last⟩
          refine .attempt same attempt fun up => ?_
          obtain ⟨left, takes⟩ := last up
          refine ⟨_, takes, ends_run budget _ takes.awake ?_⟩
          rw [still]
          exact raises _ (keeps.publish _ _ still left)
        · exact .inr later
    · rw [h.logging.run_of_halted settings p running] at made
      rw [h.run_of_halted settings p running]
      exact settled mine before made

end Remembers

end Host

end StepFlow
