import StepFlow.Engine.Requests
import StepFlow.Proofs.Execution.Cancellation
import StepFlow.Proofs.Execution.Journal

/-!
# Gates call no tools

A step that waits for a person has a tool all the same, with attempts and perhaps a loop, and
nothing of this is ever called: whatever calls are made for a run, they are its hook or attempts at
declared steps without a gate (`Host.call_of_mem_calls`).  A person who does not approve ends the
run where it stands.  What the run did so far stays as it was, no step is attempted any more, and
the response leaves only what it brought (`gates_hold`).

What is load-bearing is that there is one place where attempts are made, behind the question for
the gate.  Loops, routes and approvals only decide how often a run comes there.
-/

namespace StepFlow

open Execution

/-- The pipeline of what is done with a run. -/
def Course.pipeline : Course → Pipeline
  | drive p _ _ => p
  | finish p _ => p

/-! ### Calls behind a gate -/

/-- **A call is an attempt at a step without a gate**, which the pipeline declares. -/
def Call.IsUngated (c : Call) (p : Pipeline) (id : ExecutionId) : Prop :=
  ∃ key step, p.step? key = some step ∧ step.waitsForHuman = false ∧
    c.purpose = .attempt id step.id ∧ c.tool = step.tool

namespace Host

variable {σ : Type} {h : Host σ} {settings : Settings} {p : Pipeline} {x : Execution} {s : σ}
  {l : List (Made σ)} {m : Made σ}

/-- The attempts at a step are calls of its tool, for the run that attempts it. -/
theorem call_of_mem_log_attempts {step : Step}
    (made : m ∈ (h.logging.attempts settings step x (s, l)).2.2) :
    m ∈ l ∨ m.call = x.attemptAt step := by
  -- a host that remembers nothing, and whose flags are never looked at
  have remembers : h.Remembers (fun _ => true) x.id fun _ _ => True :=
    ⟨fun _ _ _ _ _ _ => trivial, fun _ _ _ _ => trivial, fun _ _ _ _ => trivial⟩
  have attempted :=
    remembers.mem_log_attempts (I := fun _ => False) nofun (d := []) rfl trivial made
  exact attempted.imp_right And.left

/-- **A gate is not attempted.** -/
theorem mem_log_enter {step : Step}
    (made : m ∈ (h.logging.enter settings step x (s, l)).2.2) :
    m ∈ l ∨ step.waitsForHuman = false ∧ m.call = x.attemptAt step := by
  unfold enter at made
  cases gate : step.waitsForHuman with
  | true =>
    rw [gate, if_pos rfl] at made
    exact .inl made
  | false =>
    rw [gate, if_neg Bool.false_ne_true, perform_eq, log_handle] at made
    exact (call_of_mem_log_attempts made).imp_right fun called => ⟨rfl, called⟩

/-- **The calls of an advance** are attempts at the current step, which has no gate. -/
theorem attempt_of_mem_log_advance (made : m ∈ (h.logging.advance settings p x (s, l)).2.2) :
    m ∈ l ∨ ∃ step y, p.step? x.current = some step ∧ step.waitsForHuman = false ∧
      Enters x step y ∧ m.call = y.attemptAt step := by
  unfold advance at made
  cases hs : p.step? x.current with
  | none =>
    rw [hs] at made
    exact .inl made
  | some step =>
    cases hl : step.loop with
    | none =>
      simp only [hs, hl] at made
      exact (mem_log_enter made).imp_right fun attempt =>
        ⟨step, x, rfl, attempt.1, .straight hl, attempt.2⟩
    | some loop =>
      cases decided : x.decideLoop step.id loop with
      | error f =>
        simp only [hs, hl, decided] at made
        exact .inl made
      | ok outcome =>
        obtain ⟨b, y⟩ := outcome
        simp only [hs, hl, decided] at made
        cases b with
        | true =>
          exact (mem_log_enter (l := l) made).imp_right fun attempt =>
            ⟨step, y, rfl, attempt.1, .again hl decided, attempt.2⟩
        | false => exact .inl made

/-- A run that is not running calls its hook at most. -/
theorem call_of_not_running (halted : x.status ≠ .running) (budget : Nat)
    (made : m ∈ h.calls settings (.drive p budget x) s) : m.call.purpose = .hook x.id := by
  cases budget with
  | zero => cases made
  | succ budget =>
    change m ∈ (h.logging.run settings p (budget + 1) x (s, [])).2.2 at made
    rw [h.logging.run_of_halted settings p halted] at made
    exact ((mem_log_settle made).resolve_left List.not_mem_nil).2.1

/-- **A call is made for a step**: a run that has come to the step, with its host, makes it when it
goes on. -/
structure CallsFor (h : Host σ) (settings : Settings) (p : Pipeline) (step : Step)
    (came : Execution × σ) (m : Made σ) : Prop where
  running : came.1.status = .running
  declared : p.step? came.1.current = some step
  ungated : step.waitsForHuman = false
  made : m ∈ h.calls settings (.drive p 1 came.1) came.2
  purpose : m.call.purpose = .attempt came.1.id step.id
  tool : m.call.tool = step.tool

/-- **The calls of a run**: its hook, and attempts at the steps that it comes to, as it enters
them. -/
theorem callsFor_of_mem_drive {budget : Nat}
    (made : m ∈ h.calls settings (.drive p budget x) s) :
    m.call.purpose = .hook x.id ∨ ∃ n < budget, ∃ step y,
      h.CallsFor settings p step (h.run settings p n x s) m ∧
        Enters (h.run settings p n x s).1 step y ∧ m.call = y.attemptAt step := by
  -- on the budget: a call is made in the first step, or in one of the others
  induction budget generalizing x s with
  | zero => cases made
  | succ budget ih =>
    by_cases running : x.status = .running
    · cases seen : h.isCancelled x.id s with
      | true =>
        left
        change m ∈ (h.logging.run settings p (budget + 1) x (s, [])).2.2 at made
        rw [h.logging.run_of_isCancelled settings p (s := (s, [])) running seen] at made
        exact ((mem_log_settle made).resolve_left List.not_mem_nil).2.1
      | false =>
        rw [h.calls_drive_succ settings p running seen] at made
        rcases List.mem_append.mp made with later | first
        · refine (ih later).imp (fun hook => ?_) ?_
          · rwa [id_run] at hook
          · rintro ⟨n, within, called⟩
            refine ⟨n + 1, Nat.succ_lt_succ within, ?_⟩
            rwa [h.run_succ settings p running seen]
        · right
          have advanced := h.calls_drive_one settings p running seen ▸ first
          obtain ⟨step, y, hs, gate, entered, called⟩ :=
            (attempt_of_mem_log_advance advanced).resolve_left List.not_mem_nil
          have purpose : m.call.purpose = .attempt x.id step.id := by
            rw [called, ← entered.samePlace.id]
            rfl
          have tool : m.call.tool = step.tool := by
            rw [called]
            rfl
          exact ⟨0, Nat.succ_pos budget, step, y, ⟨running, hs, gate, first, purpose, tool⟩,
            entered, called⟩
    · exact .inl (call_of_not_running running (budget + 1) made)

/-- **Whatever is done with a run calls its hook or attempts a step without a gate.** -/
theorem call_of_mem_calls {w : Course} (made : m ∈ h.calls settings w s) :
    m.call.purpose = .hook w.run.id ∨ m.call.IsUngated w.pipeline w.run.id := by
  cases w with
  | drive p budget x =>
    refine (callsFor_of_mem_drive made).imp_right ?_
    rintro ⟨n, -, step, y, called, -⟩
    have purpose := called.purpose
    rw [id_run] at purpose
    exact ⟨_, step, called.declared, called.ungated, purpose, called.tool⟩
  | finish p x =>
    exact .inl ((mem_log_finish made).resolve_left List.not_mem_nil).1

end Host

/-! ### Rejections -/

section Rejections

variable {settings : Settings} {p : Pipeline} {past : List Turn} {t : Turn} {x y : Execution}

/-- A transition of a run that is running does not end in waiting. -/
theorem Execution.Transitions.ne_waiting {s : Step} {next : Option String}
    (h : Transitions x s next y) (running : x.status = .running) : y.status ≠ .waiting := by
  cases h with
  | completes => nofun
  | stays =>
    rw [running]
    nofun
  | moves =>
    show x.status ≠ .waiting
    rw [running]
    nofun

/-- What a step comes to is not waiting. -/
theorem Execution.Concludes.ne_waiting {strict : Bool} {s : Step} {r : ToolResult}
    (h : Concludes x strict s r y) (running : x.status = .running) : y.status ≠ .waiting := by
  cases h with
  | undecided => nofun
  | unrouted => nofun
  | routed =>
    -- to record a result does not change the status
    have still : (x.record s.id r).status = .running := running
    exact (transitions_transition _ s _).ne_waiting still

/-- **An advance after which a run waits has come to a gate.** -/
theorem Execution.Advances.gated {asked : Prop} (h : Advances settings p asked x y)
    (running : x.status = .running) (waiting : y.status = .waiting) :
    ∃ gate, p.step? y.current = some gate ∧ gate.waitsForHuman = true := by
  cases h with
  | unknown => cases waiting
  | undecided => cases waiting
  | @leaves s l u _ _ decided =>
    have still : (u.resetLoop s.id).status = .running :=
      (decides_decideLoop decided).samePlace.status.trans running
    have ends := transitions_transition (u.resetLoop s.id) s s.next.default
    exact absurd waiting (ends.ne_waiting still)
  | suspends hs entered gate => exact ⟨_, entered.samePlace.current ▸ hs, gate⟩
  | stops => cases waiting
  | @concludes s u _ entered _ r =>
    have ends := concludes_conclude u settings.failOnUnroutedError s r
    exact absurd waiting (ends.ne_waiting (entered.samePlace.status.trans running))

/-- No response leaves a run waiting. -/
theorem Execution.respond_ne_waiting (x : Execution) (strict : Bool) (p : Pipeline)
    (r : HumanResponse) (now : Instant) : (x.respond strict p r now).status ≠ .waiting := by
  cases approved : r.approved with
  | false =>
    rw [respond_of_not_approved approved]
    nofun
  | true =>
    cases hs : p.step? x.current with
    | some s =>
      rw [respond_of_approved hs approved]
      exact (concludes_conclude (x.resume r) strict s _).ne_waiting rfl
    | none =>
      rw [respond_of_undeclared hs approved]
      nofun

/-- **A turn after which a run waits has come to a gate.** -/
theorem Takes.gated (h : Takes settings p past t x y) (waiting : y.status = .waiting) :
    ∃ gate, p.step? y.current = some gate ∧ gate.waitsForHuman = true := by
  cases h with
  | advance h s now running => exact (h.advances_advance settings p x s).gated running waiting
  | stop => cases waiting
  | response r start stop =>
    exact absurd waiting (x.respond_ne_waiting settings.failOnUnroutedError p r start)
  | cancelWaiting => cases waiting
  | cancelRunning running =>
    rw [running] at waiting
    cases waiting

/-- **A run waits at a gate.** -/
theorem Life.gated (life : Life settings p past x) (waiting : x.status = .waiting) :
    ∃ gate, p.step? x.current = some gate ∧ gate.waitsForHuman = true := by
  cases life with
  | fresh => cases waiting
  | turn _ h => exact h.gated waiting

end Rejections

/-- **A run was rejected** as `x` by the response `r`, and has come to `y`. -/
structure Execution.IsRejection (x : Execution) (r : HumanResponse) (y : Execution) : Prop where
  status : y.status = .failed
  error : ∃ message, y.error = some ⟨"HUMAN_REJECTION", message, some x.current⟩
  /-- The response leaves its input and its changes, and nothing else is another but the time. -/
  same : y = { x with
    status := y.status
    error := y.error
    humanInput := r.input
    globalState := x.globalState.overlay (r.modifications.getD .empty)
    updated := y.updated }

namespace Execution

variable {x y : Execution} {r : HumanResponse}

theorem IsRejection.id_eq (h : x.IsRejection r y) : y.id = x.id := by rw [h.same]

theorem IsRejection.not_running (h : x.IsRejection r y) : y.status ≠ .running := by
  rw [h.status]
  nofun

/-- **A response that does not approve is a rejection.** -/
theorem isRejection_respond (x : Execution) (strict : Bool) (p : Pipeline)
    (rejected : r.approved = false) (start stop : Instant) :
    x.IsRejection r ((x.respond strict p r start).touch stop) := by
  rw [respond_of_not_approved rejected]
  exact ⟨rfl, ⟨_, rfl⟩, rfl⟩

end Execution

/-- **An engine answers with the rejection**, and the run has not gone on. -/
theorem Setup.respond_of_rejected (u : Setup) (h : Host Engine) {id : ExecutionId} {e : Engine}
    {record : Record} {r : HumanResponse} (finds : e.record? id = some record)
    (waiting : record.state.status = .waiting) (rejected : r.approved = false) :
    ∃ z, (u.respond h id r e).1 = some z ∧ record.state.IsRejection r z := by
  unfold Setup.respond
  simp only [finds, if_pos waiting]
  have ends (e : Engine) :=
    isRejection_respond record.state u.settings.failOnUnroutedError record.pipeline rejected
      e.now e.now
  exact ⟨_, congrArg some (h.run_of_not_running u.settings (ends _).not_running u.budget _), ends _⟩

/-- **Gates call no tools.**  Whatever is done with a run of the pipeline on whatever host, each
call that is made is the hook of the run, or an attempt at a declared step without a gate; so if
steps are declared under their ids, no call is ever an attempt at a gate.  And a run that waits does
so at a gate.

A rejection changes nothing but what the response brings.  If a person does not approve, the run
has failed there, on the path and with the results and the loops that it had.  If it is driven on
it stays so and calls its hook at most, and this is how an engine answers the response. -/
theorem gates_hold (u : Setup) (p : Pipeline) :
    (∀ {σ : Type} (h : Host σ) (w : Course) (s : σ), w.pipeline = p →
      ∀ m ∈ h.calls u.settings w s,
        (m.call.purpose = .hook w.run.id ∨ m.call.IsUngated p w.run.id) ∧
        (p.Keyed → ∀ key gate, p.step? key = some gate → gate.waitsForHuman = true →
          m.call.purpose ≠ .attempt w.run.id key)) ∧
    (∀ past x, Life u.settings p past x → x.status = .waiting →
      ∃ gate, p.step? x.current = some gate ∧ gate.waitsForHuman = true) ∧
    ∀ r : HumanResponse, r.approved = false →
      (∀ (x : Execution) start stop,
        let y := (x.respond u.settings.failOnUnroutedError p r start).touch stop
        x.IsRejection r y ∧ ∀ {σ : Type} (h : Host σ) (budget : Nat) (s : σ),
          (h.run u.settings p budget y s).1 = y ∧
            ∀ m ∈ h.calls u.settings (.drive p budget y) s, m.call.purpose = .hook x.id) ∧
      ∀ (h : Host Engine) id e record, e.record? id = some record →
        record.state.status = .waiting →
        ∃ z, (u.respond h id r e).1 = some z ∧ record.state.IsRejection r z := by
  refine ⟨?_, fun past x life waiting => life.gated waiting, fun r rejected => ⟨?_, ?_⟩⟩
  · rintro σ h w s rfl m made
    have called := Host.call_of_mem_calls made
    refine ⟨called, fun keyed key gate hs waits attempt => ?_⟩
    rcases called with hook | ⟨key', step, declared, ungated, purpose, -⟩
    · rw [attempt] at hook
      cases hook
    · rw [attempt] at purpose
      have here : key = key' := by
        rw [← keyed key' step declared]
        exact (Purpose.attempt.inj purpose).2
      rw [← here, hs] at declared
      cases declared
      rw [waits] at ungated
      cases ungated
  · intro x start stop
    have ends := isRejection_respond x u.settings.failOnUnroutedError p rejected start stop
    refine ⟨ends, fun h budget s => ?_⟩
    refine ⟨h.run_of_not_running u.settings ends.not_running budget s, fun m made => ?_⟩
    rw [← ends.id_eq]
    exact Host.call_of_not_running ends.not_running budget made
  · intro h id e record finds waiting
    exact u.respond_of_rejected h finds waiting rejected

/-- The small pipeline calls the tool of its first step twice and that of its gate never, and is
rejected there, by an engine too. -/
theorem gates_hold_reviewed :
    let u : Setup :=
      { tools := { knows := fun _ => true, reply := fun _ _ => .done (.succeeded none) }
        budget := 5 }
    let p := Definition.reviewed.toPipeline "p"
    let begun : Execution := .fresh p .empty ⟨0⟩ (.ofMilliseconds 0)
    p.Keyed ∧ (Host.agreeable.calls {} (.drive p 5 begun) ()).length = 2 ∧
      (∀ m ∈ Host.agreeable.calls {} (.drive p 5 begun) (),
        m.call.purpose ≠ .attempt ⟨0⟩ "review") ∧
      (∃ past x, Life {} p past x ∧ x.current = "review" ∧
        x.IsRejection (.reject "no")
          ((x.respond false p (.reject "no") (.ofMilliseconds 1)).touch (.ofMilliseconds 1))) ∧
      ∃ x z : Execution, x.current = "review" ∧
        (u.respond (u.host 0) ⟨0⟩ (.reject "no") (u.start (u.host 0) p .empty {}).2).1 = some z ∧
        x.IsRejection (.reject "no") z := by
  intro u p begun
  have valid : Definition.reviewed.validate = .ok () := by rfl
  have keyed := (Definition.sound_toPipeline valid "p").keyed
  obtain ⟨calls, -, rejections⟩ := gates_hold u p
  obtain ⟨past, life⟩ := exists_life_reviewed
  obtain ⟨rejected, answered⟩ := rejections (.reject "no") rfl
  refine ⟨keyed, rfl, fun m made => ?_, ⟨past, _, life, rfl, (rejected _ _ _).1⟩, ?_⟩
  · exact (calls Host.agreeable (.drive p 5 begun) () rfl m made).2 keyed "review" _ rfl rfl
  · obtain ⟨z, answer, ends⟩ := answered (u.host 0) ⟨0⟩ (u.start (u.host 0) p .empty {}).2 _ rfl rfl
    exact ⟨_, z, rfl, answer, ends⟩

end StepFlow
