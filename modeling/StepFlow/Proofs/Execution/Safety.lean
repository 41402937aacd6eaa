import StepFlow.Proofs.Execution.Life
import StepFlow.Proofs.Expression.Failures
import StepFlow.Proofs.Pipeline.Validity

/-!
# How a run can fail

A valid definition makes a sound pipeline, and a run of a sound pipeline never
stands at an undeclared step and never meets a condition that cannot be read.
What is left are four ways to fail (`Excused`): strict settings do not pass over
a failure, a condition has no value, a person rejects a step, or the run was
asked to stop.

The invariant is `Safe`.  It joins what validation looked at with what a run
follows: every target of a route or of a loop that ends is one of the references
of its step, and every condition that is decided is one of its conditions.
-/

namespace StepFlow

/-- **The faults that can end a run** of a sound pipeline, after the turns of the
`past`. -/
inductive Excused (settings : Settings) (past : List Turn) : Fault → Prop
  /-- A failure that nothing routes, if the settings are strict. -/
  | unrouted (step tool : String) (report : ErrorReport)
      (strict : settings.failOnUnroutedError = true) :
      Excused settings past (.toolFailed step tool report)
  /-- A condition that can be read and has no value. -/
  | undecided {f : Expression.Failure} (evaluated : ∀ e, f ≠ .read e) :
      Excused settings past (.expression f)
  | rejected (step : String) (notes : Option String) : Excused settings past (.rejected step notes)
  /-- Somebody asked to cancel the run. -/
  | cancelled (asked : Turn.cancel ∈ past) : Excused settings past .cancelled

namespace Excused

variable {settings : Settings} {past : List Turn} {f : Fault}

/-- An excuse stays an excuse. -/
theorem mono (h : Excused settings past f) (t : Turn) : Excused settings (t :: past) f := by
  cases h with
  | unrouted step tool report strict => exact .unrouted step tool report strict
  | undecided evaluated => exact .undecided evaluated
  | rejected step notes => exact .rejected step notes
  | cancelled asked => exact .cancelled (List.mem_cons_of_mem t asked)

theorem code_mem (h : Excused settings past f) :
    f.code ∈ ["TOOL_EXECUTION_ERROR", "EXPRESSION_ERROR", "HUMAN_REJECTION", "CANCELLED"] := by
  cases h <;> simp [Fault.code]

end Excused

/-- **A safe state**: the current step is declared, and a failure is excused. -/
structure Safe (settings : Settings) (p : Pipeline) (past : List Turn) (x : Execution) :
    Prop where
  declared : ∃ s, p.step? x.current = some s
  excused : x.status = .failed →
    ∃ f, x.error = some (f.capture (some x.current)) ∧ Excused settings past f

open Execution

variable {settings : Settings} {p : Pipeline} {past : List Turn} {x y : Execution} {s : Step}

namespace Safe

/-- A run that has not failed is safe at a declared step. -/
theorem of_ne_failed (declared : ∃ s, p.step? x.current = some s) (h : x.status ≠ .failed) :
    Safe settings p past x :=
  ⟨declared, fun failed => absurd failed h⟩

/-- A run may fail for a reason. -/
theorem fail {f : Fault} (declared : ∃ s, p.step? x.current = some s)
    (h : Excused settings past f) : Safe settings p past (x.fail f) :=
  ⟨declared, fun _ => ⟨f, rfl, h⟩⟩

theorem mono (h : Safe settings p past x) (t : Turn) : Safe settings p (t :: past) x := by
  refine ⟨h.declared, fun failed => ?_⟩
  obtain ⟨f, captured, excused⟩ := h.excused failed
  exact ⟨f, captured, excused.mono t⟩

theorem touch (h : Safe settings p past x) (now : Instant) : Safe settings p past (x.touch now) :=
  ⟨h.declared, h.excused⟩

end Safe

/-! ### What a run follows -/

/-- A condition of a step of a sound pipeline never fails on reading. -/
theorem Pipeline.Sound.excused (sound : p.Sound) {key c : String} {context : Value}
    {f : Expression.Failure} (hs : p.step? key = some s) (listed : c ∈ s.conditions)
    (failed : Expression.decide c context = .error f) : Excused settings past (.expression f) := by
  obtain ⟨e, read⟩ := sound.conditions key s hs c listed
  refine .undecided fun r isRead => ?_
  exact Expression.isEvaluated_decide read context r (isRead ▸ failed)

/-- A transition to a target that is declared, or to the end, is safe. -/
theorem Safe.transitions {next : Option String} (running : x.status = .running)
    (here : ∃ s, p.step? x.current = some s)
    (there : ∀ t, next = some t → t = endMarker ∨ ∃ s, p.step? t = some s)
    (ends : Transitions x s next y) : Safe settings p past y := by
  cases ends with
  | completes => exact .of_ne_failed here nofun
  | stays => exact .of_ne_failed here (by simp [running])
  | @moves t leads onward _ =>
    have declared := (there t leads).resolve_left onward
    refine .of_ne_failed declared ?_
    show x.status ≠ .failed
    simp [running]

/-- **What a step comes to is safe.** -/
theorem Safe.concludes {key : String} {r : ToolResult} (sound : p.Sound)
    (running : x.status = .running) (hs : p.step? key = some s) (here : x.current = key)
    (ends : Concludes x settings.failOnUnroutedError s r y) : Safe settings p past y := by
  have declared : ∃ s, p.step? x.current = some s := ⟨s, here ▸ hs⟩
  cases ends with
  | undecided failed =>
    obtain ⟨c, listed, context, failed⟩ := exists_condition_of_chooseRoute failed
    exact .fail declared (sound.excused hs listed failed)
  | unrouted strict => exact .fail declared (.unrouted _ _ _ strict)
  | @routed route chosen =>
    refine .transitions (x := x.record s.id r) running declared ?_ (transitions_transition _ s _)
    intro t leads
    unfold nextTarget at leads
    split at leads
    · -- a looping step goes on with itself
      cases leads
      rw [sound.keyed key s hs]
      exact .inr ⟨s, hs⟩
    · obtain ⟨m, listed⟩ := mem_references_of_chooseRoute chosen leads
      exact sound.targets key s hs m t listed

/-- **An advance is safe.** -/
theorem Safe.advances (sound : p.Sound) (safe : Safe settings p past x)
    (running : x.status = .running) (h : Advances settings p (Turn.cancel ∈ past) x y) :
    Safe settings p past y := by
  cases h with
  | unknown undeclared =>
    -- the current step is declared
    obtain ⟨s, declared⟩ := safe.declared
    rw [undeclared] at declared
    cases declared
  | undecided hs hl failed =>
    obtain ⟨c, listed, context, failed⟩ := exists_condition_of_decideLoop hl failed
    exact .fail safe.declared (sound.excused hs listed failed)
  | @leaves s l z hs hl decided =>
    have decides := decides_decideLoop decided
    have here : ∃ s, p.step? z.current = some s := decides.samePlace.current ▸ safe.declared
    refine .transitions (x := z.resetLoop s.id) (decides.samePlace.status.trans running) here ?_
      (transitions_transition _ s _)
    intro t leads
    refine sound.targets _ s hs .next t ?_
    exact (s.mem_references_iff .next t).mpr (.inl ⟨rfl, leads⟩)
  | suspends hs entered =>
    refine .of_ne_failed ?_ nofun
    exact entered.samePlace.current ▸ safe.declared
  | @stops s z hs entered _ r asked =>
    have here : ∃ s, p.step? z.current = some s := entered.samePlace.current ▸ safe.declared
    exact .fail here (.cancelled asked)
  | concludes hs entered _ r =>
    have place := entered.samePlace
    exact .concludes sound (place.status.trans running) hs place.current
      (concludes_conclude _ _ _ r)

/-- **Passing a gate is safe.** -/
theorem Safe.passGate (sound : p.Sound) (declared : ∃ s, p.step? x.current = some s)
    (running : x.status = .running) (input : Option Value) (now : Instant) :
    Safe settings p past (x.passGate settings.failOnUnroutedError p input now) := by
  obtain ⟨s, hs⟩ := declared
  unfold Execution.passGate
  rw [hs]
  exact .concludes sound running hs rfl (concludes_conclude _ _ s _)

/-- **Taking in a response is safe.** -/
theorem Safe.respond (sound : p.Sound) (declared : ∃ s, p.step? x.current = some s)
    (r : HumanResponse) (now : Instant) :
    Safe settings p past (x.respond settings.failOnUnroutedError p r now) := by
  unfold Execution.respond
  cases r.approved with
  | false => exact .fail declared (.rejected _ _)
  | true =>
    refine .passGate sound ?_ rfl r.input now
    exact declared

/-! ### Turns -/

/-- A turn keeps a run safe. -/
theorem Takes.safe {t : Turn} (sound : p.Sound) (h : Takes settings p past t x y)
    (before : Safe settings p past x) : Safe settings p (t :: past) y := by
  cases h with
  | advance h s now running flag =>
    refine ((before.advances sound running ?_).touch _).mono _
    refine (h.advances_advance settings p x s).mono ?_
    rintro ⟨t, raised⟩
    exact flag t raised
  | stop now running asked =>
    exact ((Safe.fail before.declared (.cancelled asked)).touch now).mono _
  | response r start stop waiting =>
    exact ((Safe.respond sound before.declared r start).touch stop).mono _
  | cancelWaiting now waiting =>
    have asked : Turn.cancel ∈ Turn.cancel :: past := List.mem_cons_self
    exact (Safe.fail before.declared (.cancelled asked)).touch now
  | cancelRunning => exact before.mono _

/-- Every state in the life of a run of a sound pipeline is safe. -/
theorem Life.safe (sound : p.Sound) (life : Life settings p past x) : Safe settings p past x := by
  induction life with
  | fresh initial id now => exact .of_ne_failed sound.start nofun
  | turn _ h before => exact h.safe sound before

/-- **How a run of a valid definition can fail.**  In every state of its life the
current step is declared.  If the run has failed, its error has one of four codes, names that
step and comes from one of four causes: a failure that strict settings do not pass over, a
condition that can be read and has no value, a rejection, or a cancellation that
somebody asked for. -/
theorem Life.failure_excused {d : Definition} (valid : d.validate = .ok ()) {id : String}
    (life : Life settings (d.toPipeline id) past x) :
    (∃ s, (d.toPipeline id).step? x.current = some s) ∧
      (x.status = .failed → ∃ e, x.error = some e ∧
        e.code ∈ ["TOOL_EXECUTION_ERROR", "EXPRESSION_ERROR", "HUMAN_REJECTION", "CANCELLED"] ∧
        ∃ f, e = f.capture (some x.current) ∧ Excused settings past f) := by
  have safe := life.safe (Definition.sound_toPipeline valid id)
  refine ⟨safe.declared, fun failed => ?_⟩
  obtain ⟨f, captured, excused⟩ := safe.excused failed
  exact ⟨_, captured, excused.code_mem, f, rfl, excused⟩

/-- A run that is rejected at a gate. -/
theorem Life.failure_excused_reviewed :
    Definition.reviewed.validate = .ok () ∧
      ∃ past x, Life {} (Definition.reviewed.toPipeline "p") past x ∧ x.status = .failed ∧
        ∃ e, x.error = some e ∧
          e.code ∈ ["TOOL_EXECUTION_ERROR", "EXPRESSION_ERROR", "HUMAN_REJECTION", "CANCELLED"] ∧
          ∃ f, e = f.capture (some x.current) ∧ Excused {} past f := by
  have valid : Definition.reviewed.validate = .ok () := by rfl
  obtain ⟨past, x, life, waiting⟩ := exists_life_waiting
  have rejected := life.turn
    (.response (.reject "no") (.ofMilliseconds 1) (.ofMilliseconds 1) waiting)
  exact ⟨valid, _, _, rejected, rfl, (rejected.failure_excused valid).2 rfl⟩

end StepFlow
