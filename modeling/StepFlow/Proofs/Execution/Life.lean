import StepFlow.Proofs.Execution.Hosts

/-!
# The life of a run

A run begins fresh.  From then on its state changes in **turns**: it advances,
it finds that it was cancelled, a person responds, or somebody cancels it.
`Takes` says what each turn does, in terms of the functions that the engine runs,
and `Life` collects the turns of one run, the latest first.

Nothing is assumed about the surroundings.  Every advance may happen on a host of
its own, in any state of it and at any time, so a life covers whatever the tools
answer and whatever else happens in between.  The one thing a host cannot make
up is cancellation: an advance may see the flag of its run only after a turn that
asked for it.

What is load-bearing is `Life.run`: what `Host.run` comes to from a state in the
life of a run is again in its life.
-/

namespace StepFlow

/-- **What can happen to a run.** -/
inductive Turn where
  /-- The run advances by one step. -/
  | advance
  /-- The run finds that it was cancelled. -/
  | stop
  /-- A person responds. -/
  | response (r : HumanResponse)
  /-- Somebody asks to cancel the run. -/
  | cancel

/-- **What a turn does**, after the turns of the `past`. -/
inductive Takes (settings : Settings) (p : Pipeline) (past : List Turn) :
    Turn → Execution → Execution → Prop
  | advance {σ : Type} (h : Host σ) (s : σ) (now : Instant) {x : Execution}
      (running : x.status = .running)
      (flag : ∀ t, h.isCancelled x.id t = true → Turn.cancel ∈ past) :
      Takes settings p past .advance x ((h.advance settings p x s).1.touch now)
  | stop (now : Instant) {x : Execution} (running : x.status = .running)
      (asked : Turn.cancel ∈ past) :
      Takes settings p past .stop x ((x.fail .cancelled).touch now)
  | response (r : HumanResponse) (start stop : Instant) {x : Execution}
      (waiting : x.status = .waiting) :
      Takes settings p past (.response r) x
        ((x.respond settings.failOnUnroutedError p r start).touch stop)
  /-- A run that waits is cancelled at once. -/
  | cancelWaiting (now : Instant) {x : Execution} (waiting : x.status = .waiting) :
      Takes settings p past .cancel x ((x.fail .cancelled).touch now)
  /-- A run that is running goes on until it finds that it was cancelled. -/
  | cancelRunning {x : Execution} (running : x.status = .running) :
      Takes settings p past .cancel x x

/-- **The lives of the runs of a pipeline**: `Life settings p past x` says that a run
of `p` can be in the state `x` after the turns of the `past`, the latest first. -/
inductive Life (settings : Settings) (p : Pipeline) : List Turn → Execution → Prop
  | fresh (initial : Table Value) (id : ExecutionId) (now : Instant) :
      Life settings p [] (.fresh p initial id now)
  | turn {past : List Turn} {t : Turn} {x y : Execution} (life : Life settings p past x)
      (h : Takes settings p past t x y) : Life settings p (t :: past) y

namespace Life

variable {settings : Settings} {p : Pipeline} {past : List Turn} {x : Execution}

/-- **Driving a run stays within its life.**  Somebody asked to cancel the run only if
its flag is up in the end: `I` is any property that the flag entails and that the
host keeps. -/
theorem run {σ : Type} {h : Host σ} {I : σ → Prop} (keeps : h.Keeps I)
    (raised : ∀ s, h.isCancelled x.id s = true → I s) (budget : Nat) (s : σ)
    (life : Life settings p past x) :
    ∃ turns, Life settings p (turns ++ past) (h.run settings p budget x s).1 ∧
      (¬ I (h.run settings p budget x s).2 → Turn.cancel ∉ turns) := by
  -- on the budget; the turns so far become the past of the runs that are left
  induction budget generalizing past x s with
  | zero => exact ⟨[], life, fun _ => List.not_mem_nil⟩
  | succ budget ih =>
    by_cases running : x.status = .running
    · cases seen : h.isCancelled x.id s with
      | true =>
        rw [h.run_of_isCancelled settings p running seen]
        have asked := life.turn (.cancelRunning running)
        have stopped := asked.turn (.stop (h.now s) running List.mem_cons_self)
        refine ⟨[.stop, .cancel], stopped, fun quiet => absurd ?_ quiet⟩
        exact keeps.settle settings p ((x.fail .cancelled).touch (h.now s)) (raised s seen)
      | false =>
        rw [h.run_of_running settings p running seen]
        have same : (h.advance settings p x s).1.id = x.id :=
          (h.advances_advance settings p x s).id_eq
        have raised' (now : Instant) (t : σ)
            (up : h.isCancelled ((h.advance settings p x s).1.touch now).id t = true) : I t :=
          raised t (same ▸ up)
        by_cases up : I (h.advance settings p x s).2
        · -- the flag may have been seen, so somebody asked before the advance
          have asked := life.turn (.cancelRunning running)
          have next := asked.turn (.advance h s (h.now (h.advance settings p x s).2) running
            fun _ _ => List.mem_cons_self)
          obtain ⟨turns, driven, -⟩ := ih (raised' _) _ next
          refine ⟨turns ++ [.advance, .cancel], ?_, fun quiet => absurd ?_ quiet⟩
          · rw [List.append_assoc]
            exact driven
          · refine keeps.run settings p budget _ ?_
            split
            · exact keeps.publish _ _ up
            · exact up
        · -- the flag was not seen, so the host might as well be deaf
          have deaf := Host.advance_deaf keeps raised up
          have next := life.turn
            (.advance h.deaf s (h.now (h.advance settings p x s).2) running
              fun _ heard => absurd heard Bool.false_ne_true)
          rw [deaf] at next
          obtain ⟨turns, driven, unasked⟩ := ih (raised' _) _ next
          refine ⟨turns ++ [.advance], ?_, fun quiet => ?_⟩
          · rw [List.append_assoc]
            exact driven
          · rw [List.mem_append, not_or]
            exact ⟨unasked quiet, by simp⟩
    · rw [h.run_of_halted settings p running]
      exact ⟨[], life, fun _ => List.not_mem_nil⟩

end Life

/-! ### A small pipeline -/

/-- A host whose tools succeed without data, and whose clock stands still. -/
def Host.agreeable : Host Unit where
  now _ := .ofMilliseconds 0
  isCancelled _ _ := false
  call _ _ _ := (⟨.succeeded none, .instantaneous (.ofMilliseconds 0)⟩, ())
  emit _ _ _ := ()
  pause _ _ := ()
  publish _ _ := ()
  ask _ _ := ()

/-- A step that is repeated twice, and a gate that can lead back to it. -/
def Definition.reviewed : Definition where
  name := "reviewed"
  start := "draft"
  steps := .ofEntries
    [("draft",
        { id := "", tool := "write", next.default := some "review",
          loop := some (.counting 0 1 2) }),
      ("review",
        { id := "review", tool := "", waitsForHuman := true,
          next.branches := [⟨none, "state.redo", "draft"⟩] })]

/-- A run of the small pipeline, driven until it stops. -/
theorem exists_life_reviewed :
    ∃ past, Life {} (Definition.reviewed.toPipeline "p") past
      (Host.agreeable.run {} (Definition.reviewed.toPipeline "p") 5
        (.fresh (Definition.reviewed.toPipeline "p") .empty ⟨0⟩ (.ofMilliseconds 0)) ()).1 := by
  have keeps : Host.agreeable.Keeps fun _ => False :=
    ⟨fun _ _ _ => id, fun _ _ _ => id, fun _ _ => id, fun _ _ => id, fun _ _ => id⟩
  obtain ⟨turns, life, -⟩ :=
    Life.run keeps nofun 5 () (.fresh .empty ⟨0⟩ (.ofMilliseconds 0))
  exact ⟨_, life⟩

/-- A run of the small pipeline comes to its gate. -/
theorem exists_life_waiting :
    ∃ past x, Life {} (Definition.reviewed.toPipeline "p") past x ∧ x.status = .waiting := by
  obtain ⟨past, life⟩ := exists_life_reviewed
  exact ⟨past, _, life, rfl⟩

end StepFlow
