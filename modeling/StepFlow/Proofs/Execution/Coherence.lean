import Mathlib.Data.List.Chain
import StepFlow.Proofs.Execution.Life
import StepFlow.Proofs.Pipeline.Validity

/-!
# The bookkeeping of a run

A run keeps a path, results, the bookkeeping of a loop, an error.  They are
written in different places, and they agree in every state of the life of a run
of a pipeline whose steps are declared under their ids (`Life.coherent`).

The invariant comes in two parts.  `Execution.Tidy` is what holds at any moment,
also in the middle of an advance: the path runs from the start to the current
step, what is recorded was visited, and only the current step can have a loop.
`Execution.Coherent` adds what the status promises, and holds between advances.

What is load-bearing is that a loop is forgotten wherever its step is left:
`Tidy` puts all bookkeeping of loops at the current step, so `resetLoop` there
empties both tables (`Tidy.emptied_resetLoop`).
-/

namespace StepFlow

/-- A count below a limit can be raised by one without overflow. -/
theorem UInt32.toNat_add_one_of_not_le {limit n : UInt32} (below : ¬ limit ≤ n) :
    (n + 1).toNat = n.toNat + 1 := by
  have bound : limit.toNat < 2 ^ 32 := limit.toNat_lt
  rw [UInt32.le_iff_toNat_le] at below
  rw [UInt32.toNat_add, UInt32.toNat_one, Nat.mod_eq_of_lt (by omega)]

/-- A count below a limit can be raised by one and does not pass the limit. -/
theorem UInt32.bounds_of_not_le {limit n : UInt32} (below : ¬ limit ≤ n) :
    1 ≤ n + 1 ∧ n + 1 ≤ limit := by
  have raised := UInt32.toNat_add_one_of_not_le below
  rw [UInt32.le_iff_toNat_le] at below
  constructor
  · rw [UInt32.le_iff_toNat_le, raised, UInt32.toNat_one]
    omega
  · rw [UInt32.le_iff_toNat_le, raised]
    omega

namespace Execution

/-- No loop is under way. -/
def Emptied (x : Execution) : Prop := x.counters = .empty ∧ x.iterations = .empty

/-- **The bookkeeping of a run** at any moment. -/
structure Tidy (p : Pipeline) (x : Execution) : Prop where
  starts : x.path.head? = some p.start
  ends : x.path.getLast? = some x.current
  /-- No step follows itself. -/
  moves : x.path.IsChain (· ≠ ·)
  visited : ∀ k r, x.results.get? k = some r → k ∈ x.path
  counters : ∀ k n, x.counters.get? k = some n → k = x.current
  iterations : ∀ k n, x.iterations.get? k = some n →
    k = x.current ∧
      ∃ s l, p.step? x.current = some s ∧ s.loop = some l ∧ 1 ≤ n ∧ n ≤ l.limit

/-- **The state of a run** between advances: its bookkeeping, and what its status
promises. -/
structure Coherent (p : Pipeline) (x : Execution) : Prop extends Tidy p x where
  failed_iff : x.error.isSome = true ↔ x.status = .failed
  located : ∀ e, x.error = some e → e.step = some x.current
  emptied : x.status = .completed → x.Emptied
  gated : x.status = .waiting → ∃ s, p.step? x.current = some s ∧ s.waitsForHuman = true

/-- A run in the middle of an advance. -/
structure Underway (p : Pipeline) (x : Execution) : Prop extends Tidy p x where
  running : x.status = .running
  intact : x.error = none

variable {p : Pipeline} {x y : Execution} {s : Step}

/-! ### Parts of an advance -/

theorem Tidy.current_mem (h : Tidy p x) : x.current ∈ x.path := List.mem_of_getLast? h.ends

/-- Failing is possible at any moment. -/
theorem Tidy.fail (h : Tidy p x) (f : Fault) : Coherent p (x.fail f) where
  toTidy := { h with }
  failed_iff := by simp [Execution.fail]
  located := by
    intro e he
    cases he
    rfl
  emptied := nofun
  gated := nofun

/-- **Forgetting the loop of the current step** forgets all loops. -/
theorem Tidy.emptied_resetLoop (h : Tidy p x) : (x.resetLoop x.current).Emptied :=
  ⟨Table.erase_eq_empty h.counters, Table.erase_eq_empty fun k n hn => (h.iterations k n hn).1⟩

theorem Emptied.counters_get? (h : x.Emptied) (k : String) : x.counters.get? k = none := by
  rw [h.1]; rfl

theorem Emptied.iterations_get? (h : x.Emptied) (k : String) : x.iterations.get? k = none := by
  rw [h.2]; rfl

namespace Underway

/-- A run may rest in the middle of an advance. -/
theorem coherent (h : Underway p x) : Coherent p x where
  toTidy := h.toTidy
  failed_iff := by simp [h.intact, h.running]
  located := by simp [h.intact]
  emptied := by simp [h.running]
  gated := by simp [h.running]

theorem suspend (h : Underway p x) (hs : p.step? x.current = some s)
    (gate : s.waitsForHuman = true) : Coherent p x.suspend where
  toTidy := { h.toTidy with }
  failed_iff := by simp [Execution.suspend, h.intact]
  located := by simp [Execution.suspend, h.intact]
  emptied := nofun
  gated := fun _ => ⟨s, hs, gate⟩

/-- A result of the current step may be recorded. -/
theorem record (h : Underway p x) (r : ToolResult) : Underway p (x.record x.current r) := by
  refine { h with visited := ?_ }
  intro k r' found
  change (x.results.insert x.current r).get? k = some r' at found
  rw [Table.get?_insert] at found
  by_cases here : x.current = k
  · exact here ▸ h.current_mem
  · rw [if_neg here] at found
    exact h.visited k r' found

/-- The loop of the current step may be forgotten. -/
theorem resetLoop (h : Underway p x) : Underway p (x.resetLoop x.current) := by
  refine { h with counters := ?_, iterations := ?_ }
  · intro k n found
    rw [h.emptied_resetLoop.counters_get?] at found
    cases found
  · intro k n found
    rw [h.emptied_resetLoop.iterations_get?] at found
    cases found

/-- The loop of the current step may decide.  A repetition is noted only below the
limit, so the limit stays a bound and the sum stays in range. -/
theorem decide {l : Loop} {b : Bool} (h : Underway p x) (hs : p.step? x.current = some s)
    (hl : s.loop = some l) (decides : Decides x x.current l b y) : Underway p y := by
  -- the decision writes to the counter of the current step only
  have away {counters : Table Int64}
      (others : ∀ k, k ≠ x.current → counters.get? k = x.counters.get? k) :
      ∀ k n, counters.get? k = some n → k = x.current := by
    intro k n found
    by_contra elsewhere
    rw [others k elsewhere] at found
    exact elsewhere (h.counters k n found)
  cases decides with
  | ends counters others =>
    exact { h with counters := away others }
  | goesOn counters below others =>
    refine { h with counters := away others, iterations := ?_ }
    intro k n found
    change (x.iterations.insert x.current (x.iterationsOf x.current + 1)).get? k = some n at found
    rw [Table.get?_insert] at found
    by_cases here : x.current = k
    · rw [if_pos here] at found
      cases found
      obtain ⟨least, most⟩ := UInt32.bounds_of_not_le below
      exact ⟨here.symm, s, l, hs, hl, least, most⟩
    · rw [if_neg here] at found
      exact h.iterations k n found

/-- A step that is entered is entered in good order. -/
theorem enters (h : Underway p x) (hs : p.step? x.current = some s) (key : s.id = x.current)
    (entered : Enters x s y) : Underway p y ∧ y.current = x.current := by
  cases entered with
  | straight => exact ⟨h, rfl⟩
  | again hl decided =>
    have decides := decides_decideLoop decided
    rw [key] at decides
    exact ⟨h.decide hs hl decides, decides.samePlace.current⟩

/-- **A transition ends in good order**: it completes with no loop, stays, or moves
away with no loop. -/
theorem transitions {next : Option String} (h : Underway p x) (key : s.id = x.current)
    (ends : Transitions x s next y) : Coherent p y := by
  have reset := h.resetLoop
  rw [← key] at reset
  have emptied := h.emptied_resetLoop
  rw [← key] at emptied
  cases ends with
  | stays => exact h.coherent
  | completes =>
    exact
      { toTidy := { reset.toTidy with }
        failed_iff := by simp [complete, reset.intact]
        located := by simp [complete, reset.intact]
        emptied := fun _ => emptied
        gated := nofun }
  | @moves t _ _ away =>
    have moved : Underway p ((x.resetLoop s.id).moveTo t) :=
      { starts := by
          show (x.path ++ [t]).head? = some p.start
          rw [List.head?_append, h.starts, Option.some_or]
        ends := by
          show (x.path ++ [t]).getLast? = some t
          rw [List.getLast?_append, List.getLast?_singleton, Option.some_or]
        moves := by
          show (x.path ++ [t]).IsChain (· ≠ ·)
          refine List.isChain_append.mpr ⟨h.moves, List.isChain_singleton t, ?_⟩
          intro a ha b hb
          -- the path ends with the current step, and the target is another
          rw [h.ends] at ha
          cases ha
          cases hb
          exact fun same => away (same.symm.trans key.symm)
        visited := fun k r found => List.mem_append_left _ (h.visited k r found)
        counters := by
          intro k n found
          change (x.resetLoop s.id).counters.get? k = some n at found
          rw [emptied.counters_get?] at found
          cases found
        iterations := by
          intro k n found
          change (x.resetLoop s.id).iterations.get? k = some n at found
          rw [emptied.iterations_get?] at found
          cases found
        running := h.running
        intact := h.intact }
    exact moved.coherent

/-- **What a step comes to is in good order.** -/
theorem concludes {strict : Bool} {r : ToolResult} (h : Underway p x) (key : s.id = x.current)
    (ends : Concludes x strict s r y) : Coherent p y := by
  have recorded := h.record r
  rw [← key] at recorded
  cases ends with
  | undecided => exact recorded.fail _
  | unrouted => exact recorded.fail _
  | routed => exact recorded.transitions key (transitions_transition _ s _)

/-- **Passing a gate keeps a run in good order.** -/
theorem passGate (keyed : p.Keyed) (h : Underway p x) (strict : Bool) (input : Option Value)
    (now : Instant) : Coherent p (x.passGate strict p input now) := by
  unfold Execution.passGate
  cases hs : p.step? x.current with
  | none => exact h.fail _
  | some s => exact h.concludes (keyed _ s hs) (concludes_conclude x strict s _)

/-- **An advance keeps a run in good order.** -/
theorem advances {settings : Settings} {asked : Prop} (keyed : p.Keyed) (h : Underway p x)
    (advances : Advances settings p asked x y) : Coherent p y := by
  cases advances with
  | unknown => exact h.fail _
  | undecided => exact h.fail _
  | @leaves s l z hs hl decided =>
    have key := keyed _ s hs
    have decides := decides_decideLoop decided
    rw [key] at decides
    have decided := h.decide hs hl decides
    have current : z.current = x.current := decides.samePlace.current
    -- the loop is forgotten before the transition, which forgets it again
    have reset := decided.resetLoop
    rw [current, ← key] at reset
    exact reset.transitions (key.trans current.symm) (transitions_transition _ s _)
  | suspends hs entered gate =>
    obtain ⟨inside, current⟩ := h.enters hs (keyed _ _ hs) entered
    exact inside.suspend (current ▸ hs) gate
  | @stops s z hs entered _ r =>
    obtain ⟨inside, current⟩ := h.enters hs (keyed _ _ hs) entered
    have recorded := inside.record r
    rw [current, ← keyed _ _ hs] at recorded
    exact recorded.fail _
  | concludes hs entered _ r =>
    obtain ⟨inside, current⟩ := h.enters hs (keyed _ _ hs) entered
    exact inside.concludes ((keyed _ _ hs).trans current.symm) (concludes_conclude _ _ _ r)

end Underway

/-! ### Turns -/

theorem coherent_fresh (p : Pipeline) (initial : Table Value) (id : ExecutionId) (now : Instant) :
    Coherent p (.fresh p initial id now) :=
  have begun : Underway p (.fresh p initial id now) :=
    { starts := rfl
      ends := rfl
      moves := List.isChain_singleton _
      visited := nofun
      counters := nofun
      iterations := nofun
      running := rfl
      intact := rfl }
  begun.coherent

namespace Coherent

theorem touch (h : Coherent p x) (now : Instant) : Coherent p (x.touch now) :=
  { h with }

/-- A run that has not failed has no error. -/
theorem intact (h : Coherent p x) (unfailed : x.status ≠ .failed) : x.error = none := by
  rw [← Option.not_isSome_iff_eq_none]
  exact fun failed => unfailed (h.failed_iff.mp failed)

theorem underway (h : Coherent p x) (running : x.status = .running) : Underway p x where
  toTidy := h.toTidy
  running := running
  intact := h.intact (by simp [running])

/-- A run that waits can be resumed. -/
theorem resume (h : Coherent p x) (waiting : x.status = .waiting) (r : HumanResponse) :
    Underway p (x.resume r) where
  toTidy := { h.toTidy with }
  running := rfl
  intact := h.intact (by simp [waiting])

/-- **Taking in a response keeps a run in good order.** -/
theorem respond (keyed : p.Keyed) (h : Coherent p x) (waiting : x.status = .waiting)
    (strict : Bool) (r : HumanResponse) (now : Instant) :
    Coherent p (x.respond strict p r now) := by
  have resumed := h.resume waiting r
  unfold Execution.respond
  cases r.approved with
  | false => exact resumed.fail _
  | true => exact resumed.passGate keyed strict r.input now

end Coherent

end Execution

open Execution

/-- A turn keeps a run in good order. -/
theorem Takes.coherent {settings : Settings} {p : Pipeline} {past : List Turn} {t : Turn}
    {x y : Execution} (keyed : p.Keyed) (h : Takes settings p past t x y) (before : Coherent p x) :
    Coherent p y := by
  cases h with
  | advance h s now running flag =>
    exact ((before.underway running).advances keyed
      (h.advances_advance settings p x s)).touch _
  | stop now running asked => exact (before.fail _).touch now
  | response r start stop waiting => exact (before.respond keyed waiting _ r start).touch stop
  | cancelWaiting now waiting => exact (before.fail _).touch now
  | cancelRunning => exact before

/-- Every state in the life of a run is in good order. -/
theorem Life.coherent {settings : Settings} {p : Pipeline} {past : List Turn} {x : Execution}
    (keyed : p.Keyed) (life : Life settings p past x) : Coherent p x := by
  induction life with
  | fresh initial id now => exact coherent_fresh p initial id now
  | turn _ h before => exact h.coherent keyed before

/-- **The bookkeeping of a run** in every state of its life.  The path runs from the
start to the current step and never stands still.  There is an error exactly if the
run has failed, and it names the current step.  Only the current step has a loop; its
repetitions stay within its limit, and a completed run has none.  Every result
belongs to a step on the path.  A run waits only at a gate. -/
theorem Life.bookkeeping {settings : Settings} {p : Pipeline} {past : List Turn} {x : Execution}
    (keyed : p.Keyed) (life : Life settings p past x) :
    (x.path ≠ [] ∧ x.path.head? = some p.start ∧ x.path.getLast? = some x.current ∧
        x.path.IsChain (· ≠ ·)) ∧
      ((x.error.isSome = true ↔ x.status = .failed) ∧
        ∀ e, x.error = some e → e.step = some x.current) ∧
      (∀ k, x.counters.contains k = true ∨ x.iterations.contains k = true → k = x.current) ∧
      (∀ k n, x.iterations.get? k = some n →
        ∃ s l, p.step? x.current = some s ∧ s.loop = some l ∧ 1 ≤ n ∧ n ≤ l.limit) ∧
      (x.status = .completed → x.counters = .empty ∧ x.iterations = .empty) ∧
      (∀ k, x.results.contains k = true → k ∈ x.path) ∧
      (x.status = .waiting → ∃ s, p.step? x.current = some s ∧ s.waitsForHuman = true) := by
  have order := life.coherent keyed
  refine ⟨⟨?_, order.starts, order.ends, order.moves⟩, ⟨order.failed_iff, order.located⟩, ?_,
    fun k n found => (order.iterations k n found).2, order.emptied, ?_, order.gated⟩
  · exact List.ne_nil_of_mem order.current_mem
  · intro k found
    simp only [Table.contains_iff] at found
    rcases found with ⟨n, found⟩ | ⟨n, found⟩
    · exact order.counters k n found
    · exact (order.iterations k n found).1
  · intro k found
    obtain ⟨r, found⟩ := (x.results.contains_iff k).mp found
    exact order.visited k r found

/-- A run that waits at its gate. -/
theorem Life.bookkeeping_reviewed :
    (Definition.reviewed.toPipeline "p").Keyed ∧
      ∃ past x, Life {} (Definition.reviewed.toPipeline "p") past x ∧ x.status = .waiting ∧
        ∃ s, (Definition.reviewed.toPipeline "p").step? x.current = some s ∧
          s.waitsForHuman = true := by
  have valid : Definition.reviewed.validate = .ok () := by rfl
  have keyed := (Definition.sound_toPipeline valid "p").keyed
  obtain ⟨past, x, life, waiting⟩ := exists_life_waiting
  obtain ⟨-, -, -, -, -, -, gated⟩ := life.bookkeeping keyed
  exact ⟨keyed, past, x, life, waiting, gated waiting⟩

end StepFlow
