import StepFlow.Proofs.Execution.Journal
import StepFlow.Proofs.Execution.Walks

/-!
# What a turn leaves of the history of a run

A run keeps its path and the last result of every step.  A turn adds to them and takes nothing
away: one step at the end of the path at most, and one result at most, that of the current step
(`Takes.keeps_history`).  This is so at every point where a turn can fail: at a step that is not
declared, at a loop without a value, with attempts that were cut short, at a route without a value
or one that strict settings refuse, at a rejection and at a cancellation.  A run that fails stands
where it stood, and if it tried its step it has the outcome.

What is load-bearing is that a run which moves goes on running.  So a turn that fails has not moved
the run (`Takes.path_eq_of_failed`), wherever in it the fault came from.
-/

namespace StepFlow

open Execution

variable {settings : Settings} {p : Pipeline} {past : List Turn} {t : Turn} {b : Booking}
  {x y z u : Execution} {s : Step}

/-! ### What is recorded, is recorded of the current step -/

theorem Host.step_of_recordedOn {σ : Type} {h : Host σ} {step : Step} {x : Execution} {s : σ}
    {o : Recorded} (recorded : h.recordedOn settings step x s = some o) : o.step = step.id := by
  unfold recordedOn at recorded
  split at recorded
  · cases recorded
  · cases recorded
    rfl

/-- **An advance records results of the current step only.** -/
theorem Host.step_of_recorded {σ : Type} {h : Host σ} {s : σ} {o : Recorded} (keyed : p.Keyed)
    (recorded : h.recorded settings p x s = some o) : o.step = x.current := by
  unfold Host.recorded at recorded
  split at recorded
  · cases recorded
  · rename_i step hs
    rw [← keyed _ step hs]
    split at recorded
    · exact step_of_recordedOn recorded
    · split at recorded
      · exact step_of_recordedOn recorded
      · cases recorded

/-- So does a response. -/
theorem Execution.step_of_recordedBy {r : HumanResponse} {now : Instant} {o : Recorded}
    (keyed : p.Keyed) (recorded : x.recordedBy p r now = some o) : o.step = x.current := by
  unfold recordedBy at recorded
  split at recorded
  · obtain ⟨s, hs, rfl⟩ := Option.map_eq_some_iff.mp recorded
    exact keyed _ s hs
  · cases recorded

/-- **Whatever a turn records is a result of the current step.** -/
theorem Notes.step_of_recorded (keyed : p.Keyed) (h : Notes settings p past b x y) {o : Recorded}
    (recorded : b.recorded = some o) : o.step = x.current := by
  cases h with
  | advance => exact Host.step_of_recorded keyed recorded
  | stop => cases recorded
  | response => exact step_of_recordedBy keyed recorded
  | cancelWaiting => cases recorded
  | cancelRunning => cases recorded

/-- **A turn changes results by what it records.** -/
theorem Notes.results_eq (keyed : p.Keyed) (h : Notes settings p past b x y) :
    y.results = x.results ∧ b.recorded = none ∨
      ∃ r, b.recorded = some ⟨x.current, r⟩ ∧ y.results = x.results.insert x.current r := by
  have resumed := b.turn.results_resumed x
  have booked := h.books.results
  cases recorded : b.recorded with
  | none =>
    rw [recorded] at booked
    exact .inl ⟨booked.trans resumed, rfl⟩
  | some o =>
    obtain ⟨step, r⟩ := o
    obtain rfl : step = x.current := h.step_of_recorded keyed recorded
    refine .inr ⟨r, rfl, ?_⟩
    rw [booked, recorded]
    exact congrArg (Table.insert · x.current r) resumed

/-! ### A run that fails has not moved -/

/-- A run that has failed has not moved. -/
theorem Goes.path_eq_of_failed {targets : String → Prop} (goes : Goes u targets z)
    (failed : z.status = .failed) : z.path = u.path := by
  cases goes with
  | ends here => exact here
  | stays here => exact here
  | moves _ _ _ running =>
    rw [failed] at running
    cases running

/-- **A turn that fails leaves the path as it was.** -/
theorem Takes.path_eq_of_failed (keyed : p.Keyed) (h : Takes settings p past t y z)
    (order : Coherent p y) (failed : z.status = .failed) : z.path = y.path := by
  cases hs : p.step? y.current with
  | none => exact (h.of_undeclared order hs).1
  | some s =>
    have key := keyed _ s hs
    cases h.does hs with
    | idles => rfl
    | fails here => exact here
    | suspends => cases failed
    | concludes given now =>
      have goes := given.goes order h.running hs key settings.failOnUnroutedError now
      exact (goes.path_eq_of_failed failed).trans given.path
    | @leaves _ u l hl decided now =>
      have goes := Goes.of_leaves (order.underway (h.running rfl)) hs key hl decided now
      have path : (u.resetLoop s.id).path = y.path := (decides_decideLoop decided).path
      exact (goes.path_eq_of_failed failed).trans path

/-! ### History -/

/-- **A turn from `x` to `y` keeps the history** of the run, and adds what was recorded. -/
structure KeepsHistory (recorded : Option Recorded) (x y : Execution) : Prop where
  /-- The path is as it was, or one step longer. -/
  path : x.path <+: y.path
  length : y.path.length ≤ x.path.length + 1
  /-- No result is lost. -/
  kept : ∀ step, (x.results.get? step).isSome = true → (y.results.get? step).isSome = true
  /-- Only the current step can have another result. -/
  others : ∀ step, step ≠ x.current → y.results.get? step = x.results.get? step
  /-- A run that fails stands where it stood, with no more than the outcome of its step. -/
  failed : y.status = .failed → y.path = x.path ∧ y.current = x.current ∧
    (y.results = x.results ∧ recorded = none ∨
      ∃ r, recorded = some ⟨x.current, r⟩ ∧ y.results = x.results.insert x.current r)

/-- **History is never lost.**  Whatever turn a run takes, its path so far is the beginning of its
path afterwards, which is one step longer at most; every step that had a result has one, the same
but for the current step; and a run that fails stands at the step where it stood, on the same path,
with the results it had and the outcome of that step, if it came to one. -/
theorem Takes.keeps_history (keyed : p.Keyed) (life : Life settings p past x)
    (h : Takes settings p past t x y) :
    ∃ o, Notes settings p past ⟨t, o⟩ x y ∧ KeepsHistory o x y := by
  obtain ⟨o, noted⟩ := h.exists_notes
  have order := life.coherent keyed
  have walked := h.path_cases keyed order
  have results := noted.results_eq keyed
  refine ⟨o, noted, ?_, ?_, ?_, ?_, ?_⟩
  · rcases walked with here | ⟨b, path, -⟩
    · exact ⟨[], (List.append_nil _).trans here.symm⟩
    · rw [path]
      exact List.prefix_append _ _
  · rcases walked with here | ⟨b, path, -⟩
    · rw [here]
      exact Nat.le_succ _
    · rw [path, List.length_append, List.length_singleton]
  · intro step present
    rcases results with ⟨same, -⟩ | ⟨r, -, inserted⟩
    · rw [same]
      exact present
    · rw [inserted, Table.get?_insert]
      split
      · rfl
      · exact present
  · intro step other
    rcases results with ⟨same, -⟩ | ⟨r, -, inserted⟩
    · rw [same]
    · rw [inserted, Table.get?_insert_of_ne _ other.symm]
  · intro failed
    have path := h.path_eq_of_failed keyed order failed
    refine ⟨path, ?_, results⟩
    -- the path ends with the current step, before and after
    have last := ((life.turn h).coherent keyed).ends
    rw [path, order.ends] at last
    exact (Option.some.inj last).symm

/-- A person rejects at the gate of a run that has been at another step before. -/
theorem Takes.keeps_history_reviewed :
    let p := Definition.reviewed.toPipeline "p"
    p.Keyed ∧ ∃ past x y, Life {} p past x ∧ Takes {} p past (.response (.reject "no")) x y ∧
      y.status = .failed ∧ y.path = ["draft", "review"] ∧ y.current = "review" ∧
      ∃ o, Notes {} p past ⟨.response (.reject "no"), o⟩ x y ∧ KeepsHistory o x y := by
  intro p
  have valid : Definition.reviewed.validate = .ok () := by rfl
  have keyed := (Definition.sound_toPipeline valid "p").keyed
  obtain ⟨past, life⟩ := exists_life_reviewed
  refine ⟨keyed, past, _, _, life,
    .response (.reject "no") (.ofMilliseconds 1) (.ofMilliseconds 1) rfl, rfl, rfl, rfl, ?_⟩
  exact Takes.keeps_history keyed life (.response _ _ _ rfl)

end StepFlow
