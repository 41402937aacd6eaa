import Mathlib.Data.Nat.Find
import StepFlow.Proofs.Engine.Stability
import StepFlow.Proofs.Execution.Calls

/-!
# How often a step is attempted

The answers that a tool gives are laid out beforehand, for as many retries as one likes
(`Attempt.answer`), whether or not it comes to them.  The attempts that are made are then the
first ones of these, up to the first at which one of three things holds: it succeeds, no retry is
left, or the flag for cancellation is up once it is over (`Attempt.EndsAfter`).  There always is
such a first one, and it decides what the attempts come to (`Attempt.repeat_of_endsAfter`).

An **errand** is all that an invocation of a step depends on but the state of its host.  What is
seen of it is kept beside that state: every attempt with the call that is made, and every retry
with the failure that it follows (`Errand.sightings`).
-/

namespace StepFlow

variable {σ : Type}

namespace Attempt

variable (a : Attempt σ) (s : σ)

/-- **The state that an attempt is made in**, after `j` retries, when the first is made in `s`. -/
def stateAt : Nat → σ
  | 0 => s
  | j + 1 =>
    let came := a.call (stateAt j)
    a.beforeRetry (j + 2) came.1 came.2

/-- **The answer to the attempt** after `j` retries. -/
def answer (j : Nat) : ToolResult := (a.call (a.stateAt s j)).1

/-- The state after the attempt after `j` retries. -/
def stateAfter (j : Nat) : σ := (a.call (a.stateAt s j)).2

/-- **The attempts end after `k` retries**, when `left` of them may be made. -/
structure EndsAfter (left k : Nat) : Prop where
  within : k ≤ left
  failed : ∀ j < k, (a.answer s j).success = false
  unheeded : ∀ j < k, a.isCancelled (a.stateAfter s j) = false
  last : (a.answer s k).success = true ∨ k = left ∨ a.isCancelled (a.stateAfter s k) = true

variable {a s} {left k : Nat}

/-- Attempts come to an end. -/
theorem exists_endsAfter (a : Attempt σ) (s : σ) (left : Nat) : ∃ k, a.EndsAfter s left k := by
  classical
  -- the end is the first place where nothing calls for a retry
  let ends (k : Nat) : Prop :=
    (a.answer s k).success = true ∨ k = left ∨ a.isCancelled (a.stateAfter s k) = true
  have some : ∃ k, ends k := ⟨left, .inr (.inl rfl)⟩
  refine ⟨Nat.find some, ?_, ?_, ?_, Nat.find_spec some⟩
  · exact Nat.find_min' some (.inr (.inl rfl))
  · intro j earlier
    exact Bool.eq_false_iff.mpr fun succeeded => Nat.find_min some earlier (.inl succeeded)
  · intro j earlier
    exact Bool.eq_false_iff.mpr fun heeded =>
      Nat.find_min some earlier (.inr (.inr heeded))

/-- The attempts from the one after `j` retries on. -/
theorem repeat_stateAt {retries j : Nat} (ends : a.EndsAfter s retries k) (begun : j ≤ k)
    (room : j + left = retries) :
    a.repeat left (j + 1) (a.stateAt s j) =
      (⟨a.answer s k, k + 1, !(a.answer s k).success && decide (k < retries)⟩,
        a.stateAfter s k) := by
  induction left generalizing j with
  | zero =>
    have last : k = retries := Nat.le_antisymm ends.within (room ▸ begun)
    obtain rfl : k = j := last.trans room.symm
    rw [last, decide_eq_false (Nat.lt_irrefl retries), Bool.and_false]
    rfl
  | succ left ih =>
    rw [repeat_succ]
    show (if (a.answer s j).success = true then (⟨a.answer s j, j + 1, false⟩, a.stateAfter s j)
      else if a.isCancelled (a.stateAfter s j) = true then
        (⟨a.answer s j, j + 1, true⟩, a.stateAfter s j)
      else a.repeat left (j + 2) (a.stateAt s (j + 1))) = _
    rcases Nat.lt_or_eq_of_le begun with later | rfl
    · -- the attempt calls for a retry
      rw [ends.failed j later, ends.unheeded j later, if_neg Bool.false_ne_true,
        if_neg Bool.false_ne_true]
      exact ih later (by omega)
    · have more : j < retries := by omega
      rw [decide_eq_true more, Bool.and_true]
      cases succeeded : (a.answer s j).success with
      | true => rfl
      | false =>
        have heeded : a.isCancelled (a.stateAfter s j) = true := by
          rcases ends.last with success | last | heeded
          · rw [succeeded] at success
            cases success
          · exact absurd last (Nat.ne_of_lt more)
          · exact heeded
        rw [if_neg Bool.false_ne_true, if_pos heeded]
        rfl

/-- **What attempts come to**: the answer to the last of them.  They are cancelled if it failed
and retries were left. -/
theorem repeat_of_endsAfter (ends : a.EndsAfter s left k) :
    a.repeat left 1 s =
      (⟨a.answer s k, k + 1, !(a.answer s k).success && decide (k < left)⟩, a.stateAfter s k) :=
  repeat_stateAt ends (Nat.zero_le k) (Nat.zero_add left)

/-- Attempts that nobody cancels end with a success, or with the last that may be made. -/
theorem EndsAfter.of_uncancelled (ends : a.EndsAfter s left k)
    (uncancelled : ∀ j, a.isCancelled (a.stateAfter s j) = false) :
    (a.answer s k).success = true ∨ k = left := by
  rcases ends.last with succeeded | last | heeded
  · exact .inl succeeded
  · exact .inr last
  · rw [uncancelled k] at heeded
    cases heeded

/-- Attempts with the flag up end after the first. -/
theorem EndsAfter.of_cancelled (ends : a.EndsAfter s left k)
    (heeded : a.isCancelled (a.stateAfter s 0) = true) : k = 0 := by
  by_contra later
  have unheeded := ends.unheeded 0 (Nat.pos_of_ne_zero later)
  rw [heeded] at unheeded
  cases unheeded

end Attempt

/-! ### Errands -/

/-- **An errand**: a step to be invoked, and what it is invoked on. -/
structure Errand (σ : Type) where
  host : Host σ
  settings : Settings
  execution : ExecutionId
  step : Step
  parameters : Table Value
  onRetry : (n : Nat) → ToolResult → σ → σ

/-- **What is seen of an errand**: an attempt is made, or a failure is followed by attempt number
`n`. -/
inductive Sighting (σ : Type) where
  | attempted (m : Made σ)
  | retried (n : Nat) (failure : ToolResult)

namespace Errand

variable (e : Errand σ) (s : σ)

/-- How the step is attempted. -/
def attempt : Attempt σ := e.host.attempt e.settings e.execution e.step e.parameters e.onRetry

/-- Is the flag up that asks to cancel the run? -/
def isFlagged (t : σ) : Bool := e.host.isCancelled e.execution t

/-- Runs the errand. -/
def invoke : Invocation × σ :=
  e.host.invoke e.settings e.execution e.step e.parameters e.onRetry s

/-- How many retries may be made. -/
def retries : Nat := e.step.maxAttempts e.settings - 1

/-- **The same errand, which keeps what is seen of it**, in order. -/
def watched : Errand (σ × List (Sighting σ)) where
  host :=
    { now := fun s => e.host.now s.1
      isCancelled := fun id s => e.host.isCancelled id s.1
      call := fun c timeout s =>
        let (result, t) := e.host.call c timeout s.1
        (result, t, s.2 ++ [.attempted ⟨c, timeout, s.1⟩])
      emit := fun id event s => (e.host.emit id event s.1, s.2)
      pause := fun ms s => (e.host.pause ms s.1, s.2)
      publish := fun x s => (e.host.publish x s.1, s.2)
      ask := fun q s => (e.host.ask q s.1, s.2) }
  settings := e.settings
  execution := e.execution
  step := e.step
  parameters := e.parameters
  onRetry n failure s := (e.onRetry n failure s.1, s.2 ++ [.retried n failure])

/-- **What is seen of an errand**, in order. -/
def sightings : List (Sighting σ) := (e.watched.invoke (s, [])).2.2

/-- The attempt after `j` retries: the same call each time, in another state. -/
def made (j : Nat) : Made σ :=
  ⟨⟨.attempt e.execution e.step.id, e.step.tool, e.parameters⟩, e.step.timeLimit e.settings,
    e.attempt.stateAt s j⟩

/-- What is seen before the attempt after `k` retries. -/
def seenBefore (k : Nat) : List (Sighting σ) :=
  (List.range k).flatMap fun j =>
    [.attempted (e.made s j), .retried (j + 2) (e.attempt.answer s j)]

/-! ### What an errand keeps -/

theorem seenBefore_succ (k : Nat) :
    e.seenBefore s (k + 1) = e.seenBefore s k ++ [.attempted (e.made s k)] ++
      [.retried (k + 2) (e.attempt.answer s k)] := by
  simp only [seenBefore, List.range_succ, List.flatMap_append, List.flatMap_singleton,
    List.append_assoc, List.singleton_append]

/-- Before a retry, the word of it is all that is kept. -/
theorem beforeRetry_watched (n : Nat) (failure : ToolResult) (t : σ × List (Sighting σ)) :
    e.watched.attempt.beforeRetry n failure t =
      (e.attempt.beforeRetry n failure t.1, t.2 ++ [.retried n failure]) := by
  show e.watched.host.rest e.settings _ = (e.host.rest e.settings _, _)
  unfold Host.rest
  split <;> rfl

/-- **An attempt is made where it would be made unwatched**, with what was seen before it. -/
theorem stateAt_watched (k : Nat) :
    e.watched.attempt.stateAt (s, []) k = (e.attempt.stateAt s k, e.seenBefore s k) := by
  induction k with
  | zero => rfl
  | succ k ih =>
    rw [seenBefore_succ]
    unfold Attempt.stateAt
    rw [ih, beforeRetry_watched]
    rfl

theorem answer_watched (k : Nat) : e.watched.attempt.answer (s, []) k = e.attempt.answer s k := by
  unfold Attempt.answer
  rw [stateAt_watched]
  rfl

theorem stateAfter_watched (k : Nat) :
    e.watched.attempt.stateAfter (s, []) k =
      (e.attempt.stateAfter s k, e.seenBefore s k ++ [.attempted (e.made s k)]) := by
  unfold Attempt.stateAfter
  rw [stateAt_watched]
  rfl

variable {e s} {k : Nat}

/-- Attempts end where they would end unwatched. -/
theorem endsAfter_watched (ends : e.attempt.EndsAfter s e.retries k) :
    e.watched.attempt.EndsAfter (s, []) e.watched.retries k where
  within := ends.within
  failed j earlier := by rw [answer_watched]; exact ends.failed j earlier
  unheeded j earlier := by rw [stateAfter_watched]; exact ends.unheeded j earlier
  last := by rw [answer_watched, stateAfter_watched]; exact ends.last

/-- **What an errand comes to.** -/
theorem invoke_of_endsAfter (ends : e.attempt.EndsAfter s e.retries k) :
    e.invoke s =
      (⟨(e.made s k).result e.host, k + 1,
          !((e.made s k).result e.host).success && decide (k < e.retries)⟩,
        (e.made s k).after e.host) :=
  Attempt.repeat_of_endsAfter ends

/-- **What is seen of an errand**: attempts, each followed by the word of the next, up to the
last. -/
theorem sightings_of_endsAfter (ends : e.attempt.EndsAfter s e.retries k) :
    e.sightings s = e.seenBefore s k ++ [.attempted (e.made s k)] := by
  unfold sightings
  rw [invoke_of_endsAfter (endsAfter_watched ends)]
  exact congrArg Prod.snd (stateAfter_watched e s k)

/-- **Watching an errand changes nothing about it.** -/
theorem invoke_watched (e : Errand σ) (s : σ) :
    e.watched.invoke (s, []) = ((e.invoke s).1, (e.invoke s).2, e.sightings s) := by
  obtain ⟨k, ends⟩ := e.attempt.exists_endsAfter s e.retries
  have answers : (e.watched.made (s, []) k).result e.watched.host = (e.made s k).result e.host :=
    answer_watched e s k
  have states : (e.watched.made (s, []) k).after e.watched.host =
      ((e.made s k).after e.host, e.seenBefore s k ++ [.attempted (e.made s k)]) :=
    stateAfter_watched e s k
  rw [sightings_of_endsAfter ends, invoke_of_endsAfter ends,
    invoke_of_endsAfter (endsAfter_watched ends), answers, states]
  rfl

/-! ### How many attempts are made -/

theorem maxAttempts_eq (e : Errand σ) :
    e.step.maxAttempts e.settings =
      min ((e.step.maxRetries.getD e.settings.maxRetries).toNat + 1) (UInt32.size - 1) := rfl

theorem retries_add_one (e : Errand σ) : e.retries + 1 = e.step.maxAttempts e.settings := by
  have words : 1 ≤ UInt32.size - 1 := by decide
  unfold retries
  rw [maxAttempts_eq]
  omega

section Success

variable (tools : Toolbox) (answering : Request → Engine → Answer × Engine) (c : Call)
  (timeout : UInt64) {g : Engine}

/-- **When a call is a success** whose own limit is the first: the tool is known, it comes to an
outcome in time, and this is no error. -/
theorem success_call (timely : g.expired = false)
    (first : g.inTime (g.clock + timeout.toNat * 1000) = true) :
    (Engine.call tools answering c timeout g).1.success = true ↔
      tools.knows c.tool = true ∧
        ∃ o, (g.consult tools answering c (g.clock + timeout.toNat * 1000)).1 = some o ∧
          o.success = true := by
  unfold Engine.call
  rw [timely, if_neg Bool.false_ne_true]
  cases known : tools.knows c.tool with
  | false => simp [Engine.resultSince, Outcome.ofError, Outcome.failed]
  | true =>
    rw [if_pos rfl]
    dsimp only
    rcases g.consult tools answering c (g.clock + timeout.toNat * 1000) with ⟨none | o, after⟩
    · -- the limit that passed is the one of this call
      have own : (after.returning g (g.clock + timeout.toNat * 1000)).expired = false := by
        unfold Engine.returning
        rw [first, Bool.not_true, Bool.and_false]
      simp [own, Engine.resultSince, Outcome.ofError, Outcome.failed]
    · simp [Engine.resultSince]

/-- **A tool that takes some time** succeeds if its call may take as long. -/
theorem success_call_of_wait (timely : g.expired = false)
    (first : g.inTime (g.clock + timeout.toNat * 1000) = true) {delay : Nat} {o : Outcome}
    (waits : tools.reply g.calls c = .wait delay (.done o)) :
    (Engine.call tools answering c timeout g).1.success = true ↔
      tools.knows c.tool = true ∧ delay ≤ timeout.toNat * 1000 ∧ o.success = true := by
  rw [success_call tools answering c timeout timely first]
  let within := (g.note (.called c)).within (g.clock + timeout.toNat * 1000)
  have limited : within.limit = some (g.clock + timeout.toNat * 1000) := if_pos first
  have consulted : g.consult tools answering c (g.clock + timeout.toNat * 1000) =
      if (within.elapse delay).expired then (none, within.elapse delay)
      else (some o, within.elapse delay) := by
    unfold Engine.consult
    rw [waits]
    exact Engine.perform_wait answering delay (.done o) within
  have late : (within.elapse delay).expired = true ↔ ¬ delay ≤ timeout.toNat * 1000 := by
    have inTime := Engine.inTime_iff limited (within.clock + delay)
    have clock : within.clock = g.clock := rfl
    by_cases soon : within.inTime (within.clock + delay) = true
    · rw [Engine.elapse_of_inTime soon]
      have still : within.expired = false := timely
      simp only [still, Bool.false_eq_true, false_iff, not_not]
      have := inTime.mp soon
      omega
    · rw [Engine.elapse_of_not_inTime soon]
      have := mt inTime.mpr soon
      simp only [true_iff]
      omega
  rw [consulted]
  by_cases soon : delay ≤ timeout.toNat * 1000
  · rw [if_neg (late.not.mpr (not_not.mpr soon))]
    simp [soon]
  · rw [if_pos (late.mpr soon)]
    simp [soon]

end Success

/-- **An errand perseveres.**  It is attempted until an attempt succeeds, or as often as the
retries of the step allow, or else those of the settings; that is at most as often as a word of
32 bits can count.

* If nobody cancels the run, the attempts up to the first success are made, or all that may be
  made if none succeeds, and the last of them is what the errand comes to.  All make the same call.
  Each one but the last is followed by the word of the next, with its failure.
* With the flag up from the start there is one attempt, and the errand was cancelled if it failed
  and could have been repeated.
* A call of an engine that may take all of its own time, for the calls around it last as long,
  fails in one of three ways: its tool is not known, it comes to nothing in its time, or its outcome
  says that it failed.  A tool that asks for nothing comes to its outcome if it takes no longer than
  the call allows. -/
theorem perseveres (e : Errand σ) (s : σ) :
    e.step.maxAttempts e.settings =
        min ((e.step.maxRetries.getD e.settings.maxRetries).toNat + 1) (UInt32.size - 1) ∧
      ((∀ j, e.isFlagged ((e.made s j).after e.host) = false) →
        ∃ k < e.step.maxAttempts e.settings,
          (∀ j < k, ((e.made s j).result e.host).success = false) ∧
          (((e.made s k).result e.host).success = true ∨
            k + 1 = e.step.maxAttempts e.settings) ∧
          e.invoke s = (⟨(e.made s k).result e.host, k + 1, false⟩, (e.made s k).after e.host) ∧
          e.sightings s = e.seenBefore s k ++ [.attempted (e.made s k)]) ∧
      (e.isFlagged s = true →
        (∀ c timeout t, e.isFlagged t = true → e.isFlagged (e.host.call c timeout t).2 = true) →
        (e.invoke s).1 =
            ⟨(e.made s 0).result e.host, 1,
              !((e.made s 0).result e.host).success &&
                decide (1 < e.step.maxAttempts e.settings)⟩ ∧
          e.sightings s = [.attempted (e.made s 0)]) ∧
      (∀ tools answering c timeout (g : Engine), g.expired = false →
        g.inTime (g.clock + timeout.toNat * 1000) = true →
        ((Engine.call tools answering c timeout g).1.success = true ↔
          tools.knows c.tool = true ∧
            ∃ o, (g.consult tools answering c (g.clock + timeout.toNat * 1000)).1 = some o ∧
              o.success = true) ∧
        ∀ delay o, tools.reply g.calls c = .wait delay (.done o) →
          ((Engine.call tools answering c timeout g).1.success = true ↔
            tools.knows c.tool = true ∧ delay ≤ timeout.toNat * 1000 ∧ o.success = true)) ∧
      ∀ error, (Outcome.ofError error).success = false := by
  refine ⟨e.maxAttempts_eq, ?_, ?_, fun tools answering c timeout g timely first =>
    ⟨success_call tools answering c timeout timely first, fun _ _ waits =>
      success_call_of_wait tools answering c timeout timely first waits⟩, fun _ => rfl⟩
  · intro uncancelled
    obtain ⟨k, ends⟩ := e.attempt.exists_endsAfter s e.retries
    have stops := ends.of_uncancelled uncancelled
    have room := e.retries_add_one
    refine ⟨k, by have := ends.within; omega, ends.failed, ?_, ?_, sightings_of_endsAfter ends⟩
    · exact stops.imp_right fun last => by omega
    · have unbroken :
          (!((e.made s k).result e.host).success && decide (k < e.retries)) = false := by
        rcases stops with succeeded | last
        · have succeeded : ((e.made s k).result e.host).success = true := succeeded
          rw [succeeded]
          rfl
        · rw [last, decide_eq_false (Nat.lt_irrefl _), Bool.and_false]
      rw [invoke_of_endsAfter ends, unbroken]
  · intro raised stays
    obtain ⟨k, ends⟩ := e.attempt.exists_endsAfter s e.retries
    obtain rfl : k = 0 := ends.of_cancelled (stays _ _ s raised)
    have more : (0 < e.retries) = (1 < e.step.maxAttempts e.settings) := by
      rw [← e.retries_add_one, Nat.lt_add_left_iff_pos]
    refine ⟨?_, sightings_of_endsAfter ends⟩
    simp only [invoke_of_endsAfter ends, more]

/-- A tool that fails so many times and then succeeds, on a host that counts its calls and raises
no flag, or has it up from the start. -/
def flaky (failures : Nat) (flagged : Bool) : Errand Nat where
  host :=
    { now := .ofMilliseconds
      isCancelled := fun _ _ => flagged
      call := fun _ _ calls =>
        (⟨{ success := decide (failures ≤ calls) }, .instantaneous (.ofMilliseconds 0)⟩, calls + 1)
      emit := fun _ _ calls => calls
      pause := fun _ calls => calls
      publish := fun _ calls => calls
      ask := fun _ calls => calls }
  settings := { retryDelay := 1000 }
  execution := ⟨0⟩
  step := { id := "s", tool := "flaky", maxRetries := some 3 }
  parameters := .empty
  onRetry _ _ calls := calls

/-- After two failures the third attempt succeeds; with the flag up there is only the first. -/
theorem flaky_perseveres :
    ((flaky 2 false).invoke 0).1.attempts = 3 ∧ ((flaky 2 false).invoke 0).1.cancelled = false ∧
      ((flaky 2 true).invoke 0).1.attempts = 1 ∧ ((flaky 2 true).invoke 0).1.cancelled = true := by
  obtain ⟨-, uncancelled, -⟩ := (flaky 2 false).perseveres 0
  obtain ⟨k, -, failed, last, came, -⟩ := uncancelled fun _ => rfl
  obtain ⟨-, -, raised, -⟩ := (flaky 2 true).perseveres 0
  obtain ⟨once, -⟩ := raised rfl fun _ _ _ up => up
  have second : k ≠ 0 ∧ k ≠ 1 := by
    constructor
    · rintro rfl
      rcases last with succeeded | all
      · cases succeeded
      · cases all
    · rintro rfl
      rcases last with succeeded | all
      · cases succeeded
      · cases all
  have third : ¬ 2 < k := by
    intro later
    cases failed 2 later
  obtain rfl : k = 2 := by omega
  rw [came, once]
  exact ⟨rfl, rfl, rfl, rfl⟩

end Errand

end StepFlow
