import StepFlow.Execution.Run
import StepFlow.Proofs.Execution.Routes

/-!
# What one advance can do

`Host.advance` is a tower of cases: the step may be unknown, its loop may end or
have no value, a gate may suspend the run, the attempts may be cancelled, and
otherwise the run takes a route.  This module says **once** what comes out, as a
relation between two states of a run that no longer mentions the host:

* `Execution.Enters`: how a step is entered, with or without a loop;
* `Execution.Advances`: the six ways in which an advance ends.

What is load-bearing is `Host.advances_advance`.  Every invariant of a run is
proved along the relation and never unfolds `advance`.
-/

namespace StepFlow

/-! ### Attempts -/

/-- Attempts are cut short only where the flag for cancellation was seen. -/
theorem Attempt.isCancelled_of_repeat {σ : Type} (a : Attempt σ) {left n : Nat} {s : σ}
    (h : (a.repeat left n s).1.cancelled = true) : ∃ t, a.isCancelled t = true := by
  induction left generalizing n s with
  | zero => simp [Attempt.repeat] at h
  | succ left ih =>
    rw [Attempt.repeat] at h
    by_cases succeeded : (a.call s).1.success = true
    · simp [succeeded] at h
    · by_cases seen : a.isCancelled (a.call s).2 = true
      · exact ⟨_, seen⟩
      · simp only [succeeded, seen, if_false, Bool.false_eq_true] at h
        exact ih h

namespace Execution

variable {x y : Execution} {s : Step} {p : Pipeline}

/-- **Two states of one run at one step**, with the same status. -/
structure SamePlace (x y : Execution) : Prop where
  id : y.id = x.id
  current : y.current = x.current
  status : y.status = x.status

/-! ### Conditions -/

section IfDecided

variable {α : Type} {decided : Except Expression.Failure Bool}
  {yes no : Except Expression.Failure α}

theorem ifDecided_eq_ok_iff {a : α} :
    (do if ← decided then yes else no) = .ok a ↔
      (decided = .ok true ∧ yes = .ok a) ∨ (decided = .ok false ∧ no = .ok a) := by
  cases decided with
  | error f => simp [bind, Except.bind]
  | ok holds => cases holds <;> simp [bind, Except.bind]

theorem ifDecided_eq_error_iff {f : Expression.Failure} :
    (do if ← decided then yes else no) = .error f ↔
      decided = .error f ∨ (decided = .ok true ∧ yes = .error f) ∨
        (decided = .ok false ∧ no = .error f) := by
  cases decided with
  | error g => simp [bind, Except.bind]
  | ok holds => cases holds <;> simp [bind, Except.bind]

end IfDecided

/-! ### Loops -/

/-- **A loop decides** without touching anything but its own bookkeeping. -/
inductive Decides (x : Execution) (step : String) (l : Loop) : Bool → Execution → Prop
  /-- The loop goes on, below its limit, with one more repetition noted. -/
  | goesOn (counters : Table Int64) (below : ¬ l.limit ≤ x.iterationsOf step)
      (others : ∀ k, k ≠ step → counters.get? k = x.counters.get? k) :
      Decides x step l true ({ x with counters }.countIteration step)
  /-- The loop ends. -/
  | ends (counters : Table Int64)
      (others : ∀ k, k ≠ step → counters.get? k = x.counters.get? k) :
      Decides x step l false { x with counters }

/-- A counting loop writes its counter whatever it decides; the other loops have
none. -/
theorem decides_decideLoop {step : String} {l : Loop} {b : Bool}
    (h : x.decideLoop step l = .ok (b, y)) : Decides x step l b y := by
  have unchanged : ∀ k, k ≠ step → x.counters.get? k = x.counters.get? k := fun _ _ => rfl
  have counted (n : Int64) : ∀ k, k ≠ step →
      (x.counters.insert step n).get? k = x.counters.get? k :=
    fun k hk => x.counters.get?_insert_of_ne hk.symm n
  -- the limit is asked before the kind of loop
  unfold decideLoop at h
  by_cases below : l.limit ≤ x.iterationsOf step
  · rw [if_pos below] at h
    cases h
    exact .ends x.counters unchanged
  · rw [if_neg below] at h
    cases l with
    | counting start increment limit =>
      simp only at h
      split at h <;> cases h
      · exact .goesOn _ below (counted _)
      · exact .ends _ (counted _)
    | whileTrue condition limit =>
      rcases ifDecided_eq_ok_iff.mp h with ⟨-, h⟩ | ⟨-, h⟩ <;> cases h
      · exact .goesOn x.counters below unchanged
      · exact .ends x.counters unchanged
    | untilTrue condition limit =>
      rcases ifDecided_eq_ok_iff.mp h with ⟨-, h⟩ | ⟨-, h⟩ <;> cases h
      · exact .ends x.counters unchanged
      · exact .goesOn x.counters below unchanged

@[simp] theorem iterationsOf_countIteration (x : Execution) (step : String) :
    (x.countIteration step).iterationsOf step = x.iterationsOf step + 1 := by
  simp [countIteration, iterationsOf]

theorem Decides.samePlace {step : String} {l : Loop} {b : Bool} (h : Decides x step l b y) :
    SamePlace x y := by
  cases h <;> exact ⟨rfl, rfl, rfl⟩

/-- **A step is entered**: at once if it does not loop, otherwise once its loop goes
on. -/
inductive Enters (x : Execution) (s : Step) : Execution → Prop
  | straight (h : s.loop = none) : Enters x s x
  | again {l : Loop} {y : Execution} (hl : s.loop = some l)
      (h : x.decideLoop s.id l = .ok (true, y)) : Enters x s y

theorem Enters.samePlace (h : Enters x s y) : SamePlace x y := by
  cases h with
  | straight => exact ⟨rfl, rfl, rfl⟩
  | again _ decided => exact (decides_decideLoop decided).samePlace

/-! ### Routes -/

/-- **How a transition ends**: the run completes, stays, or moves on. -/
inductive Transitions (x : Execution) (s : Step) (next : Option String) : Execution → Prop
  | completes (h : ∀ t, next = some t → t = endMarker) :
      Transitions x s next (x.resetLoop s.id).complete
  | stays (h : next = some s.id) (onward : s.id ≠ endMarker) : Transitions x s next x
  | moves {t : String} (h : next = some t) (onward : t ≠ endMarker) (away : t ≠ s.id) :
      Transitions x s next ((x.resetLoop s.id).moveTo t)

theorem transitions_transition (x : Execution) (s : Step) (next : Option String) :
    Transitions x s next (x.transition s next) := by
  cases next with
  | none => exact .completes nofun
  | some t =>
    unfold transition
    -- the end marker comes first: it ends the run even as the id of a step
    by_cases ended : t = endMarker
    · simp only [ended, if_true]
      exact .completes fun t' h => by cases h; rfl
    · by_cases same : t = s.id
      · subst same
        simp only [ended, if_false, if_true]
        exact .stays rfl ended
      · simp only [ended, same, if_false]
        exact .moves rfl ended same

theorem Transitions.id_eq {next : Option String} (h : Transitions x s next y) : y.id = x.id := by
  cases h <;> rfl

/-- **What a step comes to** after its result is recorded: a condition of its routes
has no value, its failure is not passed over, or the run takes its route. -/
inductive Concludes (x : Execution) (strict : Bool) (s : Step) (r : ToolResult) : Execution → Prop
  | undecided {f : Expression.Failure}
      (h : (x.record s.id r).chooseRoute s r.toOutcome = .error f) :
      Concludes x strict s r ((x.record s.id r).fail (.expression f))
  | unrouted (h : strict = true) :
      Concludes x strict s r ((x.record s.id r).fail (unroutedFault s r.toOutcome))
  | routed {route : Route} (h : (x.record s.id r).chooseRoute s r.toOutcome = .ok route) :
      Concludes x strict s r ((x.record s.id r).transition s (nextTarget s route))

theorem concludes_conclude (x : Execution) (strict : Bool) (s : Step) (r : ToolResult) :
    Concludes x strict s r (x.conclude strict s r).2 := by
  unfold conclude
  cases chosen : (x.record s.id r).chooseRoute s r.toOutcome with
  | error f =>
    simp only [chosen]
    exact .undecided chosen
  | ok route =>
    simp only [chosen, follow]
    split
    · rename_i refused
      rw [Bool.and_eq_true] at refused
      exact .unrouted refused.1
    · exact .routed chosen

theorem Concludes.id_eq {strict : Bool} {r : ToolResult} (h : Concludes x strict s r y) :
    y.id = x.id := by
  cases h with
  | undecided => rfl
  | unrouted => rfl
  | routed => exact (transitions_transition (x.record s.id r) s _).id_eq

/-- The run that a response resumes, with what the response brings. -/
def resume (x : Execution) (r : HumanResponse) : Execution :=
  ({ x with status := .running, humanInput := r.input }).merge (r.modifications.getD .empty)

/-- An approval passes the gate. -/
theorem respond_eq_passGate {r : HumanResponse} (approved : r.approved = true) (strict : Bool)
    (now : Instant) : x.respond strict p r now = (x.resume r).passGate strict p r.input now := by
  unfold respond
  rw [if_pos approved]
  rfl

/-- So it makes the input of the response the result of the step. -/
theorem respond_of_approved (hs : p.step? x.current = some s) {r : HumanResponse}
    (approved : r.approved = true) (strict : Bool) (now : Instant) :
    x.respond strict p r now =
      ((x.resume r).conclude strict s ⟨.succeeded r.input, .instantaneous now⟩).2 := by
  rw [respond_eq_passGate approved, passGate, show p.step? (x.resume r).current = some s from hs]

/-- If the step is not declared, the run fails. -/
theorem respond_of_undeclared (hs : p.step? x.current = none) {r : HumanResponse}
    (approved : r.approved = true) (strict : Bool) (now : Instant) :
    x.respond strict p r now = (x.resume r).fail (.stepNotFound x.current) := by
  rw [respond_eq_passGate approved, passGate, show p.step? (x.resume r).current = none from hs]
  rfl

/-- Anything else ends the run. -/
theorem respond_of_not_approved {r : HumanResponse} (rejected : r.approved = false)
    (strict : Bool) (now : Instant) :
    x.respond strict p r now = (x.resume r).fail (.rejected x.current r.notes) := by
  unfold respond
  rw [rejected]
  rfl

/-- Taking in a response keeps the id of the run. -/
theorem id_respond (x : Execution) (strict : Bool) (p : Pipeline) (r : HumanResponse)
    (now : Instant) : (x.respond strict p r now).id = x.id := by
  unfold respond
  cases r.approved with
  | false => rfl
  | true =>
    simp only [if_true]
    unfold passGate
    split
    · rfl
    · exact (concludes_conclude _ strict _ _).id_eq

/-- **Routes are declared**: a route leads to one of the references of its step, or
nowhere. -/
theorem mem_references_of_chooseRoute {o : Outcome} {route : Route} {target : String}
    (h : x.chooseRoute s o = .ok route) (ht : route.target = some target) :
    ∃ m, (m, target) ∈ s.references := by
  simp only [Step.mem_references_iff]
  obtain ⟨conditions, routing⟩ := routing_chooseRoute x s o
  generalize x.chooseRoute s o = chosen at h routing
  cases routing with
  | shortcut set =>
    cases h
    cases ht
    -- which of the two shortcuts is taken depends on the outcome
    unfold Step.shortcut? at set
    split at set
    · exact ⟨.onSuccess, .inr (.inr (.inl ⟨rfl, set⟩))⟩
    · exact ⟨.onFailure, .inr (.inr (.inr ⟨rfl, set⟩))⟩
  | branches unset searching =>
    cases searching with
    | holds listed refused holds =>
      cases h
      cases ht
      exact ⟨.branchTarget, .inr (.inl ⟨rfl, _, listed ▸ List.mem_append_cons_self, rfl⟩)⟩
    | fails => cases h
    | refuses =>
      cases h
      exact ⟨.next, .inl ⟨rfl, ht⟩⟩

/-- A route that has no value is due to a condition of the step. -/
theorem exists_condition_of_chooseRoute {o : Outcome} {f : Expression.Failure}
    (h : x.chooseRoute s o = .error f) :
    ∃ c ∈ s.conditions, ∃ context, Expression.decide c context = .error f := by
  obtain ⟨conditions, routing⟩ := routing_chooseRoute x s o
  generalize x.chooseRoute s o = chosen at h routing
  cases routing with
  | shortcut => cases h
  | branches unset searching =>
    cases searching with
    | holds => cases h
    | fails listed refused failed =>
      cases h
      refine ⟨_, List.mem_append_left _ (List.mem_map_of_mem ?_), _, failed⟩
      exact listed ▸ List.mem_append_cons_self
    | refuses => cases h

/-- A loop that has no value is due to its condition, which is one of the step's. -/
theorem exists_condition_of_decideLoop {step : String} {l : Loop} {f : Expression.Failure}
    (hl : s.loop = some l) (h : x.decideLoop step l = .error f) :
    ∃ c ∈ s.conditions, ∃ context, Expression.decide c context = .error f := by
  have listed {c : String} (hc : l.condition? = some c) : c ∈ s.conditions := by
    refine List.mem_append_right _ ?_
    rw [hl, Option.bind_some, hc]
    exact List.mem_singleton_self c
  unfold decideLoop at h
  split at h
  · cases h
  · cases l with
    | counting start increment limit =>
      simp only at h
      split at h <;> cases h
    | whileTrue condition limit =>
      refine ⟨condition, listed rfl, x.loopContext step, ?_⟩
      rcases ifDecided_eq_error_iff.mp h with failed | ⟨-, h⟩ | ⟨-, h⟩
      · exact failed
      · cases h
      · cases h
    | untilTrue condition limit =>
      refine ⟨condition, listed rfl, x.loopContext step, ?_⟩
      rcases ifDecided_eq_error_iff.mp h with failed | ⟨-, h⟩ | ⟨-, h⟩
      · exact failed
      · cases h
      · cases h

/-! ### Advances -/

/-- **What one advance can do** to a run; `asked` says whether the run may have been
asked to stop meanwhile. -/
inductive Advances (settings : Settings) (p : Pipeline) (asked : Prop) (x : Execution) :
    Execution → Prop
  /-- The current step is not declared. -/
  | unknown (h : p.step? x.current = none) :
      Advances settings p asked x (x.fail (.stepNotFound x.current))
  /-- The condition of the loop has no value. -/
  | undecided {s : Step} {l : Loop} {f : Expression.Failure} (hs : p.step? x.current = some s)
      (hl : s.loop = some l) (h : x.decideLoop s.id l = .error f) :
      Advances settings p asked x (x.fail (.expression f))
  /-- The loop ends, and the run goes where the step leads by default. -/
  | leaves {s : Step} {l : Loop} {y : Execution} (hs : p.step? x.current = some s)
      (hl : s.loop = some l) (h : x.decideLoop s.id l = .ok (false, y)) :
      Advances settings p asked x ((y.resetLoop s.id).transition s s.next.default)
  /-- The step is entered, and its gate suspends the run. -/
  | suspends {s : Step} {y : Execution} (hs : p.step? x.current = some s) (h : Enters x s y)
      (gate : s.waitsForHuman = true) : Advances settings p asked x y.suspend
  /-- The step is entered, and its attempts are cut short. -/
  | stops {s : Step} {y : Execution} (hs : p.step? x.current = some s) (h : Enters x s y)
      (gate : s.waitsForHuman = false) (r : ToolResult) (seen : asked) :
      Advances settings p asked x ((y.record s.id r).fail .cancelled)
  /-- The step is entered, and its tool comes to a result. -/
  | concludes {s : Step} {y : Execution} (hs : p.step? x.current = some s) (h : Enters x s y)
      (gate : s.waitsForHuman = false) (r : ToolResult) :
      Advances settings p asked x (y.conclude settings.failOnUnroutedError s r).2

theorem Advances.mono {settings : Settings} {asked asked' : Prop} (imp : asked → asked')
    (h : Advances settings p asked x y) : Advances settings p asked' x y := by
  cases h with
  | unknown h => exact .unknown h
  | undecided hs hl h => exact .undecided hs hl h
  | leaves hs hl h => exact .leaves hs hl h
  | suspends hs h gate => exact .suspends hs h gate
  | stops hs h gate r seen => exact .stops hs h gate r (imp seen)
  | concludes hs h gate r => exact .concludes hs h gate r

/-- An advance keeps the id of the run. -/
theorem Advances.id_eq {settings : Settings} {asked : Prop} (h : Advances settings p asked x y) :
    y.id = x.id := by
  cases h with
  | unknown => rfl
  | undecided => rfl
  | @leaves s l z _ _ decided =>
    exact ((transitions_transition (z.resetLoop s.id) s _).id_eq).trans
      (decides_decideLoop decided).samePlace.id
  | suspends _ entered => exact entered.samePlace.id
  | stops _ entered => exact entered.samePlace.id
  | @concludes s z _ entered _ r =>
    exact (concludes_conclude z settings.failOnUnroutedError s r).id_eq.trans entered.samePlace.id

end Execution

namespace Host

open Execution

variable {σ : Type} (h : Host σ) (settings : Settings) (p : Pipeline)

/-- A run whose step is entered advances, whatever the gate and the tool come to. -/
theorem advances_enter {x y : Execution} {step : Step} (hs : p.step? x.current = some step)
    (entered : Enters x step y) (same : y.id = x.id) (s : σ) :
    Advances settings p (∃ t, h.isCancelled x.id t = true) x (h.enter settings step y s).1 := by
  unfold enter
  cases gate : step.waitsForHuman with
  | true => exact .suspends hs entered gate
  | false =>
    simp only [Bool.false_eq_true, if_false, perform]
    split
    · rename_i cut
      refine .stops hs entered gate _ ?_
      rw [← same]
      exact Attempt.isCancelled_of_repeat _ cut
    · exact .concludes hs entered gate _

/-- **An advance does one of six things**, on every host and from every state of it. -/
theorem advances_advance (x : Execution) (s : σ) :
    Advances settings p (∃ t, h.isCancelled x.id t = true) x (h.advance settings p x s).1 := by
  unfold advance
  cases hs : p.step? x.current with
  | none => exact .unknown hs
  | some step =>
    cases hl : step.loop with
    | none =>
      simp only [hl]
      exact advances_enter h settings p hs (.straight hl) rfl s
    | some l =>
      cases decided : x.decideLoop step.id l with
      | error f =>
        simp only [hl, decided]
        exact .undecided hs hl decided
      | ok outcome =>
        obtain ⟨b, y⟩ := outcome
        cases b with
        | true =>
          simp only [hl, decided]
          have same : y.id = x.id := (decides_decideLoop decided).samePlace.id
          exact advances_enter h settings p hs (.again hl decided) same _
        | false =>
          simp only [hl, decided]
          exact .leaves hs hl decided

end Host

end StepFlow
