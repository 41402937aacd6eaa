import StepFlow.Proofs.Execution.Coherence

/-!
# What a turn does at the current step

`Takes` says which function of the engine a turn runs.  Here the same turn is read
from the side of the current step: the step is entered, it is given a result, its
loop ends, or nothing becomes of it (`Does`).  Two ways of giving a result are the
same from this side: a tool answers, or a person approves a gate (`Delivers`).

What comes of a result or of the end of a loop is one of three things for the
bookkeeping (`Goes`): the run is over, it stays with its loop as it was, or it
moves on without a loop.

What is load-bearing is `Takes.does`.  Statements about repetitions and visits are
proved along `Does` and `Goes` and never look at a host.
-/

namespace StepFlow

/-- Does the run advance by this turn? -/
def Turn.isAdvance : Turn → Bool
  | advance => true
  | _ => false

namespace Execution

variable {p : Pipeline} {x y u z : Execution} {s : Step} {strict : Bool}

/-! ### Entering -/

theorem Decides.path {step : String} {l : Loop} {b : Bool} (h : Decides x step l b y) :
    y.path = x.path := by
  cases h <;> rfl

theorem Enters.path (h : Enters x s y) : y.path = x.path := by
  cases h with
  | straight => rfl
  | again _ decided => exact (decides_decideLoop decided).path

/-- **Does the next advance enter the current step**, so that its tool is called or
its gate suspends the run?  Otherwise the step is not declared, or its loop ends or
has no value. -/
def entersNext (x : Execution) (p : Pipeline) : Bool :=
  match p.step? x.current with
  | none => false
  | some s =>
    match s.loop with
    | none => true
    | some l =>
      match x.decideLoop s.id l with
      | .ok (true, _) => true
      | _ => false

theorem Enters.entersNext (hs : p.step? x.current = some s) (h : Enters x s y) :
    x.entersNext p = true := by
  unfold Execution.entersNext
  cases h with
  | straight hl => simp only [hs, hl]
  | again hl decided => simp only [hs, hl, decided]

end Execution

open Execution

/-! ### Results -/

/-- **A turn gives a result** to the step `s`.  The run `y` enters the step as `u` and
its tool answers, or a person approves its gate, which resumes the run as `u`. -/
inductive Delivers (s : Step) : Turn → Execution → Execution → ToolResult → Prop
  | tool {y u : Execution} (entered : Enters y s u) (gate : s.waitsForHuman = false)
      (r : ToolResult) : Delivers s .advance y u r
  | approval {y : Execution} (waiting : y.status = .waiting) (r : HumanResponse)
      (approved : r.approved = true) (now : Instant) :
      Delivers s (.response r) y (y.resume r) ⟨.succeeded r.input, .instantaneous now⟩

/-- **What a turn does at the current step** `s`. -/
inductive Does (strict : Bool) (s : Step) : Turn → Execution → Execution → Prop
  /-- Nothing: a run that is running is asked to stop. -/
  | idles (y : Execution) : Does strict s .cancel y y
  /-- The run fails where it stands. -/
  | fails {t : Turn} {y u : Execution} (here : u.path = y.path) (f : Fault) (now : Instant) :
      Does strict s t y ((u.fail f).touch now)
  /-- The step is entered, and its gate suspends the run. -/
  | suspends {y u : Execution} (entered : Enters y s u) (now : Instant) :
      Does strict s .advance y (u.suspend.touch now)
  /-- The step is given a result. -/
  | concludes {t : Turn} {y u : Execution} {r : ToolResult} (given : Delivers s t y u r)
      (now : Instant) : Does strict s t y ((u.conclude strict s r).2.touch now)
  /-- The loop of the step ends. -/
  | leaves {y u : Execution} {l : Loop} (hl : s.loop = some l)
      (decided : y.decideLoop s.id l = .ok (false, u)) (now : Instant) :
      Does strict s .advance y (((u.resetLoop s.id).transition s s.next.default).touch now)

section Takes

variable {settings : Settings} {p : Pipeline} {past : List Turn} {t : Turn}
  {x y z : Execution} {s : Step}

/-- Only a run that is running advances. -/
theorem Takes.running (h : Takes settings p past t y z) (advances : t.isAdvance = true) :
    y.status = .running := by
  cases h with
  | advance _ _ _ running => exact running
  | stop => cases advances
  | response => cases advances
  | cancelWaiting => cases advances
  | cancelRunning => cases advances

/-- A run that is over takes no turns. -/
theorem Takes.isOver (h : Takes settings p past t y z) : y.status.isOver = false := by
  cases h with
  | advance _ _ _ running => rw [running]; rfl
  | stop _ running => rw [running]; rfl
  | response _ _ _ waiting => rw [waiting]; rfl
  | cancelWaiting _ waiting => rw [waiting]; rfl
  | cancelRunning running => rw [running]; rfl

/-- **At a step that is not declared** a turn neither moves a run nor completes it. -/
theorem Takes.of_undeclared (h : Takes settings p past t y z) (order : Coherent p y)
    (undeclared : p.step? y.current = none) : z.path = y.path ∧ z.status ≠ .completed := by
  cases h with
  | advance h t now _ _ =>
    unfold Host.advance
    rw [undeclared]
    exact ⟨rfl, nofun⟩
  | stop => exact ⟨rfl, nofun⟩
  | response r start stop waiting =>
    -- a run waits at a declared gate
    obtain ⟨s, found, -⟩ := order.gated waiting
    rw [undeclared] at found
    cases found
  | cancelWaiting => exact ⟨rfl, nofun⟩
  | cancelRunning running => exact ⟨rfl, by rw [running]; nofun⟩

/-- **A turn does one of five things** at the current step. -/
theorem Takes.does (hs : p.step? y.current = some s) (h : Takes settings p past t y z) :
    Does settings.failOnUnroutedError s t y z := by
  -- what the pipeline declares under the current id is the step in question
  have same {s' : Step} (hs' : p.step? y.current = some s') : s' = s :=
    Option.some.inj (hs'.symm.trans hs)
  cases h with
  | advance h t now running flag =>
    have advanced := h.advances_advance settings p y t
    generalize (h.advance settings p y t).1 = w at advanced
    cases advanced with
    | unknown undeclared =>
      rw [undeclared] at hs
      cases hs
    | undecided _ _ _ => exact .fails rfl _ now
    | leaves hs' hl decided =>
      cases same hs'
      exact .leaves hl decided now
    | suspends hs' entered _ =>
      cases same hs'
      exact .suspends entered now
    | @stops s' u hs' entered _ r _ =>
      cases same hs'
      exact .fails (u := u.record s.id r) entered.path _ now
    | concludes hs' entered gate r =>
      cases same hs'
      exact .concludes (.tool entered gate r) now
  | stop now _ _ => exact .fails rfl _ now
  | response r start stop waiting =>
    cases approved : r.approved with
    | true =>
      rw [respond_of_approved hs approved]
      exact .concludes (.approval waiting r approved start) stop
    | false =>
      rw [respond_of_not_approved approved]
      exact .fails (y := y) (u := y.resume r) rfl _ stop
  | cancelWaiting now _ => exact .fails rfl _ now
  | cancelRunning _ => exact .idles y

end Takes

/-! ### Where a run goes -/

/-- **Two states with the same track**: they stand at the same step, in the same repetition. -/
structure Execution.SameTrack (x y : Execution) : Prop where
  path : y.path = x.path
  current : y.current = x.current
  status : y.status = x.status
  counters : y.counters = x.counters
  iterations : y.iterations = x.iterations

theorem Execution.SameTrack.refl (x : Execution) : x.SameTrack x := ⟨rfl, rfl, rfl, rfl, rfl⟩

theorem Execution.sameTrack_touch (x : Execution) (now : Instant) : x.SameTrack (x.touch now) :=
  ⟨rfl, rfl, rfl, rfl, rfl⟩

/-- What is recorded changes neither the path nor the loop of a run. -/
theorem Execution.sameTrack_record (x : Execution) (step : String) (r : ToolResult) :
    (x.record step r).SameTrack x := ⟨rfl, rfl, rfl, rfl, rfl⟩

/-- **Where a run goes** from the step at which it stands, to one of the `targets` if it
goes on. -/
inductive Goes (u : Execution) (targets : String → Prop) (z : Execution) : Prop
  /-- The run is over. -/
  | ends (here : z.path = u.path) (finished : z.status.isOver = true)
  /-- The run stays, with its loop as it was. -/
  | stays (here : z.path = u.path) (current : z.current = u.current)
      (counters : z.counters = u.counters) (iterations : z.iterations = u.iterations)
      (running : z.status = .running) (back : targets u.current) (onward : u.current ≠ endMarker)
  /-- The run moves to another step, without a loop. -/
  | moves {t : String} (path : z.path = u.path ++ [t]) (current : z.current = t)
      (emptied : z.Emptied) (running : z.status = .running) (target : targets t)
      (onward : t ≠ endMarker) (away : t ≠ u.current)

section Goes

variable {p : Pipeline} {x y u z : Execution} {s : Step} {strict : Bool}
  {targets : String → Prop}

/-- **Where a run goes** is told by its track: it may start and end in any states with the same. -/
theorem Goes.of_sameTrack {u' z' : Execution} (h : Goes u targets z) (start : u.SameTrack u')
    (stop : z.SameTrack z') : Goes u' targets z' := by
  cases h with
  | ends here finished =>
    exact .ends (by rw [stop.path, start.path, here]) (stop.status ▸ finished)
  | stays here current counters iterations running back onward =>
    refine .stays ?_ ?_ ?_ ?_ (stop.status ▸ running) (start.current ▸ back)
      (start.current ▸ onward)
    · rw [stop.path, start.path, here]
    · rw [stop.current, start.current, current]
    · rw [stop.counters, start.counters, counters]
    · rw [stop.iterations, start.iterations, iterations]
  | moves path current emptied running target onward away =>
    refine .moves ?_ (stop.current.trans current) ?_ (stop.status ▸ running) target onward
      (start.current ▸ away)
    · rw [stop.path, start.path, path]
    · exact ⟨stop.counters.trans emptied.1, stop.iterations.trans emptied.2⟩

/-- A transition goes where it is told, or ends the run. -/
theorem Goes.of_transitions {next : Option String} (order : Underway p u)
    (key : s.id = u.current) (h : Transitions u s next z) (leads : ∀ t, next = some t → targets t) :
    Goes u targets z := by
  cases h with
  | completes => exact .ends rfl rfl
  | stays back onward =>
    rw [key] at back onward
    exact .stays rfl rfl rfl rfl order.running (leads _ back) onward
  | moves next onward away =>
    have emptied := order.emptied_resetLoop
    rw [← key] at emptied
    rw [key] at away
    exact .moves rfl rfl emptied order.running (leads _ next) onward away

/-- **A result sends a run** to itself, if it loops, or to a reference of its step. -/
theorem Goes.of_concludes {r : ToolResult} (order : Underway p u) (key : s.id = u.current)
    (h : Concludes u strict s r z) :
    Goes u (fun t => (s.loop.isSome = true ∧ t = s.id) ∨ ∃ m, (m, t) ∈ s.references) z := by
  cases h with
  | undecided => exact .ends rfl rfl
  | unrouted => exact .ends rfl rfl
  | @routed route chosen =>
    have recorded := order.record r
    rw [← key] at recorded
    refine (Goes.of_transitions recorded key (transitions_transition _ s _) ?_).of_sameTrack
      (sameTrack_record u _ r) (.refl _)
    intro t leads
    unfold nextTarget at leads
    split at leads
    · rename_i repeats
      rw [Bool.and_eq_true] at repeats
      cases leads
      exact .inl ⟨repeats.1, rfl⟩
    · exact .inr (mem_references_of_chooseRoute chosen leads)

/-- **The end of a loop sends a run** where its step leads by default. -/
theorem Goes.of_leaves {l : Loop} (order : Underway p y) (hs : p.step? y.current = some s)
    (key : s.id = y.current) (hl : s.loop = some l)
    (decided : y.decideLoop s.id l = .ok (false, u)) (now : Instant) :
    Goes (u.resetLoop s.id) (fun t => s.next.default = some t)
      (((u.resetLoop s.id).transition s s.next.default).touch now) := by
  have decides := decides_decideLoop decided
  have current : u.current = y.current := decides.samePlace.current
  rw [key] at decides
  have reset := (order.decide hs hl decides).resetLoop
  rw [current, ← key] at reset
  refine Goes.of_sameTrack ?_ (.refl _) (sameTrack_touch _ now)
  exact .of_transitions reset (key.trans current.symm) (transitions_transition _ s _) fun _ => id

end Goes

section Delivers

variable {p : Pipeline} {t : Turn} {y u : Execution} {s : Step} {r : ToolResult}

theorem Delivers.path (given : Delivers s t y u r) : u.path = y.path := by
  cases given with
  | tool entered => exact entered.path
  | approval => rfl

theorem Delivers.current (given : Delivers s t y u r) : u.current = y.current := by
  cases given with
  | tool entered => exact entered.samePlace.current
  | approval => rfl

variable (given : Delivers s t y u r) (order : Coherent p y)
  (running : t.isAdvance = true → y.status = .running) (hs : p.step? y.current = some s)
  (key : s.id = y.current)

include given order running hs key

/-- A result is given to a run in good order. -/
theorem Delivers.underway : Underway p u := by
  cases given with
  | tool entered => exact ((order.underway (running rfl)).enters hs key entered).1
  | approval waiting r => exact order.resume waiting r

/-- **A result that a turn gives sends the run** to its step, if that loops, or to one of
its references. -/
theorem Delivers.goes (strict : Bool) (now : Instant) :
    Goes u (fun t => (s.loop.isSome = true ∧ t = s.id) ∨ ∃ m, (m, t) ∈ s.references)
      ((u.conclude strict s r).2.touch now) := by
  have inside := given.underway order running hs key
  have here : s.id = u.current := key.trans given.current.symm
  exact (Goes.of_concludes inside here (concludes_conclude u strict s r)).of_sameTrack (.refl _)
    (sameTrack_touch _ now)

end Delivers

end StepFlow
