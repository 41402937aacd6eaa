import Mathlib.Data.List.Forall2
import Mathlib.Data.List.Induction
import StepFlow.Proofs.Execution.Chronicle
import StepFlow.Proofs.Execution.Turns

/-!
# The trace of a run

The **trace** of a run is what its observers are told, in order.  It is cut along the path of
the run: after the event that the run was started, every visit of a step has a block of events
of its own, and at the end the run is finished (`Visits`).  Within a block, repetitions of a
loop are numbered from 1, and the end of the loop tells the last number (`IsVisit`).

What is load-bearing is `Resides`: the state of a run agrees with the block of the visit that is
under way.  The table of repetitions has what the block counts, and nothing but that.  So the
numbers in the events, which are read off the table, are those that a reader of the block would
count.  A loop that ends with its step as the next one starts over within the visit.  This is
the one way in which a block goes on after the end of a loop (`Pipeline.IsCircular`).
-/

namespace StepFlow

open Execution

namespace Event

/-- The step that an event is about. -/
def step? : Event → Option String
  | stepStarted step => some step
  | stepRetrying step _ => some step
  | stepCompleted step _ _ => some step
  | stepFailed step _ _ => some step
  | loopIteration step _ => some step
  | loopExited step _ => some step
  | humanRequested step => some step
  | humanReceived step _ => some step
  | started _ _ => none
  | finished _ => none

/-- Is the event about a loop? -/
def isOfLoop : Event → Bool
  | loopIteration _ _ => true
  | loopExited _ _ => true
  | _ => false

/-- Is the event a repetition of a loop? -/
def isIteration : Event → Bool
  | loopIteration _ _ => true
  | _ => false

/-- How an event counts the repetitions of a loop. -/
def count (n : Nat) : Event → Nat
  | loopIteration _ _ => n + 1
  | loopExited _ _ => 0
  | _ => n

/-- **How often a loop has repeated** in some events, since it last ended. -/
def rounds (es : List Event) : Nat := es.foldl count 0

/-- **The retries of a step**, which are numbered from 2 on. -/
def retries (step : String) (n : Nat) : List Event :=
  (List.range n).map fun i => stepRetrying step (i + 2)

/-- An event that tells something of a step other than of its loop. -/
def Reports (step : String) (e : Event) : Prop := e.step? = some step ∧ e.isOfLoop = false

/-- An event that closes so many attempts at a step. -/
inductive Closes (step : String) (attempts : Nat) : Event → Prop
  | completed (next : Option String) : Closes step attempts (stepCompleted step attempts next)
  | failed (message : String) : Closes step attempts (stepFailed step attempts message)

variable {es new : List Event}

theorem rounds_concat (es : List Event) (e : Event) : rounds (es ++ [e]) = count (rounds es) e :=
  List.foldl_concat ..

/-- Events that are not about loops count nothing. -/
theorem rounds_append (quiet : ∀ e ∈ new, e.isOfLoop = false) : rounds (es ++ new) = rounds es := by
  induction new generalizing es with
  | nil => rw [List.append_nil]
  | cons e rest ih =>
    obtain ⟨first, others⟩ := List.forall_mem_cons.mp quiet
    rw [List.append_cons, ih others, rounds_concat]
    cases e <;> first | rfl | cases first

/-- Where no loop has ended, all repetitions count. -/
theorem rounds_eq_countP (unended : ∀ step n, .loopExited step n ∉ es) :
    rounds es = es.countP isIteration := by
  induction es using List.reverseRecOn with
  | nil => rfl
  | append_singleton es e ih =>
    have before := ih fun step n exit => unended step n (List.mem_append_left _ exit)
    rw [rounds_concat, List.countP_append, before]
    cases e with
    | loopExited step n =>
      exact absurd (List.mem_append_right _ List.mem_cons_self) (unended step n)
    | _ => rfl

theorem retries_succ (step : String) (n : Nat) :
    retries step (n + 1) = retries step n ++ [stepRetrying step (n + 2)] := by
  unfold retries
  rw [List.range_succ, List.map_append]
  rfl

theorem reports_retries {step : String} {n : Nat} : ∀ e ∈ retries step n, e.Reports step := by
  intro e told
  obtain ⟨i, -, rfl⟩ := List.mem_map.mp told
  exact ⟨rfl, rfl⟩

/-- **An event of two traces** is one of the first or one of the second. -/
theorem occurs_of_append {e : Event} {earlier later : List Event}
    (h : es ++ new = earlier ++ e :: later) :
    (∃ rest, es = earlier ++ e :: rest ∧ later = rest ++ new) ∨
      ∃ rest, earlier = es ++ rest ∧ new = rest ++ e :: later := by
  rcases List.append_eq_append_iff.mp h with ⟨rest, rfl, found⟩ | ⟨rest, rfl, found⟩
  · exact .inr ⟨rest, rfl, found⟩
  · cases rest with
    | nil => exact .inr ⟨[], (List.append_nil _).symm ▸ (List.append_nil _).symm, found.symm⟩
    | cons _ rest =>
      cases found
      exact .inl ⟨rest, rfl, rfl⟩

/-- **An event of a trace that goes on with one more** is one of those before, or the last. -/
theorem occurs_of_concat {e e' : Event} {earlier later : List Event}
    (h : es ++ [e] = earlier ++ e' :: later) :
    (∃ rest, es = earlier ++ e' :: rest ∧ later = rest ++ [e]) ∨
      earlier = es ∧ e = e' ∧ later = [] := by
  rcases occurs_of_append h with before | ⟨rest, rfl, last⟩
  · exact .inl before
  · cases rest with
    | nil =>
      cases last
      exact .inr ⟨List.append_nil _, rfl, rfl⟩
    | cons _ rest => cases rest <;> cases last

end Event

open Event

/-! ### What is told -/

/-- The event that a deed tells. -/
def Deed.event? : Deed → Option Event
  | told event => some event
  | called _ => none

/-- **The trace** of some deeds, in order. -/
def Deed.trace (d : List Deed) : List Event := (d.filterMap event?).reverse

namespace Deed

theorem mem_trace {d : List Deed} {e : Event} : e ∈ trace d ↔ .told e ∈ d := by
  unfold trace
  rw [List.mem_reverse, List.mem_filterMap]
  constructor
  · rintro ⟨deed, done, same⟩
    cases deed with
    | told event => cases same; exact done
    | called => cases same
  · exact fun done => ⟨_, done, rfl⟩

theorem trace_append (new d : List Deed) : trace (new ++ d) = trace d ++ trace new := by
  simp [trace]

theorem trace_told (event : Event) (d : List Deed) :
    trace (.told event :: d) = trace d ++ [event] := by
  simp [trace, event?]

end Deed

section Trace

variable (knows : String → Bool)

theorem Call.trace_deeds (c : Call) : Deed.trace (c.deeds knows) = [] := by
  unfold Call.deeds
  split <;> rfl

theorem Step.trace_lead (s : Step) (c : Call) (n : Nat) :
    Deed.trace (s.lead knows c n) = .stepStarted s.id :: retries s.id n := by
  induction n with
  | zero => rfl
  | succ n ih =>
    rw [Step.lead, Deed.trace_told, Deed.trace_append, c.trace_deeds, List.append_nil, ih,
      retries_succ]
    rfl

theorem Execution.trace_attempted (x : Execution) (s : Step) (n : Nat) :
    Deed.trace (x.attempted knows s n) = .stepStarted s.id :: retries s.id n := by
  rw [Execution.attempted, Deed.trace_append, Call.trace_deeds, List.append_nil, s.trace_lead]

/-- Attempts at a step report it. -/
theorem Execution.reports_attempted (x : Execution) (s : Step) (n : Nat) :
    ∀ e ∈ Deed.trace (x.attempted knows s n), e.Reports s.id := by
  rw [x.trace_attempted]
  exact List.forall_mem_cons.mpr ⟨⟨rfl, rfl⟩, reports_retries⟩

/-- What becomes of a step is reported of it. -/
theorem Execution.Meets.reports {strict : Bool} {s : Step} {attempts : Nat} {u y : Execution}
    {r : ToolResult} {told : List Deed} (h : Meets strict s attempts u r told y) :
    ∀ e ∈ Deed.trace told, e.Reports s.id := by
  cases h with
  | stops => nofun
  | undecided => nofun
  | routed =>
    refine List.forall_mem_singleton.mpr ?_
    unfold Event.ofOutcome
    split <;> exact ⟨rfl, rfl⟩

theorem Execution.trace_hooked (x : Execution) (p : Pipeline) :
    Deed.trace (x.hooked knows p) = [] := by
  unfold Execution.hooked
  split
  · rfl
  · exact Call.trace_deeds knows _

end Trace

/-! ### Visits -/

/-- **A step leads back to itself** when its loop ends. -/
def Pipeline.IsCircular (p : Pipeline) (key : String) : Prop :=
  ∃ s, p.step? key = some s ∧ s.next.default = some s.id ∧ s.id ≠ endMarker

/-- An event is about the step that is declared under a key. -/
def Event.IsAbout (p : Pipeline) (key : String) (e : Event) : Prop :=
  e.step? = some key ∨ ∃ s, p.step? key = some s ∧ e.step? = some s.id

/-- **The events of a visit** of a step. -/
structure IsVisit (p : Pipeline) (key : String) (es : List Event) : Prop where
  /-- They are about the step. -/
  own : ∀ e ∈ es, e.IsAbout p key
  /-- Repetitions are numbered from 1 on. -/
  iterations : ∀ earlier step n later, es = earlier ++ .loopIteration step n :: later →
    n.toNat = rounds earlier + 1
  /-- The end of a loop tells the last number.  It ends the visit too, unless the step leads
  back to itself. -/
  exits : ∀ earlier step n later, es = earlier ++ .loopExited step n :: later →
    n.toNat = rounds earlier ∧ (later = [] ∨ p.IsCircular key)

namespace IsVisit

variable {p : Pipeline} {key : String} {es new : List Event}

theorem nil : IsVisit p key [] where
  own := nofun
  iterations := fun earlier _ _ _ h => by cases earlier <;> cases h
  exits := fun earlier _ _ _ h => by cases earlier <;> cases h

/-- **A visit goes on with an event.** -/
theorem concat (visit : IsVisit p key es)
    (circles : ∀ step n, .loopExited step n ∈ es → p.IsCircular key) {e : Event}
    (own : e.IsAbout p key)
    (iteration : ∀ step n, e = .loopIteration step n → n.toNat = rounds es + 1)
    (exit : ∀ step n, e = .loopExited step n → n.toNat = rounds es) :
    IsVisit p key (es ++ [e]) := by
  refine ⟨?_, ?_, ?_⟩
  · exact List.forall_mem_append.mpr ⟨visit.own, fun e' last => List.mem_singleton.mp last ▸ own⟩
  · intro earlier step n later h
    rcases occurs_of_concat h with ⟨rest, before, -⟩ | ⟨rfl, last, -⟩
    · exact visit.iterations earlier step n rest before
    · exact iteration step n last
  · intro earlier step n later h
    rcases occurs_of_concat h with ⟨rest, rfl, -⟩ | ⟨rfl, last, ends⟩
    · exact ⟨(visit.exits earlier step n rest rfl).1,
        .inr (circles step n (List.mem_append_right _ List.mem_cons_self))⟩
    · exact ⟨exit step n last, .inl ends⟩

end IsVisit

/-- **Repetitions are numbered without a break.** -/
def Event.AreNumbered (es : List Event) : Prop :=
  ∀ earlier step n later, es = earlier ++ .loopIteration step n :: later →
    n.toNat = earlier.countP isIteration + 1

/-! ### The visit under way -/

/-- **A run resides** at its current step, and `es` was told in the visit so far. -/
structure Resides (p : Pipeline) (x : Execution) (es : List Event) : Prop where
  visit : IsVisit p x.current es
  /-- The table of repetitions has what the events count. -/
  repeats : x.status.isOver = false → ∀ s, p.step? x.current = some s →
    ∀ k, (x.iterationsOf k).toNat = if k = s.id then rounds es else 0
  /-- A loop that has ended leads back. -/
  circles : x.status.isOver = false → ∀ step n, .loopExited step n ∈ es → p.IsCircular x.current

/-- **What becomes of the visit** of `x` in which `es` was told: the run stays, or moves on. -/
inductive Carries (p : Pipeline) (x : Execution) (es : List Event) (y : Execution) : Prop
  | stays (path : y.path = x.path) (current : y.current = x.current) (resides : Resides p y es)
  | moves (path : y.path = x.path ++ [y.current]) (visit : IsVisit p x.current es)
      (resides : Resides p y [])

/-- A loop that goes on notes one more repetition of its step. -/
theorem Execution.Decides.toNat_iterationsOf {x u : Execution} {step : String} {l : Loop}
    (h : Decides x step l true u) (k : String) :
    (u.iterationsOf k).toNat = (x.iterationsOf k).toNat + if k = step then 1 else 0 := by
  cases h with
  | goesOn counters below others =>
    have raised := UInt32.toNat_add_one_of_not_le below
    show (((x.iterations.insert step (x.iterationsOf step + 1)).get? k).getD 0).toNat = _
    rw [Table.get?_insert]
    by_cases here : step = k
    · subst here
      simp [raised]
    · rw [if_neg here, if_neg (Ne.symm here)]
      rfl

/-- A loop that ends notes nothing. -/
theorem Execution.Decides.iterationsOf_eq {x u : Execution} {step : String} {l : Loop}
    (h : Decides x step l false u) (k : String) : u.iterationsOf k = x.iterationsOf k := by
  cases h
  rfl

theorem Execution.iterationsOf_resetLoop (x : Execution) (step k : String) :
    (x.resetLoop step).iterationsOf k = if k = step then 0 else x.iterationsOf k := by
  unfold iterationsOf resetLoop
  rw [Table.get?_erase]
  by_cases here : step = k
  · rw [if_pos here, if_pos here.symm]
    rfl
  · rw [if_neg here, if_neg (Ne.symm here)]

namespace Resides

variable {p : Pipeline} {x y u : Execution} {s : Step} {es new : List Event}

theorem congr (resides : Resides p x es) (current : y.current = x.current)
    (iterations : y.iterations = x.iterations)
    (going : y.status.isOver = false → x.status.isOver = false) : Resides p y es where
  visit := current ▸ resides.visit
  repeats := by
    intro still s hs k
    unfold iterationsOf
    rw [iterations]
    exact resides.repeats (going still) s (current ▸ hs) k
  circles := by
    rw [current]
    exact fun still => resides.circles (going still)

/-- A run that is over resides where it is. -/
theorem of_isOver (visit : IsVisit p x.current es) (halted : x.status.isOver = true) :
    Resides p x es where
  visit := visit
  repeats going := by rw [halted] at going; cases going
  circles going := by rw [halted] at going; cases going

/-- **Events that are not about loops** may be told in any visit. -/
theorem tells (resides : Resides p x es) (going : x.status.isOver = false)
    (own : ∀ e ∈ new, e.IsAbout p x.current ∧ e.isOfLoop = false) :
    Resides p x (es ++ new) := by
  induction new generalizing es with
  | nil => rwa [List.append_nil]
  | cons e rest ih =>
    obtain ⟨⟨here, silent⟩, others⟩ := List.forall_mem_cons.mp own
    rw [List.append_cons]
    refine ih ⟨?_, ?_, ?_⟩ others
    · refine resides.visit.concat (resides.circles going) here ?_ ?_
      · rintro step n rfl
        cases silent
      · rintro step n rfl
        cases silent
    · intro _ s hs k
      rw [rounds_append (List.forall_mem_singleton.mpr silent)]
      exact resides.repeats going s hs k
    · intro _ step n told
      rcases List.mem_append.mp told with earlier | last
      · exact resides.circles going step n earlier
      · cases List.mem_singleton.mp last
        cases silent

/-- What is asked and answered at a gate is told in the visit of its step. -/
theorem asks (resides : Resides p x es) (going : x.status.isOver = false) {e : Event}
    (own : e.step? = some x.current) (quiet : e.isOfLoop = false) : Resides p x (es ++ [e]) :=
  resides.tells going (List.forall_mem_singleton.mpr ⟨.inl own, quiet⟩)

/-- **Entering a step** tells a repetition of its loop, with the next number. -/
theorem enters (resides : Resides p x es) (going : x.status.isOver = false)
    (hs : p.step? x.current = some s) (entered : Enters x s u) :
    Resides p u (es ++ Deed.trace (u.entering s)) := by
  cases entered with
  | straight straight =>
    have nothing : Deed.trace (x.entering s) = [] := by simp [entering, straight, Deed.trace]
    rwa [nothing, List.append_nil]
  | @again l y hl decided =>
    have told : Deed.trace (u.entering s) = [.loopIteration s.id (u.iterationsOf s.id)] := by
      simp [entering, hl, Deed.trace, Deed.event?]
    have decides := decides_decideLoop decided
    have place := decides.samePlace
    have number := decides.toNat_iterationsOf
    have counted := resides.repeats going s hs
    rw [told]
    refine ⟨?_, ?_, ?_⟩
    · rw [place.current]
      refine resides.visit.concat (resides.circles going) (.inr ⟨s, hs, rfl⟩) ?_ ?_
      · intro step n same
        cases same
        rw [number, counted, if_pos rfl, if_pos rfl]
      · intro step n same
        cases same
    · intro _ s' hs' k
      rw [place.current, hs] at hs'
      cases hs'
      rw [number, counted, rounds_concat]
      show _ = if k = s.id then rounds es + 1 else 0
      split <;> rfl
    · rw [place.current]
      intro _ step n exit
      rcases List.mem_append.mp exit with earlier | last
      · exact resides.circles going step n earlier
      · cases List.mem_singleton.mp last

end Resides

namespace Carries

variable {p : Pipeline} {x y z u : Execution} {s : Step} {es : List Event}

theorem fails (visit : IsVisit p x.current es) (f : Fault) : Carries p x es (x.fail f) :=
  .stays rfl rfl (.of_isOver visit rfl)

theorem touch (carries : Carries p x es y) (now : Instant) : Carries p x es (y.touch now) := by
  cases carries with
  | stays path current resides => exact .stays path current (resides.congr rfl rfl id)
  | moves path visit resides => exact .moves path visit (resides.congr rfl rfl id)

/-- The visit of a run goes on from a state at the same place. -/
theorem from_eq (carries : Carries p u es y) (path : u.path = x.path)
    (current : u.current = x.current) : Carries p x es y := by
  cases carries with
  | stays path' current' resides => exact .stays (path'.trans path) (current'.trans current) resides
  | moves path' visit resides => exact .moves (path' ▸ path ▸ rfl) (current ▸ visit) resides

/-- **A transition stays within the visit or ends it.** -/
theorem transition (hs : p.step? x.current = some s) (visit : IsVisit p x.current es)
    (repeats : ∀ k, (x.iterationsOf k).toNat = if k = s.id then rounds es else 0)
    {next : Option String}
    (circles : next = some s.id → s.id ≠ endMarker → ∀ step n, .loopExited step n ∈ es →
      p.IsCircular x.current) : Carries p x es (x.transition s next) := by
  have ends := transitions_transition x s next
  generalize x.transition s next = y at ends
  cases ends with
  | completes => exact .stays rfl rfl (.of_isOver visit rfl)
  | stays same onward =>
    refine .stays rfl rfl ⟨visit, fun _ s' hs' => ?_, fun _ => circles same onward⟩
    cases hs.symm.trans hs'
    exact repeats
  | @moves t =>
    -- the loop of the step is forgotten, and no other was under way
    refine .moves rfl visit ⟨.nil, fun _ s' _ k => ?_, nofun⟩
    have forgotten : (x.resetLoop s.id).iterationsOf k = 0 := by
      rw [iterationsOf_resetLoop]
      split
      · rfl
      · rename_i other
        have none_under_way := repeats k
        rw [if_neg other] at none_under_way
        exact UInt32.toNat_inj.mp none_under_way
    show ((x.resetLoop s.id).iterationsOf k).toNat = _
    rw [forgotten]
    split <;> rfl

theorem comesTo (resides : Resides p x es) (running : x.status = .running)
    (hs : p.step? x.current = some s) (comes : ComesTo x s y) : Carries p x es y := by
  have going : x.status.isOver = false := by rw [running]; rfl
  cases comes with
  | fails f => exact fails resides.visit f
  | goes next =>
    exact transition hs resides.visit (resides.repeats going s hs) fun _ _ => resides.circles going

/-- **The end of a loop is told**, with the number of its repetitions. -/
theorem leaves {l : Loop} (resides : Resides p x es) (going : x.status.isOver = false)
    (hs : p.step? x.current = some s) (decides : Decides x s.id l false u) :
    Carries p x (es ++ [.loopExited s.id (u.iterationsOf s.id)])
      ((u.resetLoop s.id).transition s s.next.default) := by
  have counted := resides.repeats going s hs
  have current : (u.resetLoop s.id).current = x.current := decides.samePlace.current
  refine from_eq (u := u.resetLoop s.id) (transition (current ▸ hs) ?_ ?_ ?_) decides.path current
  · rw [current]
    refine resides.visit.concat (resides.circles going) (.inr ⟨s, hs, rfl⟩) nofun ?_
    intro step n same
    cases same
    rw [decides.iterationsOf_eq, counted, if_pos rfl]
  · -- no loop is under way any more
    intro k
    rw [iterationsOf_resetLoop, decides.iterationsOf_eq, rounds_concat]
    show _ = if k = s.id then 0 else 0
    split
    · rfl
    · rename_i other
      rw [counted, if_neg other]
  · rw [current]
    exact fun back onward _ _ _ => ⟨s, hs, back, onward⟩

/-- **What becomes of a step is told**, and the run goes on from there. -/
theorem performs {knows : String → Bool} {strict : Bool} {n : Nat} {r : ToolResult}
    {told : List Deed} (resides : Resides p u es) (running : u.status = .running)
    (hs : p.step? u.current = some s) (meets : Meets strict s (n + 1) u r told y) :
    Carries p u (es ++ Deed.trace (u.attempted knows s n) ++ Deed.trace told) y := by
  have going : u.status.isOver = false := by rw [running]; rfl
  have own {new : List Event} (reports : ∀ e ∈ new, e.Reports s.id) :
      ∀ e ∈ new, e.IsAbout p u.current ∧ e.isOfLoop = false :=
    fun e told => ⟨.inr ⟨s, hs, (reports e told).1⟩, (reports e told).2⟩
  have attempted := resides.tells going (own (u.reports_attempted knows s n))
  have concluded := attempted.tells going (own meets.reports)
  have recorded : Resides p (u.record s.id r) _ := concluded.congr rfl rfl fun _ => going
  exact from_eq (comesTo recorded running hs meets.comesTo) rfl rfl

/-- **An advance goes on with the visit or ends it.** -/
theorem enacts {settings : Settings} {knows : String → Bool} {new : List Deed}
    (resides : Resides p x es) (running : x.status = .running)
    (h : Enacts settings knows p x new y) : Carries p x (es ++ Deed.trace new) y := by
  have going : x.status.isOver = false := by rw [running]; rfl
  cases h with
  | fails f =>
    rw [show Deed.trace [] = [] from rfl, List.append_nil]
    exact fails resides.visit f
  | leaves hs hl decided => exact leaves resides going hs (decides_decideLoop decided)
  | @suspends s u hs entered =>
    have place := entered.samePlace
    have suspended : Resides p u.suspend _ :=
      (resides.enters going hs entered).congr rfl rfl fun _ => place.status ▸ going
    exact .stays entered.path place.current suspended
  | performs hs entered gate meets =>
    have place := entered.samePlace
    rw [Deed.trace_append, Deed.trace_append, ← List.append_assoc, ← List.append_assoc]
    refine from_eq ?_ entered.path place.current
    exact performs (resides.enters going hs entered) (place.status.trans running)
      (place.current ▸ hs) meets

/-- **A response goes on with the visit or ends it.** -/
theorem respond (resides : Resides p x es) (waiting : x.status = .waiting) (strict : Bool)
    (r : HumanResponse) (now : Instant) :
    Carries p x (es ++ [.humanReceived x.current r.approved]) (x.respond strict p r now) := by
  have going : x.status.isOver = false := by rw [waiting]; rfl
  have told := resides.asks going (e := .humanReceived x.current r.approved) rfl rfl
  rcases comesTo_respond x strict p r now with ⟨f, failed⟩ | ⟨s, result, hs, comes⟩
  · rw [failed]
    exact .stays rfl rfl (.of_isOver told.visit rfl)
  · have recorded : Resides p ((x.resume r).record s.id result) _ :=
      told.congr rfl rfl fun _ => going
    exact from_eq (comesTo recorded rfl hs comes) rfl rfl

end Carries

/-- **The visits of a run**: every step on its path has a block of events, and the last is that
of the visit under way. -/
inductive Visits (p : Pipeline) (x : Execution) : List Event → Prop
  | mk {keys : List String} {done : List (List Event)} {es : List Event}
      (path : x.path = keys ++ [x.current]) (earlier : List.Forall₂ (IsVisit p) keys done)
      (resides : Resides p x es) : Visits p x (done.flatten ++ es)

namespace Visits

variable {p : Pipeline} {x y : Execution} {es new : List Event}

theorem carries (h : Visits p x es)
    (carries : ∀ block, Resides p x block → Carries p x (block ++ new) y) :
    Visits p y (es ++ new) := by
  obtain @⟨keys, done, block, path, earlier, resides⟩ := h
  rw [List.append_assoc]
  cases carries block resides with
  | stays path' current resides' => exact ⟨by rw [path', path, current], earlier, resides'⟩
  | moves path' visit resides' =>
    have closed := List.rel_append earlier (.cons visit .nil)
    have blocks := Visits.mk (by rw [path', path]) closed resides'
    rwa [List.flatten_concat, List.append_nil] at blocks

theorem fails (h : Visits p x es) (f : Fault) (now : Instant) :
    Visits p ((x.fail f).touch now) es := by
  have failed : Visits p ((x.fail f).touch now) (es ++ []) := h.carries fun block resides => by
    rw [List.append_nil]
    exact (Carries.fails resides.visit f).touch now
  rwa [List.append_nil] at failed

/-- The events of visits are about steps. -/
theorem exists_step (h : Visits p x es) : ∀ e ∈ es, ∃ step, e.step? = some step := by
  obtain @⟨keys, done, block, path, earlier, resides⟩ := h
  have about {key : String} {block : List Event} (visit : IsVisit p key block) :
      ∀ e ∈ block, ∃ step, e.step? = some step := by
    intro e he
    rcases visit.own e he with own | ⟨s, -, own⟩
    · exact ⟨_, own⟩
    · exact ⟨_, own⟩
  refine List.forall_mem_append.mpr ⟨?_, about resides.visit⟩
  clear path
  induction earlier with
  | nil => nofun
  | cons visit _ ih =>
    rw [List.flatten_cons]
    exact List.forall_mem_append.mpr ⟨about visit, ih⟩

theorem exists_blocks (h : Visits p x es) :
    ∃ blocks, List.Forall₂ (IsVisit p) x.path blocks ∧ es = blocks.flatten := by
  obtain @⟨keys, done, block, path, earlier, resides⟩ := h
  refine ⟨done ++ [block], ?_, List.flatten_concat.symm⟩
  rw [path]
  exact List.rel_append earlier (.cons resides.visit .nil)

end Visits

/-! ### The whole trace -/

variable {settings : Settings} {knows : String → Bool} {p : Pipeline} {settled : Bool}
  {d : List Deed} {x y : Execution}

/-- What is told when a run is settled for good. -/
def Execution.ending (x : Execution) (settled : Bool) : List Event :=
  if settled && x.status.isOver then [.finished x.status] else []

theorem Execution.ending_of_going (going : x.status.isOver = false) (settled : Bool) :
    x.ending settled = [] := by
  simp [ending, going]

/-- **A run tells that it is started, its visits, and its end.** -/
theorem Chronicle.visits (h : Chronicle settings knows p settled d x) :
    ∃ es, Deed.trace d = .started p.id p.name :: (es ++ x.ending settled) ∧ Visits p x es := by
  induction h with
  | begins initial id now =>
    let x := Execution.fresh p initial id now
    have resides : Resides p x [] := ⟨.nil, fun _ s _ k => by split <;> rfl, nofun⟩
    exact ⟨[], rfl, @Visits.mk p x [] [] [] rfl .nil resides⟩
  | @advances d new x y past running enacts now ih =>
    obtain ⟨es, told, visits⟩ := ih
    refine ⟨es ++ Deed.trace new, ?_, visits.carries fun block resides =>
      (Carries.enacts resides running enacts).touch now⟩
    rw [Deed.trace_append, told]
    simp [ending]
  | stops _ _ now ih =>
    obtain ⟨es, told, visits⟩ := ih
    exact ⟨es, told, visits.fails .cancelled now⟩
  | @asks d x _ waiting ih =>
    obtain ⟨es, told, visits⟩ := ih
    have going : x.status.isOver = false := by rw [waiting]; rfl
    refine ⟨es ++ [.humanRequested x.current], ?_, visits.carries fun block resides => ?_⟩
    · rw [Deed.trace_told, told, ending_of_going going, ending_of_going going]
      simp
    · exact .stays rfl rfl (resides.asks going rfl rfl)
  | @finishes d x _ halted ih =>
    obtain ⟨es, told, visits⟩ := ih
    refine ⟨es, ?_, visits⟩
    rw [Deed.trace_told, Deed.trace_append, trace_hooked, told]
    simp [ending, halted]
  | @responds d x _ waiting r start stop ih =>
    obtain ⟨es, told, visits⟩ := ih
    have going : x.status.isOver = false := by rw [waiting]; rfl
    refine ⟨es ++ [.humanReceived x.current r.approved], ?_, visits.carries fun block resides =>
      (Carries.respond resides waiting _ r start).touch stop⟩
    rw [Deed.trace_told, told, ending_of_going going]
    simp [ending]
  | @cancels d x _ waiting now ih =>
    obtain ⟨es, told, visits⟩ := ih
    have going : x.status.isOver = false := by rw [waiting]; rfl
    rw [ending_of_going going] at told
    exact ⟨es, told, visits.fails .cancelled now⟩

end StepFlow
