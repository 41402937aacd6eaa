import StepFlow.Engine.Script
import StepFlow.Proofs.Engine.Custody
import StepFlow.Proofs.Execution.Traces

/-!
# The protocol of a run

What the engine tells of a run follows a protocol (`Protocol`): the run is started and, if it
is over, finished; attempts at a step are closed in the end; a person responds directly after
being asked; and in between the events are those of the visits along the path of the run.

Each clause is shown along the chronicle of the run, and the engine comes in only at the end
(`Setup.protocol_serve`).  What is load-bearing is that a run which goes on has closed all
attempts it has begun (`Execution.Performs.areClosed`): only a failure can come between the
start of a step and the event that closes it, and a run that has failed does nothing more.
-/

namespace StepFlow

open Execution Event

variable {settings : Settings} {knows : String → Bool} {p : Pipeline} {settled : Bool}
  {d : List Deed} {x y : Execution}

/-! ### Attempts and responses -/

/-- **The attempts at a step are told in order**: after the start come the retries, and then the
event that closes the attempts and tells how many they were. -/
def Event.AreClosed (es : List Event) : Prop :=
  ∀ earlier step later, es = earlier ++ .stepStarted step :: later →
    ∃ n closing after, later = retries step n ++ closing :: after ∧ closing.Closes step (n + 1)

/-- **A run was cut short** at its step: it was cancelled, or a condition had no value. -/
def Execution.IsCutShort (x : Execution) : Prop :=
  x.status = .failed ∧ ∃ f : Fault, (f = .cancelled ∨ ∃ g, f = .expression g) ∧
    x.error = some (f.capture (some x.current))

/-- **The attempts at a step are told in order**, up to the end of a run that was cut short. -/
def Execution.Performs (x : Execution) (settled : Bool) (es : List Event) : Prop :=
  ∀ earlier step later, es = earlier ++ .stepStarted step :: later → ∃ n,
    (∃ closing after, later = retries step n ++ closing :: after ∧ closing.Closes step (n + 1)) ∨
      (later = retries step n ++ x.ending settled ∧ x.IsCutShort)

/-- No attempts are begun in some events. -/
def Event.BeginNothing (es : List Event) : Prop := ∀ step, .stepStarted step ∉ es

section Attempts

variable {es new : List Event}

theorem Event.BeginNothing.areClosed (h : BeginNothing es) : AreClosed es := by
  rintro earlier step later rfl
  exact absurd (List.mem_append_right _ List.mem_cons_self) (h step)

theorem Event.AreClosed.performs (closed : AreClosed es) : x.Performs settled es := by
  intro earlier step later h
  obtain ⟨n, closing⟩ := closed earlier step later h
  exact ⟨n, .inl closing⟩

theorem Execution.Performs.areClosed (performs : x.Performs settled es)
    (unfailed : x.status ≠ .failed) : AreClosed es := by
  intro earlier step later h
  obtain ⟨n, closing | ⟨-, failed, -⟩⟩ := performs earlier step later h
  · exact ⟨n, closing⟩
  · exact absurd failed unfailed

theorem Event.AreClosed.append (closed : AreClosed es) (performs : x.Performs settled new) :
    x.Performs settled (es ++ new) := by
  intro earlier step later h
  rcases occurs_of_append h with ⟨rest, before, rfl⟩ | ⟨rest, -, within⟩
  · obtain ⟨n, closing, after, rfl, closes⟩ := closed earlier step rest before
    exact ⟨n, .inl ⟨closing, after ++ new, by simp, closes⟩⟩
  · exact performs rest step later within

/-- A run that has failed is finished. -/
theorem Execution.Performs.finishes (performs : x.Performs false es)
    (halted : x.status.isOver = true) : x.Performs true (es ++ [.finished x.status]) := by
  intro earlier step later h
  rcases occurs_of_concat h with ⟨rest, before, rfl⟩ | ⟨-, last, -⟩
  · obtain ⟨n, ⟨closing, after, rfl, closes⟩ | ⟨rfl, cut⟩⟩ := performs earlier step rest before
    · exact ⟨n, .inl ⟨closing, after ++ [.finished x.status], by simp, closes⟩⟩
    · exact ⟨n, .inr ⟨by simp [ending, halted], cut⟩⟩
  · cases last

/-- **What is told of the attempts at a step.** -/
theorem Execution.Meets.performs {strict : Bool} {s : Step} {n : Nat} {u : Execution}
    {r : ToolResult} {told : List Deed} (h : Meets strict s (n + 1) u r told y) :
    y.Performs false (.stepStarted s.id :: (retries s.id n ++ Deed.trace told)) := by
  intro earlier step later split
  have onwards : Event.BeginNothing (retries s.id n ++ Deed.trace told) := by
    intro step begun
    rcases List.mem_append.mp begun with retry | last
    · obtain ⟨i, -, same⟩ := List.mem_map.mp retry
      cases same
    · cases h with
      | stops => cases last
      | undecided => cases last
      | routed =>
        have same := List.mem_singleton.mp last
        unfold Event.ofOutcome at same
        split at same <;> cases same
  cases earlier with
  | cons _ rest =>
    obtain ⟨-, within⟩ := List.cons.inj split
    exact absurd (within ▸ List.mem_append_right _ List.mem_cons_self) (onwards step)
  | nil =>
    obtain ⟨same, rfl⟩ := List.cons.inj split
    cases same
    refine ⟨n, ?_⟩
    cases h with
    | stops => exact .inr ⟨rfl, rfl, .cancelled, .inl rfl, rfl⟩
    | undecided f => exact .inr ⟨rfl, rfl, .expression f, .inr ⟨f, rfl⟩, rfl⟩
    | @routed route h =>
      refine .inl ⟨_, [], rfl, ?_⟩
      unfold Event.ofOutcome
      split
      · exact .completed _
      · exact .failed _

theorem Execution.Enacts.attempts {new : List Deed} (h : Enacts settings knows p x new y) :
    y.Performs false (Deed.trace new) := by
  have entering (u : Execution) (s : Step) : Event.AreClosed (Deed.trace (u.entering s)) := by
    refine Event.BeginNothing.areClosed fun step begun => ?_
    unfold Execution.entering at begun
    split at begun
    · cases List.mem_singleton.mp begun
    · cases begun
  cases h with
  | fails => exact Event.AreClosed.performs (Event.BeginNothing.areClosed nofun)
  | leaves =>
    refine Event.AreClosed.performs (Event.BeginNothing.areClosed fun step begun => ?_)
    cases List.mem_singleton.mp begun
  | suspends => exact (entering _ _).performs
  | @performs s u _ n r told _ _ _ meets =>
    rw [Deed.trace_append, Deed.trace_append, u.trace_attempted, List.append_assoc,
      List.cons_append]
    exact (entering u s).append meets.performs

end Attempts

/-- **All attempts are told in order.** -/
theorem Chronicle.performs (h : Chronicle settings knows p settled d x) :
    x.Performs settled (Deed.trace d) := by
  have closed {x : Execution} {settled : Bool} {es : List Event} (performs : x.Performs settled es)
      {status : Status} (here : x.status = status) (unfailed : status ≠ .failed) :
      Event.AreClosed es :=
    performs.areClosed (here ▸ unfailed)
  have quiet {x : Execution} {settled : Bool} {e : Event} (other : ∀ step, e ≠ .stepStarted step) :
      x.Performs settled [e] :=
    Event.AreClosed.performs (Event.BeginNothing.areClosed fun step begun =>
      other step (List.mem_singleton.mp begun).symm)
  induction h with
  | begins => exact quiet nofun
  | advances _ running enacts _ ih =>
    rw [Deed.trace_append]
    exact (closed ih running nofun).append enacts.attempts
  | stops _ running _ ih => exact (closed ih running nofun).performs
  | asks _ waiting ih =>
    rw [Deed.trace_told]
    exact (closed ih waiting nofun).append (quiet nofun)
  | finishes _ halted ih =>
    rw [Deed.trace_told, Deed.trace_append, trace_hooked, List.append_nil]
    exact ih.finishes halted
  | responds _ waiting _ _ _ ih =>
    rw [Deed.trace_told]
    exact (closed ih waiting nofun).append (quiet nofun)
  | cancels _ waiting _ ih => exact (closed ih waiting nofun).performs

/-- The last that a run tells while it is settled. -/
theorem Chronicle.getLast?_trace (h : Chronicle settings knows p true d x) :
    (Deed.trace d).getLast? =
      some (if x.status = .waiting then .humanRequested x.current else .finished x.status) := by
  cases h with
  | asks _ waiting => rw [Deed.trace_told, List.getLast?_concat, if_pos waiting]
  | finishes _ halted =>
    rw [Deed.trace_told, List.getLast?_concat, if_neg (Status.ne_waiting_of_isOver halted)]

/-- No response is told in some events. -/
def Event.HearNothing (es : List Event) : Prop := ∀ step approved, .humanReceived step approved ∉ es

/-- **A response comes directly after the request** for it. -/
def Event.AreAsked (es : List Event) : Prop :=
  ∀ earlier step approved later, es = earlier ++ .humanReceived step approved :: later →
    earlier.getLast? = some (.humanRequested step)

section Responses

variable {es new : List Event}

theorem Event.AreAsked.append (asked : AreAsked es) (quiet : HearNothing new) :
    AreAsked (es ++ new) := by
  intro earlier step approved later h
  rcases occurs_of_append h with ⟨rest, before, -⟩ | ⟨rest, -, within⟩
  · exact asked earlier step approved rest before
  · exact absurd (within ▸ List.mem_append_right _ List.mem_cons_self) (quiet step approved)

theorem Event.AreAsked.receives (asked : AreAsked es) {step : String}
    (last : es.getLast? = some (.humanRequested step)) (approved : Bool) :
    AreAsked (es ++ [.humanReceived step approved]) := by
  intro earlier step' approved' later h
  rcases occurs_of_concat h with ⟨rest, before, -⟩ | ⟨rfl, same, -⟩
  · exact asked earlier step' approved' rest before
  · cases same
    exact last

/-- An advance takes in no response. -/
theorem Execution.Enacts.hearNothing {new : List Deed} (h : Enacts settings knows p x new y) :
    HearNothing (Deed.trace new) :=
  fun _ _ told => h.ofStep _ (Deed.mem_trace.mp told)

end Responses

/-- **Every response comes directly after the request for it.** -/
theorem Chronicle.areAsked (h : Chronicle settings knows p settled d x) :
    Event.AreAsked (Deed.trace d) := by
  have other {e : Event} (other : ∀ step approved, e ≠ .humanReceived step approved) :
      HearNothing [e] :=
    fun step approved told => other step approved (List.mem_singleton.mp told).symm
  induction h with
  | begins =>
    have nothing : Event.AreAsked [] := fun earlier _ _ _ h => by cases earlier <;> cases h
    exact nothing.append (other (e := .started p.id p.name) nofun)
  | advances _ _ enacts _ ih =>
    rw [Deed.trace_append]
    exact ih.append enacts.hearNothing
  | stops _ _ _ ih => exact ih
  | asks _ _ ih =>
    rw [Deed.trace_told]
    exact ih.append (other nofun)
  | finishes _ _ ih =>
    rw [Deed.trace_told, Deed.trace_append, trace_hooked, List.append_nil]
    exact ih.append (other nofun)
  | responds past waiting _ _ _ ih =>
    rw [Deed.trace_told]
    refine ih.receives ?_ _
    rw [past.getLast?_trace, if_pos waiting]
  | cancels _ _ _ ih => exact ih

/-! ### The protocol -/

/-- **The protocol of a run** of `p` that has come to `x`: what its observers are told, in
order. -/
structure Protocol (p : Pipeline) (x : Execution) (es : List Event) : Prop where
  /-- The trace begins with the start of the run, and the run is started once. -/
  starts : ∃ later, es = .started p.id p.name :: later ∧ ∀ id name, .started id name ∉ later
  /-- Nothing comes after the end of the run, which tells its status. -/
  finishes : ∀ earlier status later, es = earlier ++ .finished status :: later →
    later = [] ∧ status = x.status
  /-- The end is told if and only if the run is over. -/
  finished_iff : (∃ status, .finished status ∈ es) ↔ x.status.isOver = true
  /-- The run waits if and only if a person was asked last. -/
  waiting_iff : x.status = .waiting ↔ ∃ step, es.getLast? = some (.humanRequested step)
  /-- A response comes directly after the request for it. -/
  received : ∀ earlier step approved later, es = earlier ++ .humanReceived step approved :: later →
    earlier.getLast? = some (.humanRequested step)
  /-- After the start of a step come its retries, and then the event that closes the attempts and
  tells how many they were.  If the run is cancelled there or a condition of a route has no
  value, then the run is finished next, and has failed. -/
  performs : ∀ earlier step later, es = earlier ++ .stepStarted step :: later → ∃ n,
    (∃ closing after, later = retries step n ++ closing :: after ∧ closing.Closes step (n + 1)) ∨
      (later = retries step n ++ [.finished .failed] ∧ x.IsCutShort)
  /-- In between, every visit of a step has its events (`IsVisit`). -/
  visits : ∃ blocks, List.Forall₂ (IsVisit p) x.path blocks ∧
    es = .started p.id p.name :: (blocks.flatten ++ x.ending true)

theorem Execution.ending_eq_append_cons {e : Event} {earlier later : List Event}
    (h : x.ending settled = earlier ++ e :: later) :
    e = .finished x.status ∧ x.status.isOver = true ∧ later = [] := by
  unfold Execution.ending at h
  split at h
  · rename_i settles
    rw [Bool.and_eq_true] at settles
    change [] ++ [.finished x.status] = earlier ++ e :: later at h
    rcases occurs_of_concat h with ⟨rest, nothing, -⟩ | ⟨-, rfl, last⟩
    · cases earlier <;> cases nothing
    · exact ⟨rfl, settles.2, last⟩
  · cases earlier <;> cases h

/-- **The trace of a settled run obeys the protocol.** -/
theorem Chronicle.protocol (h : Chronicle settings knows p true d x) :
    Protocol p x (Deed.trace d) := by
  obtain ⟨es, told, visits⟩ := h.visits
  have about := visits.exists_step
  have last := h.getLast?_trace
  -- the events of visits are neither the start nor the end
  have unstarted : ∀ id name, .started id name ∉ es := by
    intro id name started
    obtain ⟨step, same⟩ := about _ started
    cases same
  have unfinished : ∀ status, .finished status ∉ es := by
    intro status finished
    obtain ⟨step, same⟩ := about _ finished
    cases same
  refine ⟨?_, ?_, ?_, ?_, h.areAsked, ?_, ?_⟩
  · refine ⟨_, told, fun id name started => ?_⟩
    rcases List.mem_append.mp started with inside | ends
    · exact unstarted id name inside
    · obtain ⟨earlier, later, ends⟩ := List.append_of_mem ends
      cases (ending_eq_append_cons ends).1
  · intro earlier status later split
    cases earlier with
    | nil =>
      rw [told] at split
      cases split
    | cons first rest =>
      rw [told] at split
      rcases occurs_of_append (List.cons.inj split).2 with ⟨rest, inside, -⟩ | ⟨rest, -, ends⟩
      · exact absurd (inside ▸ List.mem_append_right _ List.mem_cons_self) (unfinished status)
      · obtain ⟨same, -, none_later⟩ := ending_eq_append_cons ends
        cases same
        exact ⟨none_later, rfl⟩
  · constructor
    · rintro ⟨status, finished⟩
      rw [told] at finished
      rcases List.mem_cons.mp finished with same | later
      · cases same
      · rcases List.mem_append.mp later with inside | ends
        · exact absurd inside (unfinished status)
        · obtain ⟨earlier, later, ends⟩ := List.append_of_mem ends
          exact (ending_eq_append_cons ends).2.1
    · intro halted
      exact ⟨x.status, by rw [told]; simp [Execution.ending, halted]⟩
  · rw [last]
    by_cases waiting : x.status = .waiting
    · rw [if_pos waiting]
      exact ⟨fun _ => ⟨x.current, rfl⟩, fun _ => waiting⟩
    · rw [if_neg waiting]
      refine ⟨fun waits => absurd waits waiting, ?_⟩
      rintro ⟨step, asked⟩
      cases asked
  · intro earlier step later split
    obtain ⟨n, closed | ⟨rfl, cut⟩⟩ := h.performs earlier step later split
    · exact ⟨n, .inl closed⟩
    · exact ⟨n, .inr ⟨by simp [Execution.ending, cut.1, Status.isOver], cut⟩⟩
  · obtain ⟨blocks, listed, rfl⟩ := visits.exists_blocks
    exact ⟨blocks, listed, told⟩

/-! ### What the engine tells -/

/-- What an entry of the trail tells of the events of a run. -/
def Entry.event? (id : ExecutionId) : Entry → Option Event
  | .happened id' event => if id' = id then some event else none
  | _ => none

/-- **What the engine tells of a run**, in order. -/
def Engine.events (e : Engine) (id : ExecutionId) : List Event :=
  (e.trail.filterMap (Entry.event? id)).reverse

theorem Engine.events_eq (e : Engine) (id : ExecutionId) :
    e.events id = Deed.trace (e.deeds id) := by
  unfold Engine.events Deed.trace Engine.deeds
  rw [List.filterMap_filterMap]
  refine congrArg List.reverse (List.filterMap_congr fun entry _ => ?_)
  cases entry with
  | called c =>
    by_cases mine : c.purpose.execution = id
    · rw [Entry.deed?_called mine]
      rfl
    · rw [Entry.deed?_called_of_ne mine]
      rfl
  | answered => rfl
  | happened id' event =>
    by_cases mine : id' = id
    · rw [mine, Entry.deed?_told]
      exact if_pos rfl
    · rw [Entry.deed?_told_of_ne mine]
      exact if_neg mine

/-- A run that is driven is not told to be finished. -/
theorem Chronicle.unfinished (h : Chronicle settings knows p false d x) (status : Status) :
    .finished status ∉ Deed.trace d := by
  obtain ⟨es, told, visits⟩ := h.visits
  intro finished
  rw [told] at finished
  rcases List.mem_cons.mp finished with same | later
  · cases same
  · have inside : .finished status ∈ es := by simpa [Execution.ending] using later
    obtain ⟨step, same⟩ := visits.exists_step _ inside
    cases same

/-- **A run that is driven can be settled**, whatever it has come to. -/
theorem Chronicle.exists_settled (h : Chronicle settings knows p false d x) :
    ∃ d' y, y.id = x.id ∧ Chronicle settings knows p true d' y ∧ d <:+ d' := by
  cases status : x.status with
  | running =>
    refine ⟨_, (x.fail .cancelled).touch x.updated, rfl,
      (h.stops status x.updated).finishes rfl, ?_⟩
    exact (List.suffix_append _ _).trans (List.suffix_cons _ _)
  | waiting => exact ⟨_, x, rfl, h.asks status, List.suffix_cons _ _⟩
  | completed | failed =>
    refine ⟨_, x, rfl, h.finishes (by rw [status]; rfl), ?_⟩
    exact (List.suffix_append _ _).trans (List.suffix_cons _ _)

theorem Deed.trace_prefix {d d' : List Deed} (h : d <:+ d') : Deed.trace d <+: Deed.trace d' :=
  List.reverse_prefix.mpr (h.filterMap _)

/-- **What the engine tells of a run obeys the protocol.**  This is so after any requests, to any
depth of nesting, as long as no run was cut off by the budget.

If the time was up of a call within which the run was driven, the trace breaks off.  It is then the
beginning of a trace that obeys the protocol, and the end of the run is not told.  The record shows
a running state, or the one of which only the end was not told any more. -/
theorem Setup.protocol_serve (u : Setup) (depth : Nat) (requests : List Request) (r : Request)
    (id : ExecutionId)
    (lasts : (u.serve depth (requests ++ [r]) {}).trail.length < u.budget)
    (begun : id.number < (u.serve depth (requests ++ [r]) {}).started) :
    let e := u.serve depth (requests ++ [r]) {}
    (id ∉ e.abandoned → ∃ p x, x.id = id ∧ u.Finds depth requests r p x ∧
      Protocol p x (e.events id)) ∧
    (id ∈ e.abandoned → ∃ p x es, x.id = id ∧ u.StartedWith depth (requests ++ [r]) id p ∧
      Protocol p x es ∧ e.events id <+: es ∧ (∀ status, .finished status ∉ e.events id) ∧
      ∀ record ∈ e.records, record.state.id = id → record.pipeline = p ∧
        (record.state.status = .running ∨
          record.state = x ∧ es = e.events id ++ [.finished x.status])) := by
  intro e
  rw [Engine.events_eq]
  constructor
  · intro spared
    obtain ⟨p, x, mine, finds, settled⟩ := u.exists_settled depth requests r lasts begun spared
    exact ⟨p, x, mine, finds, settled.chronicle.protocol⟩
  · intro abandoned
    obtain ⟨p, started, left⟩ := u.exists_left depth (requests ++ [r]) lasts abandoned
    cases left with
    | @driving d x mine past short records =>
      obtain ⟨d', y, same, settled, longer⟩ := past.exists_settled
      refine ⟨p, y, _, same.trans mine, started, settled.protocol,
        Deed.trace_prefix (short.trans longer), fun status finished => ?_, ?_⟩
      · exact past.unfinished status ((Deed.trace_prefix short).subset finished)
      · intro record listed same
        have drives := records record (Engine.mem_standing_iff.mpr ⟨listed, same⟩)
        exact ⟨drives.1, .inl drives.2⟩
    | @finishing d x mine past halted done records =>
      have told : Deed.trace (e.deeds id) = Deed.trace d := by
        rw [show e.deeds id = _ from done, Deed.trace_append, trace_hooked, List.append_nil]
      have finished : Deed.trace (.told (.finished x.status) :: (x.hooked u.tools.knows p ++ d)) =
          Deed.trace (e.deeds id) ++ [.finished x.status] := by
        rw [Deed.trace_told, Deed.trace_append, trace_hooked, List.append_nil, told]
      refine ⟨p, x, _, mine, started, (past.finishes halted).protocol, ?_, ?_, ?_⟩
      · exact finished ▸ List.prefix_append _ _
      · exact told ▸ past.unfinished
      · intro record listed same
        cases records record (Engine.mem_standing_iff.mpr ⟨listed, same⟩)
        exact ⟨rfl, .inr ⟨rfl, finished⟩⟩

/-- A run that has repeated its first step and waits at its gate obeys the protocol. -/
theorem Setup.small_obeys_protocol :
    let p := Definition.reviewed.toPipeline "p"
    ∃ x, x.status = .waiting ∧ x.path = ["draft", "review"] ∧
      Protocol p x ((Setup.small.serve 0 [.start p .empty] {}).events ⟨0⟩) := by
  intro p
  obtain ⟨q, x, mine, finds, protocol⟩ := (Setup.small.protocol_serve 0 [] (.start p .empty) ⟨0⟩
    (by decide +kernel) (by decide +kernel)).1 (by decide +kernel)
  obtain rfl : q = p := finds.started [] [] _ .empty rfl (by rw [mine]; rfl)
  have path : x.path = ["draft", "review"] :=
    finds.eq_of_record? (·.path) (by rw [mine]; decide +kernel)
  have waiting : x.status = .waiting :=
    finds.eq_of_record? (·.status) (by rw [mine]; decide +kernel)
  exact ⟨x, waiting, path, protocol⟩

/-- A step that leads back to itself when its loop ends, until its tool fails. -/
def Definition.polling : Definition where
  name := "polling"
  start := "poll"
  steps := .ofEntries
    [("poll", { id := "poll", tool := "poll", next.default := some "poll",
                onFailure := some endMarker, loop := some (.counting 0 1 1) })]

/-- An engine for short runs, whose tool succeeds once and fails after that. -/
def Setup.tiring : Setup where
  tools := .direct (.ofEntries
    [("poll", { replies := [{ outcome := .succeeded (some (.int 1)) },
                            { outcome := .ofError (.failed "STOP" "enough") }] })])
  budget := 20

/-- **A visit is not always numbered without a break**: where a step leads back to itself, the
numbers start over.  And **a trace may break off**: when the time of a call is up, a run that is
driven within it is left in the middle of its attempts. -/
theorem Setup.not_forall_protocol :
    (¬ ∀ (u : Setup) (depth : Nat) (requests : List Request) (r : Request) (id : ExecutionId),
      (u.serve depth (requests ++ [r]) {}).trail.length < u.budget →
      id.number < (u.serve depth (requests ++ [r]) {}).started →
      id ∉ (u.serve depth (requests ++ [r]) {}).abandoned →
        ∃ p x blocks, x.id = id ∧ u.Finds depth requests r p x ∧
          List.Forall₂ (fun key block => (∀ e ∈ block, e.IsAbout p key) ∧ AreNumbered block)
            x.path blocks ∧
          (u.serve depth (requests ++ [r]) {}).events id =
            .started p.id p.name :: (blocks.flatten ++ x.ending true)) ∧
    (Setup.hurrying.serve 1 [.hurry] {}).trail.length < Setup.hurrying.budget ∧
      (Setup.hurrying.serve 1 [.hurry] {}).events ⟨1⟩ =
        [.started "inner" "working", .stepStarted "work"] := by
  refine ⟨fun numbered => ?_, by decide +kernel, by decide +kernel⟩
  let start : Request := .start (Definition.polling.toPipeline "p") .empty
  obtain ⟨p, x, blocks, mine, finds, visits, told⟩ := numbered .tiring 0 [] start ⟨0⟩
    (by decide +kernel) (by decide +kernel) (by decide +kernel)
  have path : x.path = ["poll"] := finds.eq_of_record? (·.path) (by rw [mine]; decide +kernel)
  have completed : x.status = .completed :=
    finds.eq_of_record? (·.status) (by rw [mine]; decide +kernel)
  rw [path] at visits
  cases visits with
  | @cons _ block _ _ visit others =>
    cases others
    let first : List Event := [.loopIteration "poll" 1, .stepStarted "poll",
      .stepCompleted "poll" 1 (some "poll"), .loopExited "poll" 1]
    let second : List Event := [.stepStarted "poll", .stepFailed "poll" 1 "enough"]
    have heard : (Setup.tiring.serve 0 [start] {}).events ⟨0⟩ = .started "p" "polling" ::
        ((first ++ .loopIteration "poll" 1 :: second) ++ [.finished .completed]) := by
      decide +kernel
    have ending : x.ending true = [.finished .completed] := by
      simp [Execution.ending, completed, Status.isOver]
    rw [List.nil_append, heard, List.flatten_singleton, ending] at told
    have listed := List.append_cancel_right (List.cons.inj told).2
    exact absurd (visit.2 first "poll" 1 second listed.symm) (by decide)

end StepFlow
