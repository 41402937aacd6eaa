import StepFlow.Proofs.Engine.Stability
import StepFlow.Proofs.Execution.Chronicle

/-!
# What the engine knows of one run

A tool that is called for one run may make requests about any other, and about its own.  This
module says what becomes of a single run meanwhile.  Whatever the engine knows of a run is
its **standing**: whether it was ever started, what was done for it, its record, and whether
something was left undone for it.

What is done for other runs leaves the standing of a run as it is
(`Engine.standing_publish_of_ne` and its neighbours), so what is done for a run is all that
matters to it.

What is load-bearing is `Setup.keeps_of_own`.  A property of standings that survives the
removal of records is kept by every request at any depth of nesting, if three requests keep
it: starting the run, responding to it, and cancelling it.  Requests are made only while there
is time.
-/

namespace StepFlow

open Execution

/-- What an entry of the trail tells of the deeds of a run. -/
def Entry.deed? (id : ExecutionId) : Entry → Option Deed
  | .called c => if c.purpose.execution = id then some (.called c) else none
  | .answered _ => none
  | .happened id' event => if id' = id then some (.told event) else none

namespace Entry

variable {id id' : ExecutionId} {c : Call} {event : Event}

theorem deed?_called (mine : c.purpose.execution = id) : deed? id (called c) = some (.called c) :=
  if_pos mine

theorem deed?_called_of_ne (other : c.purpose.execution ≠ id) : deed? id (called c) = none :=
  if_neg other

theorem deed?_told : deed? id (happened id event) = some (.told event) := if_pos rfl

theorem deed?_told_of_ne (other : id' ≠ id) : deed? id (happened id' event) = none := if_neg other

end Entry

/-- **What the engine knows of a run.** -/
structure Standing where
  /-- Was the run ever started? -/
  begun : Prop
  /-- What was done for it, the latest first. -/
  deeds : List Deed
  /-- Its records, of which there is at most one. -/
  records : List Record
  /-- Was something left undone for it? -/
  abandoned : Prop

namespace Engine

/-- **What was done for a run**, the latest first. -/
def deeds (e : Engine) (id : ExecutionId) : List Deed := e.trail.filterMap (Entry.deed? id)

/-- The standing of a run. -/
def standing (e : Engine) (id : ExecutionId) : Standing where
  begun := id.number < e.started
  deeds := e.deeds id
  records := e.records.filter fun r => r.state.id = id
  abandoned := id ∈ e.abandoned

variable {e : Engine} {id : ExecutionId} {x : Execution} {p : Pipeline}

theorem standing_note {entry : Entry} (h : entry.deed? id = none) :
    (e.note entry).standing id = e.standing id := by
  unfold standing deeds note
  rw [List.filterMap_cons_none h]

theorem standing_note_some {entry : Entry} {deed : Deed} (h : entry.deed? id = some deed) :
    (e.note entry).standing id = { e.standing id with deeds := deed :: e.deeds id } := by
  unfold standing deeds note
  rw [List.filterMap_cons_some h]

theorem standing_called_of_ne {c : Call} (other : c.purpose.execution ≠ id) :
    (e.note (.called c)).standing id = e.standing id :=
  standing_note (Entry.deed?_called_of_ne other)

theorem standing_called {c : Call} (mine : c.purpose.execution = id) :
    (e.note (.called c)).standing id = { e.standing id with deeds := .called c :: e.deeds id } :=
  standing_note_some (Entry.deed?_called mine)

theorem standing_told_of_ne {id' : ExecutionId} (other : id' ≠ id) (event : Event) :
    (e.note (.happened id' event)).standing id = e.standing id :=
  standing_note (Entry.deed?_told_of_ne other)

theorem standing_told (event : Event) :
    (e.note (.happened id event)).standing id =
      { e.standing id with deeds := .told event :: e.deeds id } :=
  standing_note_some Entry.deed?_told

theorem standing_publish_of_ne (other : x.id ≠ id) :
    (e.publish x).standing id = e.standing id := by
  have same (records : List Record) :
      (records.map fun r => if r.state.id = x.id then { r with state := x } else r).filter
        (fun r => r.state.id = id) = records.filter fun r => r.state.id = id := by
    induction records with
    | nil => rfl
    | cons r rest ih =>
      by_cases here : r.state.id = x.id
      · have away : r.state.id ≠ id := here ▸ other
        simp only [List.map_cons, here, if_true, List.filter_cons, other, decide_false,
          Bool.false_eq_true, if_false, ih]
      · simp only [List.map_cons, here, if_false, List.filter_cons, ih]
  unfold standing publish
  rw [same]
  rfl

theorem standing_publish (mine : x.id = id) :
    (e.publish x).standing id =
      { e.standing id with
        records := (e.standing id).records.map fun r => { r with state := x } } := by
  subst mine
  have same (records : List Record) :
      (records.map fun r => if r.state.id = x.id then { r with state := x } else r).filter
        (fun r => r.state.id = x.id) =
      (records.filter fun r => r.state.id = x.id).map fun r => { r with state := x } := by
    induction records with
    | nil => rfl
    | cons r rest ih =>
      by_cases here : r.state.id = x.id
      · simp only [List.map_cons, here, if_true, List.filter_cons, decide_true, ih]
      · simp only [List.map_cons, here, if_false, List.filter_cons, decide_false,
          Bool.false_eq_true, ih]
  unfold standing publish
  rw [same]
  rfl

theorem standing_enlist_of_ne (fresh : x.id = ⟨e.started⟩) (other : x.id ≠ id) :
    (e.enlist p x).standing id = e.standing id := by
  have count : id.number < e.started + 1 ↔ id.number < e.started := by
    have away : id.number ≠ e.started := fun same => other (fresh.trans (by rw [← same]))
    omega
  unfold standing enlist
  rw [List.filter_append]
  simp only [List.filter_cons, other, decide_false, Bool.false_eq_true, if_false, List.filter_nil,
    List.append_nil, count]
  rfl

theorem standing_filter (keep : Record → Bool) :
    { e with records := e.records.filter keep }.standing id =
      { e.standing id with records := (e.standing id).records.filter keep } := by
  unfold standing
  rw [List.filter_filter, List.filter_filter]
  simp only [Bool.and_comm]
  rfl

theorem mem_standing_iff {r : Record} :
    r ∈ (e.standing id).records ↔ r ∈ e.records ∧ r.state.id = id := by
  simp [standing]

theorem id_of_record? {r : Record} (known : e.record? id = some r) : r.state.id = id := by
  simpa using List.find?_some known

theorem mem_standing_of_record? {r : Record} (known : e.record? id = some r) :
    r ∈ (e.standing id).records :=
  mem_standing_iff.mpr ⟨List.mem_of_find?_eq_some known, id_of_record? known⟩

/-- **A run waits** for a person. -/
def Waits (e : Engine) (id : ExecutionId) : Prop :=
  ∃ record, e.record? id = some record ∧ record.state.status = .waiting

/-! ### Time, and what is left undone -/

theorem standing_elapse (ms : Nat) : (e.elapse ms).standing id = e.standing id := by
  unfold elapse
  split <;> rfl

theorem standing_setAside (listens : Bool) (q : HumanRequest) :
    (e.setAside listens q).standing id = e.standing id := by
  cases listens <;> rfl

theorem standing_abandon_of_ne {id' : ExecutionId} (other : id' ≠ id) :
    (e.abandon id').standing id = e.standing id := by
  have same : (id ∈ id' :: e.abandoned) = (id ∈ e.abandoned) :=
    propext ⟨fun mem => (List.mem_cons.mp mem).resolve_left (Ne.symm other),
      List.mem_cons_of_mem id'⟩
  exact congrArg (Standing.mk _ _ _) same

theorem standing_abandon : (e.abandon id).standing id = { e.standing id with abandoned := True } :=
  congrArg (Standing.mk _ _ _) (eq_true List.mem_cons_self)

/-- **What is known of a run** is kept by an activity if it is kept by the answers. -/
theorem keeps_standing_perform {α : Type} {answer : Request → Engine → Answer × Engine}
    {P : Request → Prop} {J : Standing → Prop} {act : Activity α} (asks : act.Asks P)
    (kept : ∀ r e, P r → e.expired = false → J (e.standing id) → J ((answer r e).2.standing id))
    (timely : e.expired = false) (before : J (e.standing id)) :
    J ((e.perform answer act).2.standing id) := by
  refine keeps_perform (I := fun e => J (e.standing id)) ?_ kept ?_ asks timely before
  · intro ms e before
    rw [standing_elapse]
    exact before
  · intro a e before
    rw [standing_note rfl]
    exact before

/-- What is known of a run is kept when a tool is consulted for another. -/
theorem keeps_standing_consult {answer : Request → Engine → Answer × Engine}
    {J : Standing → Prop}
    (kept : ∀ r e, e.expired = false → J (e.standing id) → J ((answer r e).2.standing id))
    (tools : Toolbox) (c : Call) (deadline : Nat) (timely : e.expired = false)
    (before : J ((e.note (.called c)).standing id)) :
    J (((e.consult tools answer c deadline).2.returning e deadline).standing id) :=
  keeps_standing_perform (e := (e.note (.called c)).within deadline)
    (Activity.asks_of_forall (P := fun _ => True) (fun _ => trivial) _) (fun r e _ => kept r e)
    timely before

end Engine

/-- A property of standings survives the removal of records. -/
def Standing.Drops (J : Standing → Prop) : Prop :=
  ∀ s keep, J s → J { s with records := s.records.filter keep }

namespace Setup

/-- **Requests preserve a property of a standing**, as long as there is time to make them. -/
def Preserves (u : Setup) (id : ExecutionId) (J : Standing → Prop) (depth : Nat) : Prop :=
  ∀ r e, e.expired = false → J (e.standing id) → J ((u.answering depth r e).2.standing id)

variable (u : Setup) {id : ExecutionId} {J : Standing → Prop}

/-- **What is done for another run** leaves the standing of a run as it is, up to the requests
that are made meanwhile. -/
theorem keepsFor_host {depth : Nat} (preserves : u.Preserves id J depth) {id' : ExecutionId}
    (other : id' ≠ id) : (u.host depth).KeepsFor id' fun e => J (e.standing id) := by
  have abandons {e : Engine} (before : J (e.standing id)) : J ((e.abandon id').standing id) := by
    rw [Engine.standing_abandon_of_ne other]
    exact before
  rw [u.host_eq]
  constructor
  case call =>
    intro c timeout e theirs before
    refine Engine.keeps_call (I := fun e => J (e.standing id)) (fun _ => theirs ▸ abandons)
      (fun timely _ before deadline => ?_) before
    refine Engine.keeps_standing_consult preserves _ c deadline timely ?_
    rw [Engine.standing_called_of_ne (theirs ▸ other)]
    exact before
  case emit =>
    intro event e before
    show J ((e.attend id' fun e => e.note (.happened id' event)).standing id)
    refine Engine.keeps_attend (I := fun e => J (e.standing id)) (fun _ => abandons)
      (fun _ before => ?_) before
    rw [Engine.standing_told_of_ne other]
    exact before
  case pause =>
    intro ms e before
    show J ((if e.expired then e else e.elapse ms.toNat).standing id)
    split
    · exact before
    · rw [Engine.standing_elapse]
      exact before
  case publish =>
    intro x e theirs before
    show J ((e.attend x.id fun e => e.publish x).standing id)
    refine Engine.keeps_attend (I := fun e => J (e.standing id)) (fun _ => theirs ▸ abandons)
      (fun _ before => ?_) before
    rw [Engine.standing_publish_of_ne (theirs ▸ other)]
    exact before
  case ask =>
    intro q e theirs before
    show J ((e.attend q.execution fun e => (Engine.perform (u.answering depth)
      (u.handler e.calls q) (e.setAside u.listens q)).2).standing id)
    refine Engine.keeps_attend (I := fun e => J (e.standing id)) (fun _ => theirs ▸ abandons)
      (fun timely before => ?_) before
    refine Engine.keeps_standing_perform (P := fun _ => True)
      (Activity.asks_of_forall (fun _ => trivial) _) (fun r e _ => preserves r e)
      ((e.expired_setAside _ q).trans timely) ?_
    rw [Engine.standing_setAside]
    exact before

/-- A response to a run that waits is told, and the run is driven on. -/
theorem respond_of_waiting {h : Host Engine} {e : Engine} {record : Record}
    (known : e.record? id = some record) (waiting : record.state.status = .waiting)
    (r : HumanResponse) :
    u.respond h id r e =
      let e' := h.emit id (.humanReceived record.state.current r.approved)
        (e.publish { record.state with status := .running })
      let came := h.run u.settings record.pipeline u.budget ((record.state.respond
        u.settings.failOnUnroutedError record.pipeline r e'.now).touch e'.now) e'
      (some came.1, came.2) := by
  unfold respond
  rw [known]
  simp only [waiting, if_true]

/-- A run that waits is cancelled at once. -/
theorem cancel_of_waiting {h : Host Engine} {e : Engine} {record : Record}
    (known : e.record? id = some record) (waiting : record.state.status = .waiting) :
    u.cancel h id e =
      let x := (record.state.fail .cancelled).touch e.now
      (true, h.finish u.settings record.pipeline x ((e.flag id).publish x)) := by
  have going : record.state.status.isOver = false := by rw [waiting]; rfl
  unfold cancel
  rw [known]
  simp only [going, Bool.false_eq_true, if_false]
  rw [if_pos waiting]

theorem keeps_answer (drops : Standing.Drops J) {h : Host Engine}
    (others : ∀ id', id' ≠ id → h.KeepsFor id' fun e => J (e.standing id))
    {e : Engine}
    (start : ∀ p initial, id = ⟨e.started⟩ → J (e.standing id) →
      J ((u.start h p initial e).2.standing id))
    (respond : ∀ r, J (e.standing id) → J ((u.respond h id r e).2.standing id))
    (cancel : J (e.standing id) → J ((u.cancel h id e).2.standing id))
    (r : Request) (before : J (e.standing id)) :
    J ((u.answer h r e).2.standing id) := by
  cases r with
  | start p initial =>
    by_cases mine : id = ⟨e.started⟩
    · exact start p initial mine before
    · have theirs := others ⟨e.started⟩ (Ne.symm mine)
      refine theirs.run u.settings p rfl u.budget (theirs.emit _ _ ?_)
      rw [Engine.standing_enlist_of_ne rfl (Ne.symm mine)]
      exact before
  | respond id' response =>
    by_cases mine : id' = id
    · subst mine
      exact respond response before
    · have theirs := others id' mine
      show J ((u.respond h id' response e).2.standing id)
      cases known : e.record? id' with
      | none =>
        unfold Setup.respond
        rw [known]
        exact before
      | some record =>
        have found := Engine.id_of_record? known
        by_cases waiting : record.state.status = .waiting
        · rw [u.respond_of_waiting known waiting]
          have still (now : Instant) : ((record.state.respond u.settings.failOnUnroutedError
              record.pipeline response now).touch now).id = id' :=
            (record.state.id_respond _ _ _ now).trans found
          refine theirs.run u.settings record.pipeline (still _) u.budget (theirs.emit _ _ ?_)
          rw [Engine.standing_publish_of_ne (x := { record.state with status := .running })
            (found ▸ mine)]
          exact before
        · unfold Setup.respond
          rw [known]
          simp only [waiting, if_false]
          exact before
  | cancel id' =>
    by_cases mine : id' = id
    · subst mine
      exact cancel before
    · have theirs := others id' mine
      show J ((u.cancel h id' e).2.standing id)
      unfold Setup.cancel
      cases known : e.record? id' with
      | none => exact before
      | some record =>
        have found : record.state.id = id' := Engine.id_of_record? known
        simp only
        split
        · exact before
        · split
          · refine theirs.finish u.settings record.pipeline
              (x := (record.state.fail .cancelled).touch e.now) found ?_
            rw [Engine.standing_publish_of_ne (x := (record.state.fail .cancelled).touch e.now)
              (found ▸ mine)]
            exact before
          · exact before
  | remove id' =>
    show J ((e.forget id').standing id)
    unfold Engine.forget
    rw [Engine.standing_filter]
    exact drops _ _ before
  | cleanup =>
    show J (e.forgetFinished.standing id)
    unfold Engine.forgetFinished
    rw [Engine.standing_filter]
    exact drops _ _ before
  | get | list | malformed => exact before

/-- **What three requests keep, all requests keep**, at any depth of nesting. -/
theorem keeps_of_own (drops : Standing.Drops J)
    (start : ∀ depth, u.Preserves id J depth → ∀ p initial e, e.expired = false →
      id = ⟨e.started⟩ → J (e.standing id) → J ((u.start (u.host depth) p initial e).2.standing id))
    (respond : ∀ depth, u.Preserves id J depth → ∀ r e, e.expired = false → J (e.standing id) →
      J ((u.respond (u.host depth) id r e).2.standing id))
    (cancel : ∀ depth, u.Preserves id J depth → ∀ e, e.expired = false → J (e.standing id) →
      J ((u.cancel (u.host depth) id e).2.standing id))
    (depth : Nat) : u.Preserves id J depth := by
  -- requests are answered by the host of the depth below, whose tools ask the depth below that
  induction depth with
  | zero => exact fun r e timely before => before
  | succ depth ih =>
    intro r e timely before
    exact u.keeps_answer drops (fun id' other => u.keepsFor_host ih other)
      (fun p initial => start depth ih p initial e timely)
      (fun r => respond depth ih r e timely) (cancel depth ih e timely) r before

/-! ### Runs that do not wait -/

/-- Only a run that waits takes in a response. -/
theorem respond_of_not_waits {h : Host Engine} {e : Engine} (r : HumanResponse)
    (awake : ¬ e.Waits id) : u.respond h id r e = (none, e) := by
  unfold respond
  cases known : e.record? id with
  | none => rfl
  | some record => exact if_neg fun waiting => awake ⟨record, known, waiting⟩

/-- Cancelling a run that does not wait raises its flag at most. -/
theorem standing_cancel_of_not_waits {h : Host Engine} {e : Engine} (awake : ¬ e.Waits id) :
    (u.cancel h id e).2.standing id = e.standing id := by
  unfold cancel
  cases known : e.record? id with
  | none => rfl
  | some record =>
    simp only
    split
    · rfl
    · rw [if_neg fun waiting => awake ⟨record, known, waiting⟩]
      rfl

end Setup

end StepFlow
