import Mathlib.Data.List.Basic
import StepFlow.Proofs.Engine.Custody

/-!
# The registry of runs

The engine keeps a record of every run until it is removed.  This module says what can become
of the records between requests, whatever the requests are and whatever the tools request
meanwhile (`Setup.orderly_serve`): who may respond and cancel, that no record is left running,
that a run that is over stays as it is, that a run that is gone stays gone, and that the engine
shows the states that it returns.

Two of these have an exception each (`Setup.not_forall_rests`).  A run that a tool drives is left
running when the time of the call is up.  And a handler that is asked may itself respond, so that
a state which is returned as waiting is not the last.

What is load-bearing is that a run which does not wait is held (`Setup.keeps_held`); one that
is over and one that is gone are both cases of it.  How often a run was suspended is read off
its chronicle, where every response ends a suspension of its own (`Chronicle.suspensions_eq`).
-/

namespace StepFlow

open Execution

/-! ### Suspensions -/

namespace Deed

/-- Was a person asked? -/
def isSuspension : Deed → Bool
  | told (.humanRequested _) => true
  | _ => false

/-- Did a person respond? -/
def isResponse : Deed → Bool
  | told (.humanReceived _ _) => true
  | _ => false

/-- How often a person was asked. -/
def suspensions (d : List Deed) : Nat := d.countP isSuspension

/-- How often a person responded. -/
def responses (d : List Deed) : Nat := d.countP isResponse

theorem OfStep.quiet {id : ExecutionId} {deed : Deed} (h : deed.OfStep id) :
    deed.isSuspension = false ∧ deed.isResponse = false := by
  cases deed with
  | called => exact ⟨rfl, rfl⟩
  | told event =>
    cases event with
    | humanRequested => cases h
    | humanReceived => cases h
    | _ => exact ⟨rfl, rfl⟩

/-- An advance asks nobody, and takes in no response. -/
theorem count_of_ofStep {id : ExecutionId} {new : List Deed}
    (steps : ∀ deed ∈ new, deed.OfStep id) (d : List Deed) :
    suspensions (new ++ d) = suspensions d ∧ responses (new ++ d) = responses d := by
  have asked : new.countP isSuspension = 0 := by
    refine List.countP_eq_zero.mpr fun deed done => ?_
    rw [(steps deed done).quiet.1]
    exact Bool.false_ne_true
  have heard : new.countP isResponse = 0 := by
    refine List.countP_eq_zero.mpr fun deed done => ?_
    rw [(steps deed done).quiet.2]
    exact Bool.false_ne_true
  unfold suspensions responses
  rw [List.countP_append, List.countP_append, asked, heard]
  exact ⟨Nat.zero_add _, Nat.zero_add _⟩

end Deed

/-- **Every response ends a suspension of its own.**  A run that waits was suspended once more
than it was responded to. -/
theorem Chronicle.suspensions_eq {settings : Settings} {knows : String → Bool} {p : Pipeline}
    {settled : Bool} {d : List Deed} {x : Execution} (h : Chronicle settings knows p settled d x)
    (going : x.status.isOver = false) :
    Deed.suspensions d = Deed.responses d + if settled then 1 else 0 := by
  induction h with
  | begins => rfl
  | @advances d new x y past running enacts now ih =>
    obtain ⟨suspensions, responses⟩ := Deed.count_of_ofStep enacts.ofStep d
    rw [suspensions, responses]
    exact ih (by rw [running]; rfl)
  | stops => cases going
  | asks _ waiting ih =>
    have before := ih (by rw [waiting]; rfl)
    unfold Deed.suspensions Deed.responses at before ⊢
    rw [List.countP_cons, List.countP_cons, before]
    rfl
  | finishes _ halted => rw [halted] at going; cases going
  | responds _ waiting r start stop ih =>
    have before := ih (by rw [waiting]; rfl)
    unfold Deed.suspensions Deed.responses at before ⊢
    rw [List.countP_cons, List.countP_cons, before]
    rfl
  | cancels => cases going

namespace Engine

variable {e e' : Engine} {id : ExecutionId} {p : Pipeline}

/-- **How often a run was suspended.** -/
def suspensions (e : Engine) (id : ExecutionId) : Nat := Deed.suspensions (e.deeds id)

/-- The trail only grows. -/
theorem stable_trail (trail : List Entry) :
    Stable (fun _ => True) fun e => trail <:+ e.trail where
  timed _ _ _ _ before := before
  abandon _ _ before := before
  note entry _ before := before.trans (List.suffix_cons entry _)
  publish _ _ before := before
  setAside listens _ _ before := by cases listens <;> exact before
  enlist _ _ _ before := before
  flag _ _ before := before
  forget _ _ _ before := before
  forgetFinished _ _ before := before

/-- What was left undone stays undone. -/
theorem stable_abandoned (id : ExecutionId) :
    Stable (fun _ => True) fun e => id ∈ e.abandoned where
  timed _ _ _ _ before := before
  abandon _ _ before := List.mem_cons_of_mem _ before
  note _ _ before := before
  publish _ _ before := before
  setAside listens _ _ before := by cases listens <;> exact before
  enlist _ _ _ before := before
  flag _ _ before := before
  forget _ _ _ before := before
  forgetFinished _ _ before := before

/-- Runs are started, and never unstarted. -/
theorem stable_started (n : Nat) : Stable (fun _ => True) fun e => n ≤ e.started where
  timed _ _ _ _ before := before
  abandon _ _ before := before
  note _ _ before := before
  publish _ _ before := before
  setAside listens _ _ before := by cases listens <;> exact before
  enlist _ _ _ before := Nat.le_succ_of_le before
  flag _ _ before := before
  forget _ _ _ before := before
  forgetFinished _ _ before := before

theorem responses_le_of_suffix (grown : e.trail <:+ e'.trail) (id : ExecutionId) :
    Deed.responses (e.deeds id) ≤ Deed.responses (e'.deeds id) :=
  (grown.filterMap _).sublist.countP_le

/-- A run is registered. -/
def IsRegistered (e : Engine) (id : ExecutionId) : Prop := (e.record? id).isSome = true

theorem isRegistered_iff : e.IsRegistered id ↔ ∃ record ∈ e.records, record.state.id = id := by
  unfold IsRegistered record?
  simp

end Engine

/-- A request that removes no run. -/
def Request.Retains (r : Request) : Prop := r ≠ .cleanup ∧ ∀ id, r ≠ .remove id

/-- What is registered stays registered, if nobody asks to remove it. -/
theorem Engine.stable_isRegistered (id : ExecutionId) :
    Engine.Stable Request.Retains fun e => e.IsRegistered id := by
  have shown (x : Execution) (e : Engine) (before : e.IsRegistered id) :
      (e.publish x).IsRegistered id := by
    obtain ⟨record, listed, same⟩ := Engine.isRegistered_iff.mp before
    refine Engine.isRegistered_iff.mpr ⟨_, List.mem_map_of_mem listed, ?_⟩
    split
    · rename_i mine
      exact mine.symm.trans same
    · exact same
  have enlisted (p : Pipeline) (x : Execution) (e : Engine) (before : e.IsRegistered id) :
      (e.enlist p x).IsRegistered id := by
    obtain ⟨record, listed, same⟩ := Engine.isRegistered_iff.mp before
    exact Engine.isRegistered_iff.mpr ⟨record, List.mem_append_left _ listed, same⟩
  exact
    { timed := fun _ _ _ _ before => before
      abandon := fun _ _ before => before
      note := fun _ _ before => before
      publish := shown
      setAside := fun listens _ _ before => by cases listens <;> exact before
      enlist := enlisted
      flag := fun _ _ before => before
      forget := fun id' _ retains _ => absurd rfl (retains.2 id')
      forgetFinished := fun _ retains _ => absurd rfl retains.1 }

/-- A request that can end a suspension of a run. -/
def Request.Ends (id : ExecutionId) (r : Request) : Prop :=
  (∃ response, r = .respond id response) ∨ r = .cancel id

/-- **What can become of the records of an engine**, from the state `e` on. -/
structure Setup.Orderly (u : Setup) (depth : Nat) (e : Engine) : Prop where
  /-- A response is taken in, and a state returned, if and only if the run is registered and
  waits.  Otherwise the engine is as it was. -/
  responds : ∀ id r, ((u.respond (u.host depth) id r e).1.isSome = true ↔ e.Waits id) ∧
    (¬ e.Waits id → u.respond (u.host depth) id r e = (none, e))
  /-- A response or a cancellation ends a suspension.  The run waits again only after it was
  suspended again. -/
  suspends : ∀ id, e.Waits id → ∀ r, r.Ends id → ∀ more,
    (u.serve depth (r :: more) e).Waits id →
      e.suspensions id < (u.serve depth (r :: more) e).suspensions id
  /-- Cancelling succeeds if and only if the run is registered and not over. -/
  cancels : ∀ id, (u.cancel (u.host depth) id e).1 = true ↔
    ∃ record, e.record? id = some record ∧ record.state.status.isOver = false
  /-- No record is left running, unless a run was cut off, or the time was up of a call within
  which it was driven. -/
  rests : e.trail.length < u.budget → ∀ record ∈ e.records, record.state.status = .running →
    record.state.id ∈ e.abandoned
  /-- Where tools and the handler neither drive nor cancel runs, no run is ever left. -/
  spares : u.AsksOnly Request.Spares → ∀ more, (u.serve depth more e).abandoned = []
  /-- A run that is over stays as it is until it is removed. -/
  final : ∀ record ∈ e.records, record.state.status.isOver = true → ∀ more,
    ∀ record' ∈ (u.serve depth more e).records, record'.state.id = record.state.id →
      record' = record
  /-- A run is removed only if somebody asks for it. -/
  stays : u.AsksOnly Request.Retains → ∀ more, (∀ r ∈ more, r.Retains) → ∀ id,
    e.IsRegistered id → (u.serve depth more e).IsRegistered id
  /-- A run that was removed is never registered again. -/
  gone : ∀ id, e.IsRegistered id → ∀ more, ¬ (u.serve depth more e).IsRegistered id →
    ∀ later, ¬ (u.serve depth later (u.serve depth more e)).IsRegistered id
  /-- Cleaning up removes the runs that are over, and tells how many they were. -/
  cleans : u.answer (u.host depth) .cleanup e =
    (.count (e.records.countP fun record => record.state.status.isOver),
      { e with records := e.records.filter fun record => !record.state.status.isOver })
  /-- The state that a start or a response returns is the one that its record shows, and the
  one that the engine answers with from then on, unless a tool has had the run removed.  If the
  run waits, this is so where the handler does nothing for it meanwhile. -/
  agrees : ∀ r, r.Drives → ∀ x e', u.answer (u.host depth) r e = (.state (some x), e') →
    e'.trail.length < u.budget → (x.status = .waiting → u.HandsOff) →
      (∀ record ∈ e'.records, record.state.id = x.id → record.state = x) ∧
        (u.AsksOnly Request.Retains →
          (u.answer (u.host depth) (.get x.id) e').1 = .state (some x))

namespace Setup

variable (u : Setup) {id : ExecutionId} {e : Engine} {depth : Nat}

theorem isSome_respond_iff (r : HumanResponse) :
    (u.respond (u.host depth) id r e).1.isSome = true ↔ e.Waits id := by
  constructor
  · intro returned
    by_contra awake
    rw [u.respond_of_not_waits r awake] at returned
    cases returned
  · rintro ⟨record, known, waiting⟩
    rw [u.respond_of_waiting known waiting]
    rfl

theorem cancel_eq_true_iff : (u.cancel (u.host depth) id e).1 = true ↔
    ∃ record, e.record? id = some record ∧ record.state.status.isOver = false := by
  unfold cancel
  cases known : e.record? id with
  | none => simp
  | some record =>
    simp only [Option.some.injEq, exists_eq_left']
    cases halted : record.state.status.isOver with
    | true => simp
    | false =>
      simp only [Bool.false_eq_true, if_false]
      split <;> simp

/-- Cleaning up tells how many runs it removes. -/
theorem answer_cleanup : u.answer (u.host depth) .cleanup e =
    (.count (e.records.countP fun record => record.state.status.isOver),
      { e with records := e.records.filter fun record => !record.state.status.isOver }) := by
  have all : e.records.length =
      (e.records.filter fun record => record.state.status.isOver).length +
        e.forgetFinished.records.length := List.length_eq_length_filter_add _
  show (Answer.count (e.records.length - e.forgetFinished.records.length), e.forgetFinished) = _
  rw [all, Nat.add_sub_cancel, ← List.countP_eq_length_filter]
  rfl

/-- Requests keep what every change keeps. -/
theorem keeps_serve_of_stable (depth : Nat) {Asks : Request → Prop} {I : Engine → Prop}
    (stable : Engine.Stable Asks I) (asks : u.AsksOnly Asks) (requests : List Request)
    (asked : ∀ r ∈ requests, Asks r) (before : I e) : I (u.serve depth requests e) := by
  induction requests generalizing e with
  | nil => exact before
  | cons r rest ih =>
    obtain ⟨first, others⟩ := List.forall_mem_cons.mp asked
    exact ih others (u.keeps_answering_of_stable stable asks (depth + 1) r e first before)

/-- What requests preserve of a run, many preserve, where time is not limited. -/
theorem preserves_serve {J : Standing → Prop} (depth : Nat)
    (preserves : u.Preserves id J (depth + 1)) (requests : List Request) (heeds : e.Heeds none)
    (before : J (e.standing id)) : J ((u.serve depth requests e).standing id) :=
  (u.keeps_serve (I := fun e => e.Heeds none ∧ J (e.standing id)) depth
    (fun r e before => ⟨u.keeps_heeds_answering (depth + 1) r e before.1,
      preserves r e (before.1.timely rfl) before.2⟩) requests ⟨heeds, before⟩).2

/-! ### Runs that are over, and runs that are gone -/

section Rest

variable {Q : Pipeline → Prop}

/-- A run that is over is held as it is. -/
theorem held_of_isOver {record : Record}
    (rests : (e.standing record.state.id).AtRest u record.state.id Q) (listed : record ∈ e.records)
    (halted : record.state.status.isOver = true) :
    (e.standing record.state.id).Held (· = record) (e.deeds record.state.id) := by
  have listed' := Engine.mem_standing_iff.mpr ⟨listed, rfl⟩
  cases rests with
  | unknown _ _ absent =>
    rw [absent] at listed'
    cases listed'
  | settled _ h =>
    cases h.records record listed'
    exact ⟨h.begun, rfl, h.records⟩
  | cut h =>
    rw [h.records record listed'] at halted
    cases halted
  | left begun _ h =>
    cases h with
    | driving _ _ _ records =>
      rw [(records record listed').2] at halted
      cases halted
    | finishing _ _ _ _ records =>
      cases records record listed'
      exact ⟨begun, rfl, records⟩

/-- **A run that is over stays as it is** until it is removed. -/
theorem eq_of_isOver {record record' : Record} (heeds : e.Heeds none)
    (rests : (e.standing record.state.id).AtRest u record.state.id Q) (listed : record ∈ e.records)
    (halted : record.state.status.isOver = true) (more : List Request)
    (later : record' ∈ (u.serve depth more e).records)
    (same : record'.state.id = record.state.id) : record' = record := by
  have awake : ∀ r, r = record → r.state.status ≠ .waiting := by
    rintro r rfl
    exact Status.ne_waiting_of_isOver halted
  have held := u.preserves_serve depth (u.keeps_held awake (depth + 1)) more heeds
    (u.held_of_isOver rests listed halted)
  exact held.records record' (Engine.mem_standing_iff.mpr ⟨later, same⟩)

/-- **No record is left running**, unless a run was cut off or left. -/
theorem abandoned_of_running {record : Record}
    (rests : (e.standing record.state.id).AtRest u record.state.id Q) (listed : record ∈ e.records)
    (lasts : e.trail.length < u.budget) (running : record.state.status = .running) :
    record.state.id ∈ e.abandoned := by
  have listed' := Engine.mem_standing_iff.mpr ⟨listed, rfl⟩
  cases rests with
  | unknown _ _ absent =>
    rw [absent] at listed'
    cases listed'
  | settled _ h =>
    rw [h.records record listed'] at running
    exact absurd running h.chronicle.not_running
  | cut h => exact absurd h (u.not_isCut lasts)
  | left _ abandoned => exact abandoned

/-- Only runs that were started are registered. -/
theorem begun_of_isRegistered (rests : (e.standing id).AtRest u id Q)
    (registered : e.IsRegistered id) : id.number < e.started := by
  obtain ⟨record, listed, same⟩ := Engine.isRegistered_iff.mp registered
  cases rests with
  | unknown _ _ absent =>
    have listed' := Engine.mem_standing_iff.mpr ⟨listed, same⟩
    rw [absent] at listed'
    cases listed'
  | settled _ h => exact h.begun
  | cut h => exact h.begun
  | left begun => exact begun

/-- **A run that is gone stays gone.** -/
theorem not_isRegistered_serve (heeds : e.Heeds none) (begun : id.number < e.started)
    (gone : ¬ e.IsRegistered id) (later : List Request) :
    ¬ (u.serve depth later e).IsRegistered id := by
  -- a run without a record does not wait
  have held : (e.standing id).Held (fun _ => False) (e.deeds id) := by
    refine ⟨begun, rfl, fun record listed => gone ?_⟩
    obtain ⟨listed, same⟩ := Engine.mem_standing_iff.mp listed
    exact Engine.isRegistered_iff.mpr ⟨record, listed, same⟩
  have after := u.preserves_serve depth (u.keeps_held (fun _ => False.elim) (depth + 1)) later
    heeds held
  intro registered
  obtain ⟨record, listed, same⟩ := Engine.isRegistered_iff.mp registered
  exact after.records record (Engine.mem_standing_iff.mpr ⟨listed, same⟩)

end Rest

/-! ### Suspensions of registered runs -/

/-- A run that waits was suspended once more than it was responded to. -/
theorem suspensions_of_waits {Q : Pipeline → Prop} (rests : (e.standing id).AtRest u id Q)
    (waits : e.Waits id) : e.suspensions id = Deed.responses (e.deeds id) + 1 := by
  obtain ⟨record, -, waiting, -, settled⟩ := rests.waits waits
  exact settled.chronicle.suspensions_eq (by rw [waiting]; rfl)

/-- A response that is taken in is told. -/
theorem responses_respond (depth : Nat) (r : HumanResponse) (timely : e.expired = false)
    (waits : e.Waits id) :
    Deed.responses (e.deeds id) + 1 ≤
      Deed.responses ((u.respond (u.host depth) id r e).2.deeds id) := by
  obtain ⟨record, known, waiting⟩ := waits
  rw [u.respond_of_waiting known waiting]
  let told := (e.publish { record.state with status := .running }).note
    (.happened id (.humanReceived record.state.current r.approved))
  have emitted : (u.host depth).emit id (.humanReceived record.state.current r.approved)
      (e.publish { record.state with status := .running }) = told :=
    u.emit_host depth id _ timely
  have counted : Deed.responses (told.deeds id) = Deed.responses (e.deeds id) + 1 := by
    unfold Engine.deeds
    rw [show told.trail = _ :: e.trail from rfl, List.filterMap_cons_some Entry.deed?_told]
    unfold Deed.responses
    rw [List.countP_cons_of_pos rfl]
  have keeps : (u.host depth).Keeps fun e => told.trail <:+ e.trail :=
    u.keeps_host_of_stable (Engine.stable_trail _) (u.asksOnly_of_forall fun _ => trivial) depth
  rw [emitted, ← counted]
  exact Engine.responses_le_of_suffix (keeps.run _ _ _ _ (List.suffix_refl _)) id

/-- **A suspension is ended once.**  After a response or a cancellation the run waits again only
after it was suspended again. -/
theorem suspensions_lt {Q R : Pipeline → Prop} (heeds : e.Heeds none)
    (rests : (e.standing id).AtRest u id Q) (waits : e.Waits id) {r : Request} (ends : r.Ends id)
    (more : List Request)
    (later : ((u.serve depth (r :: more) e).standing id).AtRest u id R)
    (again : (u.serve depth (r :: more) e).Waits id) :
    e.suspensions id < (u.serve depth (r :: more) e).suspensions id := by
  rcases ends with ⟨response, rfl⟩ | rfl
  · have told := u.responses_respond depth response (heeds.timely rfl) waits
    have grown := u.keeps_serve_of_stable depth (Engine.stable_trail _)
      (u.asksOnly_of_forall fun _ => trivial) more (fun _ _ => trivial)
      (List.suffix_refl (u.respond (u.host depth) id response e).2.trail)
    have kept := Engine.responses_le_of_suffix grown id
    rw [u.suspensions_of_waits rests waits, u.suspensions_of_waits later again]
    exact Nat.succ_lt_succ (Nat.lt_of_lt_of_le told kept)
  · -- a run that was cancelled has failed, and it stays so
    obtain ⟨record, known, waiting, -, settled⟩ := rests.waits waits
    obtain ⟨d, cancelled⟩ := u.held_cancel depth (heeds.timely rfl) known waiting settled
    have awake : ∀ r : Record, r = ⟨record.pipeline, (record.state.fail .cancelled).touch e.now⟩ →
        r.state.status ≠ .waiting := by
      rintro r rfl
      nofun
    have held := u.preserves_serve depth (u.keeps_held awake (depth + 1)) more
      (u.keeps_heeds_answering (depth + 1) (.cancel id) e heeds) cancelled
    exact absurd again (held.not_waits awake)

/-- **A run that is driven is registered** when it returns, unless somebody asked to remove
it. -/
theorem isRegistered_answer (retains : u.AsksOnly Request.Retains) {r : Request} (drives : r.Drives)
    {x : Execution} (answered : (u.answer (u.host depth) r e).1 = .state (some x)) :
    (u.answer (u.host depth) r e).2.IsRegistered x.id := by
  have stable := Engine.stable_isRegistered x.id
  rcases drives with ⟨p, initial, rfl⟩ | ⟨id, response, rfl⟩
  · have same : (u.start (u.host depth) p initial e).1 = x := by cases answered; rfl
    have fresh : x.id = ⟨e.started⟩ := by
      rw [← same]
      exact Host.id_run u.settings p u.budget _ _
    have keeps := u.keeps_host_of_stable stable retains depth
    refine keeps.run u.settings p u.budget _ (keeps.emit _ _ _ ?_)
    exact Engine.isRegistered_iff.mpr
      ⟨_, List.mem_append_right _ List.mem_cons_self, fresh.symm⟩
  · obtain rfl : x.id = id := u.id_of_respond (Answer.state.inj answered)
    refine u.keeps_answering_of_stable stable retains (depth + 1) _ e ⟨nofun, nofun⟩ ?_
    obtain ⟨record, known, -⟩ := (u.isSome_respond_iff response).mp
      (Option.isSome_of_mem (Answer.state.inj answered))
    exact Option.isSome_of_mem known

/-- **The state that a start or a response returns** is the one that its record shows. -/
theorem state_eq_of_answer {Q : Pipeline → Prop} {r : Request} {x : Execution}
    (heeds : e.Heeds none) (rests : (e.standing x.id).AtRest u x.id Q) (drives : r.Drives)
    (answered : (u.answer (u.host depth) r e).1 = .state (some x))
    (lasts : (u.answer (u.host depth) r e).2.trail.length < u.budget)
    (handsOff : x.status = .waiting → u.HandsOff) :
    ∀ record ∈ (u.answer (u.host depth) r e).2.records, record.state.id = x.id →
      record.state = x := by
  intro record listed same
  obtain ⟨p, -, returns, -⟩ :=
    u.returns_answer depth drives (heeds.timely rfl) rests answered handsOff
  cases returns.restsAs with
  | settled settled =>
    rw [settled.records record (Engine.mem_standing_iff.mpr ⟨listed, same⟩)]
  | cut cut => exact absurd cut (u.not_isCut lasts)
  | left _ abandoned =>
    -- where time is not limited, it is never up
    have late := returns.expired abandoned
    have timely : (u.answer (u.host depth) r e).2.expired = false :=
      (u.keeps_heeds_answering (depth + 1) r e heeds).timely rfl
    rw [timely] at late
    cases late

/-- Where tools and the handler neither drive nor cancel runs, no run is left. -/
theorem spared_serve (spares : u.AsksOnly Request.Spares) (depth : Nat) (requests : List Request)
    (before : e.Spared none) : (u.serve depth requests e).Spared none :=
  u.keeps_serve depth (fun r _ => u.keeps_answer_of_robust (Engine.robust_spared none)
    (u.keeps_spared spares depth) r trivial) requests before

/-- **The records of an engine are kept in order**, whatever was requested of it before.  This
holds of all requests at once, to any depth of nesting: those of the list, those that follow,
and those that tools and the handler make meanwhile. -/
theorem orderly_serve (depth : Nat) (requests : List Request) :
    u.Orderly depth (u.serve depth requests {}) := by
  have heeds := u.heeds_serve depth requests
  have spares (asks : u.AsksOnly Request.Spares) : (u.serve depth requests {}).Spared none :=
    u.spared_serve asks depth requests ⟨⟨rfl, fun _ => rfl⟩, rfl⟩
  generalize reached : u.serve depth requests {} = e at heeds spares
  have rests (more : List Request) (id : ExecutionId) : ((u.serve depth more e).standing id).AtRest
      u id (u.StartedWith depth (requests ++ more) id) := by
    rw [← reached, ← serve_append]
    exact u.atRest_serve depth _ id
  refine
    { responds := fun id r => ⟨u.isSome_respond_iff r, u.respond_of_not_waits r⟩
      suspends := fun id waits r ends more =>
        u.suspensions_lt heeds (rests [] id) waits ends more (rests _ id)
      cancels := fun id => u.cancel_eq_true_iff
      rests := fun lasts record listed => u.abandoned_of_running (rests [] _) listed lasts
      spares := fun asks more => (u.spared_serve asks depth more (spares asks)).spared
      final := fun record listed halted more record' =>
        u.eq_of_isOver heeds (rests [] _) listed halted more
      stays := fun retains more retained id =>
        u.keeps_serve_of_stable depth (Engine.stable_isRegistered id) retains more retained
      gone := ?_
      cleans := u.answer_cleanup
      agrees := ?_ }
  · intro id registered more gone
    have begun := u.begun_of_isRegistered (rests [] id) registered
    have still := u.keeps_serve_of_stable depth (Engine.stable_started (id.number + 1))
      (u.asksOnly_of_forall fun _ => trivial) more (fun _ _ => trivial) begun
    have heeds := u.keeps_serve depth (u.keeps_heeds_answering (depth + 1)) more heeds
    exact u.not_isRegistered_serve heeds still gone
  · rintro r drives x e' answer lasts handsOff
    obtain rfl : (u.answer (u.host depth) r e).2 = e' := congrArg Prod.snd answer
    have answered := congrArg Prod.fst answer
    have shown := u.state_eq_of_answer heeds (rests [] x.id) drives answered lasts handsOff
    refine ⟨shown, fun retains => ?_⟩
    have registered := u.isRegistered_answer retains drives answered
    obtain ⟨record, known⟩ := Option.isSome_iff_exists.mp registered
    show Answer.state (((u.answer (u.host depth) r e).2.record? x.id).map (·.state)) = _
    rw [known, Option.map_some, shown record (List.mem_of_find?_eq_some known)
      (Engine.id_of_record? known)]

end Setup

/-- A small run takes in one response, and no other after it. -/
theorem Setup.small_responds_once :
    (Setup.small.respond (Setup.small.host 0) ⟨0⟩ .approve
        (Setup.small.serve 0 [.begin] {})).1.isSome = true ∧
      ∀ r, Setup.small.respond (Setup.small.host 0) ⟨0⟩ r
          (Setup.small.serve 0 [.begin, .approve] {}) =
        (none, Setup.small.serve 0 [.begin, .approve] {}) := by
  have first := (Setup.small.orderly_serve 0 [.begin]).responds ⟨0⟩ .approve
  have later := (Setup.small.orderly_serve 0 [.begin, .approve]).responds ⟨0⟩
  refine ⟨first.1.mpr ⟨_, rfl, rfl⟩, fun r => (later r).2 ?_⟩
  rintro ⟨record, known, waiting⟩
  cases known
  cases waiting

/-- A small engine whose handler answers what a person is asked. -/
def Setup.attentive : Setup :=
  { Setup.small with
    handler := fun _ q => .request (.respond q.execution .approve) fun _ => .done () }

/-- **A run may be left running**: the time of the call is up within which it is driven.  And a
state that was returned may be out of date: the handler has answered meanwhile. -/
theorem Setup.not_forall_rests :
    (∃ record ∈ (Setup.hurrying.serve 1 [.hurry] {}).records,
        record.state.id = ⟨1⟩ ∧ record.state.status = .running) ∧
      (Setup.hurrying.serve 1 [.hurry] {}).trail.length < Setup.hurrying.budget ∧
      ∃ x y, (Setup.attentive.answer (Setup.attentive.host 1) .begin {}).1 = .state (some x) ∧
        x.status = .waiting ∧
        (Setup.attentive.answer (Setup.attentive.host 1) (.get x.id)
          (Setup.attentive.serve 1 [.begin] {})).1 = .state (some y) ∧
        y.status = .completed := by
  refine ⟨⟨_, List.mem_cons_of_mem _ List.mem_cons_self, rfl, rfl⟩, by decide, ?_⟩
  exact ⟨_, _, rfl, rfl, rfl, rfl⟩

end StepFlow
