import StepFlow.Engine.Requests
import StepFlow.Proofs.Execution.Hosts

/-!
# What an engine keeps

Requests nest: a tool that is called makes requests, which call tools.  So what a request
keeps is shown for all depths at once.  A property that every change of an engine keeps is
kept by every request (`Setup.keeps_answering_of_stable`) and by the hosts of its runs
(`Setup.keeps_host_of_stable`).

Time is limited within calls, and only there.  Whatever is done leaves the limit as it was, and
where there is none the time is never up (`Setup.keeps_heeds`).
-/

namespace StepFlow

/-! ### Activities -/

namespace Activity

variable {α : Type} {P Q : Request → Prop} {act : Activity α}

/-- **The requests of an activity** are as `P` says, whatever they are answered. -/
def Asks (P : Request → Prop) : Activity α → Prop
  | done _ => True
  | wait _ next => next.Asks P
  | request r next => P r ∧ ∀ a, (next a).Asks P

theorem Asks.mono (asks : act.Asks P) (implies : ∀ r, P r → Q r) : act.Asks Q := by
  induction act with
  | done => trivial
  | wait ms next ih => exact ih asks
  | request r next ih => exact ⟨implies r asks.1, fun a => ih a (asks.2 a)⟩

theorem asks_of_forall (all : ∀ r, P r) (act : Activity α) : act.Asks P := by
  induction act with
  | done => trivial
  | wait ms next ih => exact ih
  | request r next ih => exact ⟨all r, ih⟩

end Activity

namespace Engine

variable {α : Type} {answer : Request → Engine → Answer × Engine} {P : Request → Prop}
  {I : Engine → Prop} {e : Engine}

/-- An activity waits until it goes on, or the time is up. -/
theorem perform_wait (answer : Request → Engine → Answer × Engine) (ms : Nat) (next : Activity α)
    (e : Engine) : e.perform answer (.wait ms next) =
      if (e.elapse ms).expired then (none, e.elapse ms)
      else (e.elapse ms).perform answer next := rfl

/-- An activity goes on with the answer to its request, unless the time is up. -/
theorem perform_request (answer : Request → Engine → Answer × Engine) (r : Request)
    (next : Answer → Activity α) (e : Engine) : e.perform answer (.request r next) =
      if (answer r e).2.expired then (none, (answer r e).2)
      else ((answer r e).2.note (.answered (answer r e).1)).perform answer
        (next (answer r e).1) := rfl

/-- **An activity keeps** what is kept while time passes and when requests are answered.  They
are answered only while there is time. -/
theorem keeps_perform (elapses : ∀ ms e, I e → I (e.elapse ms))
    (answers : ∀ r e, P r → e.expired = false → I e → I (answer r e).2)
    (notes : ∀ a e, I e → I (e.note (.answered a))) {act : Activity α} (asks : act.Asks P)
    (timely : e.expired = false) (before : I e) : I (e.perform answer act).2 := by
  induction act generalizing e with
  | done a => exact before
  | wait ms next ih =>
    have later := elapses ms e before
    rw [perform_wait]
    split
    · exact later
    · rename_i still
      exact ih asks (eq_false_of_ne_true still) later
  | request r next ih =>
    have answered := answers r e asks.1 timely before
    rw [perform_request]
    split
    · exact answered
    · rename_i still
      exact ih _ (asks.2 _) (eq_false_of_ne_true still) (notes _ _ answered)

/-! ### What is done when the time is up -/

theorem attend_of_expired (late : e.expired = true) (id : ExecutionId) (act : Engine → Engine) :
    e.attend id act = e.abandon id := if_pos late

theorem attend_of_timely (timely : e.expired = false) (id : ExecutionId) (act : Engine → Engine) :
    e.attend id act = act e := by
  unfold attend
  rw [timely, if_neg Bool.false_ne_true]

theorem keeps_attend {id : ExecutionId} {act : Engine → Engine}
    (abandons : e.expired = true → I e → I (e.abandon id))
    (acts : e.expired = false → I e → I (act e)) (before : I e) : I (e.attend id act) := by
  unfold attend
  split
  · rename_i late
    exact abandons late before
  · rename_i timely
    exact acts (eq_false_of_ne_true timely) before

@[simp] theorem expired_setAside (e : Engine) (listens : Bool) (q : HumanRequest) :
    (e.setAside listens q).expired = e.expired := by
  cases listens <;> rfl

@[simp] theorem limit_setAside (e : Engine) (listens : Bool) (q : HumanRequest) :
    (e.setAside listens q).limit = e.limit := by
  cases listens <;> rfl

/-- **The engine after a call.** -/
theorem call_snd_eq (tools : Toolbox) (c : Call) (timeout : UInt64) (e : Engine) :
    (e.call tools answer c timeout).2 =
      if e.expired then e.abandon c.purpose.execution
      else if tools.knows c.tool then
        (e.consult tools answer c (e.clock + timeout.toNat * 1000)).2.returning e
          (e.clock + timeout.toNat * 1000)
      else e := by
  unfold call
  split
  · rfl
  · split <;> rfl

/-- **A call keeps** what is kept when it is made in vain and when the tool is consulted. -/
theorem keeps_call {tools : Toolbox} {c : Call} {timeout : UInt64}
    (abandons : e.expired = true → I e → I (e.abandon c.purpose.execution))
    (consults : e.expired = false → tools.knows c.tool = true → I e → ∀ deadline,
      I ((e.consult tools answer c deadline).2.returning e deadline))
    (before : I e) : I (e.call tools answer c timeout).2 := by
  rw [call_snd_eq]
  split
  · rename_i late
    exact abandons late before
  · rename_i timely
    split
    · rename_i known
      exact consults (eq_false_of_ne_true timely) known before _
    · exact before

end Engine

/-! ### Changes -/

/-- **Every change of an engine keeps a property**, but those that time makes.  Removals may be
asked for only if `Asks` says so. -/
structure Engine.Robust (Asks : Request → Prop) (I : Engine → Prop) : Prop where
  note : ∀ entry e, I e → I (e.note entry)
  publish : ∀ x e, I e → I (e.publish x)
  setAside : ∀ listens q e, I e → I (e.setAside listens q)
  enlist : ∀ p x e, I e → I (e.enlist p x)
  flag : ∀ id e, I e → I (e.flag id)
  forget : ∀ id e, Asks (.remove id) → I e → I (e.forget id)
  forgetFinished : ∀ e, Asks .cleanup → I e → I e.forgetFinished

/-- **Every change of an engine keeps a property.** -/
structure Engine.Stable (Asks : Request → Prop) (I : Engine → Prop) : Prop
    extends Engine.Robust Asks I where
  timed : ∀ clock limit expired (e : Engine), I e → I { e with clock, limit, expired }
  abandon : ∀ id e, I e → I (e.abandon id)

theorem Engine.Stable.elapse {Asks : Request → Prop} {I : Engine → Prop}
    (stable : Engine.Stable Asks I) (ms : Nat) (e : Engine) (before : I e) : I (e.elapse ms) := by
  unfold Engine.elapse
  split
  · exact stable.timed _ _ _ e before
  · exact stable.timed _ _ _ e before

namespace Setup

variable (u : Setup) {Asks : Request → Prop} {I : Engine → Prop}

/-- How the requests are answered that are made meanwhile. -/
def answering : (depth : Nat) → Request → Engine → Answer × Engine
  | 0, _, e => (.refused .nestedTooDeeply, e)
  | depth + 1, r, e => u.answer (u.host depth) r e

theorem host_eq (depth : Nat) : u.host depth = u.hostAnswering (u.answering depth) := by
  cases depth <;> rfl

/-- While there is time, a state that is shown is written into its record. -/
theorem publish_host (depth : Nat) (x : Execution) {e : Engine} (timely : e.expired = false) :
    (u.host depth).publish x e = e.publish x := by
  rw [u.host_eq]
  exact Engine.attend_of_timely timely x.id fun e => e.publish x

/-- While there is time, what happens is told. -/
theorem emit_host (depth : Nat) (id : ExecutionId) (event : Event) {e : Engine}
    (timely : e.expired = false) :
    (u.host depth).emit id event e = e.note (.happened id event) := by
  rw [u.host_eq]
  exact Engine.attend_of_timely timely id fun e => e.note (.happened id event)

/-- **The requests that are made meanwhile**, by tools and by the handler, are as `Asks` says. -/
structure AsksOnly (Asks : Request → Prop) : Prop where
  tools : ∀ calls c, (u.tools.reply calls c).Asks Asks
  handler : ∀ calls q, (u.handler calls q).Asks Asks

theorem asksOnly_of_forall (all : ∀ r, Asks r) : u.AsksOnly Asks where
  tools _ _ := Activity.asks_of_forall all _
  handler _ _ := Activity.asks_of_forall all _

theorem keeps_answer_of_robust (robust : Engine.Robust Asks I) {h : Host Engine} (keeps : h.Keeps I)
    (r : Request) {e : Engine} (asked : Asks r) (before : I e) : I (u.answer h r e).2 := by
  cases r with
  | start p initial =>
    exact keeps.run _ _ _ _ (keeps.emit _ _ _ (robust.enlist _ _ _ before))
  | respond id response =>
    show I (u.respond h id response e).2
    unfold respond
    split
    · exact before
    · split
      · exact keeps.run _ _ _ _ (keeps.emit _ _ _ (robust.publish _ _ before))
      · exact before
  | cancel id =>
    have flagged := robust.flag id e before
    show I (u.cancel h id e).2
    unfold cancel
    split
    · exact before
    · split
      · exact before
      · split
        · exact keeps.finish _ _ _ (robust.publish _ _ flagged)
        · exact flagged
  | remove id => exact robust.forget id e asked before
  | cleanup => exact robust.forgetFinished e asked before
  | get | list | malformed => exact before

/-! ### What every change keeps -/

theorem keeps_of_stable (stable : Engine.Stable Asks I) (asks : u.AsksOnly Asks)
    {answer : Request → Engine → Answer × Engine}
    (kept : ∀ r e, Asks r → I e → I (answer r e).2) : (u.hostAnswering answer).Keeps I := by
  have performed {α : Type} {act : Activity α} (asks : act.Asks Asks) {e : Engine}
      (timely : e.expired = false) (before : I e) : I (e.perform answer act).2 :=
    Engine.keeps_perform stable.elapse (fun r e asked _ => kept r e asked)
      (fun a e => stable.note _ e) asks timely before
  constructor
  case call =>
    intro c timeout e before
    refine Engine.keeps_call (fun _ => stable.abandon _ _) (fun timely _ before deadline => ?_)
      before
    exact stable.timed _ _ _ _ (performed (asks.tools _ _) timely
      (stable.timed _ _ _ _ (stable.note _ _ before)))
  case emit =>
    intro id event e before
    show I (e.attend id fun e => e.note (.happened id event))
    exact Engine.keeps_attend (fun _ => stable.abandon _ _) (fun _ => stable.note _ _) before
  case pause =>
    intro ms e before
    show I (if e.expired then e else _)
    split
    · exact before
    · exact stable.elapse _ e before
  case publish =>
    intro x e before
    show I (e.attend x.id fun e => e.publish x)
    exact Engine.keeps_attend (fun _ => stable.abandon _ _) (fun _ => stable.publish _ _) before
  case ask =>
    intro q e before
    show I (e.attend q.execution fun e =>
      (Engine.perform answer (u.handler e.calls q) (e.setAside u.listens q)).2)
    refine Engine.keeps_attend (fun _ => stable.abandon _ _) (fun timely before => ?_) before
    refine performed (asks.handler _ _) ?_ (stable.setAside _ _ _ before)
    rw [Engine.expired_setAside]
    exact timely

/-- **What every change keeps, every request keeps**, at any depth of nesting. -/
theorem keeps_answering_of_stable (stable : Engine.Stable Asks I) (asks : u.AsksOnly Asks)
    (depth : Nat) (r : Request) (e : Engine) (asked : Asks r) (before : I e) :
    I (u.answering depth r e).2 := by
  induction depth generalizing r e with
  | zero => exact before
  | succ depth ih =>
    refine u.keeps_answer_of_robust stable.toRobust ?_ r asked before
    rw [u.host_eq]
    exact u.keeps_of_stable stable asks ih

/-- **Hosts keep what every change keeps.** -/
theorem keeps_host_of_stable (stable : Engine.Stable Asks I) (asks : u.AsksOnly Asks)
    (depth : Nat) : (u.host depth).Keeps I := by
  rw [u.host_eq]
  exact u.keeps_of_stable stable asks (u.keeps_answering_of_stable stable asks depth)

/-- **When the time is up**, whatever is to be done for a run is left undone. -/
theorem keeps_of_late {answer : Request → Engine → Answer × Engine}
    (late : ∀ e, I e → e.expired = true) (abandons : ∀ id e, I e → I (e.abandon id)) :
    (u.hostAnswering answer).Keeps I := by
  have attends {e : Engine} (before : I e) (id : ExecutionId) (act : Engine → Engine) :
      I (e.attend id act) := by
    rw [Engine.attend_of_expired (late e before)]
    exact abandons id e before
  constructor
  case call =>
    intro c timeout e before
    show I (e.call u.tools answer c timeout).2
    rw [Engine.call_snd_eq, if_pos (late e before)]
    exact abandons _ e before
  case emit =>
    exact fun id event e before => attends before id fun e => e.note (.happened id event)
  case pause =>
    intro ms e before
    show I (if e.expired then e else _)
    rw [if_pos (late e before)]
    exact before
  case publish => exact fun x e before => attends before x.id fun e => e.publish x
  case ask =>
    exact fun q e before => attends before q.execution fun e =>
      (Engine.perform answer (u.handler e.calls q) (e.setAside u.listens q)).2

end Setup

/-! ### Limits -/

/-- **An engine has a limit**, and if there is none, then the time is not up. -/
structure Engine.Heeds (limit : Option Nat) (e : Engine) : Prop where
  same : e.limit = limit
  timely : limit = none → e.expired = false

namespace Engine

variable {limit : Option Nat} {e : Engine}

theorem robust_heeds (limit : Option Nat) : Robust (fun _ => True) (Heeds limit) where
  note _ _ h := ⟨h.same, h.timely⟩
  publish _ _ h := ⟨h.same, h.timely⟩
  setAside listens q e h := ⟨(e.limit_setAside listens q).trans h.same, by
    rw [expired_setAside]
    exact h.timely⟩
  enlist _ _ _ h := ⟨h.same, h.timely⟩
  flag _ _ h := ⟨h.same, h.timely⟩
  forget _ _ _ h := ⟨h.same, h.timely⟩
  forgetFinished _ _ h := ⟨h.same, h.timely⟩

theorem Heeds.abandon (heeds : e.Heeds limit) (id : ExecutionId) : (e.abandon id).Heeds limit :=
  ⟨heeds.same, heeds.timely⟩

/-- Where there is no limit, there is time. -/
theorem inTime_of_limit_eq_none (unlimited : e.limit = none) (t : Nat) : e.inTime t = true := by
  unfold inTime
  rw [unlimited]
  rfl

theorem inTime_iff {limit : Nat} (limited : e.limit = some limit) (t : Nat) :
    e.inTime t = true ↔ t ≤ limit := by
  unfold inTime
  rw [limited]
  exact decide_eq_true_iff

theorem elapse_of_inTime {ms : Nat} (inTime : e.inTime (e.clock + ms) = true) :
    e.elapse ms = { e with clock := e.clock + ms } := if_pos inTime

theorem elapse_of_not_inTime {ms : Nat} (late : ¬ e.inTime (e.clock + ms) = true) :
    e.elapse ms = { e with clock := e.limit.getD e.clock, expired := true } := if_neg late

theorem Heeds.elapse (heeds : e.Heeds limit) (ms : Nat) : (e.elapse ms).Heeds limit := by
  unfold Engine.elapse
  split
  · exact ⟨heeds.same, heeds.timely⟩
  · rename_i late
    refine ⟨heeds.same, fun unlimited => absurd ?_ late⟩
    exact inTime_of_limit_eq_none (heeds.same.trans unlimited) _

/-- A call leaves the limit as it was. -/
theorem Heeds.returning (heeds : e.Heeds limit) (after : Engine) (deadline : Nat) :
    (after.returning e deadline).Heeds limit := by
  refine ⟨heeds.same, fun unlimited => ?_⟩
  show (after.expired && !e.inTime deadline) = false
  rw [inTime_of_limit_eq_none (heeds.same.trans unlimited), Bool.not_true, Bool.and_false]

theorem Heeds.eq (heeds : e.Heeds none) : { e with limit := none, expired := false } = e := by
  obtain ⟨unlimited, timely⟩ := heeds
  have timely := timely rfl
  obtain ⟨_⟩ := e
  cases unlimited
  cases timely
  rfl

/-- The engine while a tool is consulted that has time until the deadline. -/
def consulting (e : Engine) (c : Call) (deadline : Nat) : Engine :=
  { e.note (.called c) with limit := some deadline }

/-- **A call where time is not limited** has its own limit only, and leaves none. -/
theorem call_of_heeds {answer : Request → Engine → Answer × Engine} {tools : Toolbox} {c : Call}
    (heeds : e.Heeds none) (known : tools.knows c.tool = true) (timeout : UInt64) :
    e.call tools answer c timeout =
      let came := (e.consulting c (e.clock + timeout.toNat * 1000)).perform answer
        (tools.reply e.calls c)
      (came.2.resultSince e (came.1.getD (.ofError (.timedOut timeout))),
        { came.2 with limit := none, expired := false }) := by
  obtain ⟨unlimited, timely⟩ := heeds
  have free (t : Nat) : e.inTime t = true := inTime_of_limit_eq_none unlimited t
  have begun (deadline : Nat) : (e.note (.called c)).within deadline = e.consulting c deadline := by
    unfold within
    rw [show (e.note (.called c)).inTime deadline = true from free deadline]
    rfl
  unfold call consult
  rw [timely rfl, if_neg Bool.false_ne_true, if_pos known]
  dsimp only
  rw [begun]
  unfold returning
  rw [free, unlimited, Bool.not_true, Bool.and_false]
  rfl

end Engine

namespace Setup

variable (u : Setup)

theorem keeps_heeds_hostAnswering {answer : Request → Engine → Answer × Engine}
    {limit : Option Nat} (kept : ∀ r e, e.Heeds limit → (answer r e).2.Heeds limit) :
    (u.hostAnswering answer).Keeps (Engine.Heeds limit) := by
  have robust := Engine.robust_heeds limit
  constructor
  case call =>
    intro c timeout e heeds
    exact Engine.keeps_call (fun _ heeds => heeds.abandon _)
      (fun _ _ heeds deadline => heeds.returning _ deadline) heeds
  case emit =>
    intro id event e heeds
    show Engine.Heeds limit (e.attend id fun e => e.note (.happened id event))
    exact Engine.keeps_attend (fun _ heeds => heeds.abandon _) (fun _ => robust.note _ _) heeds
  case pause =>
    intro ms e heeds
    show Engine.Heeds limit (if e.expired then e else _)
    split
    · exact heeds
    · exact heeds.elapse _
  case publish =>
    intro x e heeds
    show Engine.Heeds limit (e.attend x.id fun e => e.publish x)
    exact Engine.keeps_attend (fun _ heeds => heeds.abandon _) (fun _ => robust.publish _ _) heeds
  case ask =>
    intro q e heeds
    show Engine.Heeds limit (e.attend q.execution fun e =>
      (Engine.perform answer (u.handler e.calls q) (e.setAside u.listens q)).2)
    refine Engine.keeps_attend (fun _ heeds => heeds.abandon _) (fun timely heeds => ?_) heeds
    refine Engine.keeps_perform (P := fun _ => True) (fun ms _ heeds => heeds.elapse ms)
      (fun r e _ _ => kept r e) (fun a e => robust.note _ e)
      (Activity.asks_of_forall (fun _ => trivial) _) ?_ (robust.setAside _ _ _ heeds)
    rw [Engine.expired_setAside]
    exact timely

/-- **Whatever is requested, the limit stays as it was.** -/
theorem keeps_heeds_answering {limit : Option Nat} (depth : Nat) (r : Request) (e : Engine)
    (heeds : e.Heeds limit) : (u.answering depth r e).2.Heeds limit := by
  induction depth generalizing r e with
  | zero => exact heeds
  | succ depth ih =>
    refine u.keeps_answer_of_robust (Engine.robust_heeds limit) ?_ r trivial heeds
    rw [u.host_eq]
    exact u.keeps_heeds_hostAnswering ih

/-- Where time is not limited, a pause is made in full. -/
theorem pause_host (depth : Nat) (ms : UInt64) {e : Engine} (heeds : e.Heeds none) :
    (u.host depth).pause ms e = { e with clock := e.clock + ms.toNat } := by
  rw [u.host_eq]
  show (if e.expired then e else e.elapse ms.toNat) = _
  rw [if_neg (by rw [heeds.timely rfl]; exact Bool.false_ne_true),
    Engine.elapse_of_inTime (Engine.inTime_of_limit_eq_none heeds.same _)]

/-- **Whatever is done for a run, the limit stays as it was.** -/
theorem keeps_heeds (depth : Nat) (limit : Option Nat) :
    (u.host depth).Keeps (Engine.Heeds limit) := by
  rw [u.host_eq]
  exact u.keeps_heeds_hostAnswering (u.keeps_heeds_answering depth)

end Setup

/-! ### What abandons nothing -/

/-- A request that drives a run, which is then returned. -/
def Request.Drives (r : Request) : Prop :=
  (∃ p initial, r = .start p initial) ∨ ∃ id response, r = .respond id response

/-- A request for which nothing is done for a run: it neither drives nor cancels one. -/
def Request.Spares (r : Request) : Prop := ¬ r.Drives ∧ ∀ id, r ≠ .cancel id

/-- **No run was left**, within a limit. -/
structure Engine.Spared (limit : Option Nat) (e : Engine) : Prop extends Engine.Heeds limit e where
  spared : e.abandoned = []

namespace Engine

variable {limit : Option Nat} {e : Engine}

theorem robust_spared (limit : Option Nat) : Robust (fun _ => True) (Spared limit) where
  note _ _ h := { (robust_heeds limit).note _ _ h.toHeeds with spared := h.spared }
  publish _ _ h := { (robust_heeds limit).publish _ _ h.toHeeds with spared := h.spared }
  setAside listens q e h :=
    { (robust_heeds limit).setAside listens q e h.toHeeds with
      spared := by cases listens <;> exact h.spared }
  enlist _ _ _ h := { (robust_heeds limit).enlist _ _ _ h.toHeeds with spared := h.spared }
  flag _ _ h := { (robust_heeds limit).flag _ _ h.toHeeds with spared := h.spared }
  forget _ _ _ h := { (robust_heeds limit).forget _ _ trivial h.toHeeds with spared := h.spared }
  forgetFinished _ _ h :=
    { (robust_heeds limit).forgetFinished _ trivial h.toHeeds with spared := h.spared }

theorem Spared.elapse (h : e.Spared limit) (ms : Nat) : (e.elapse ms).Spared limit := by
  refine { h.toHeeds.elapse ms with spared := ?_ }
  unfold Engine.elapse
  split <;> exact h.spared

end Engine

namespace Setup

variable (u : Setup)

theorem abandoned_answering {r : Request} (spares : r.Spares) (depth : Nat) (e : Engine) :
    (u.answering depth r e).2.abandoned = e.abandoned := by
  cases depth with
  | zero => rfl
  | succ depth =>
    cases r with
    | start p initial => exact absurd (.inl ⟨p, initial, rfl⟩) spares.1
    | respond id response => exact absurd (.inr ⟨id, response, rfl⟩) spares.1
    | cancel id => exact absurd rfl (spares.2 id)
    | get | list | remove | cleanup | malformed => rfl

/-- **Where tools and the handler neither drive nor cancel runs, no run is left.** -/
theorem keeps_spared (spares : u.AsksOnly Request.Spares) (depth : Nat) :
    (u.host depth).Keeps (Engine.Spared none) := by
  have robust {limit : Option Nat} := Engine.robust_spared limit
  have performed {α : Type} {act : Activity α} (asks : act.Asks Request.Spares)
      {limit : Option Nat} {e : Engine} (timely : e.expired = false) (before : e.Spared limit) :
      (e.perform (u.answering depth) act).2.Spared limit := by
    refine Engine.keeps_perform (I := Engine.Spared limit) (fun ms e before => before.elapse ms)
      (fun r e asked _ before => ?_) (fun a e => robust.note _ e) asks timely before
    exact { u.keeps_heeds_answering depth r e before.toHeeds with
      spared := (u.abandoned_answering asked depth e).trans before.spared }
  have free {e : Engine} (before : e.Spared none) : e.expired = false := before.timely rfl
  rw [u.host_eq]
  constructor
  case call =>
    intro c timeout e before
    refine Engine.keeps_call (fun late => ?_) (fun timely _ before deadline => ?_) before
    · rw [free before] at late
      cases late
    · -- within the call there is a limit, which is taken back when it returns
      have within : ((e.note (.called c)).within deadline).Spared
          ((e.note (.called c)).within deadline).limit := ⟨⟨rfl, fun _ => timely⟩, before.spared⟩
      have consulted := performed (e := (e.note (.called c)).within deadline)
        (spares.tools e.calls c) timely within
      exact { before.toHeeds.returning _ deadline with spared := consulted.spared }
  case emit =>
    intro id event e before
    show Engine.Spared none (e.attend id fun e => e.note (.happened id event))
    rw [Engine.attend_of_timely (free before)]
    exact robust.note _ _ before
  case pause =>
    intro ms e before
    show Engine.Spared none (if e.expired then e else e.elapse ms.toNat)
    rw [free before, if_neg Bool.false_ne_true]
    exact before.elapse _
  case publish =>
    intro x e before
    show Engine.Spared none (e.attend x.id fun e => e.publish x)
    rw [Engine.attend_of_timely (free before)]
    exact robust.publish _ _ before
  case ask =>
    intro q e before
    show Engine.Spared none (e.attend q.execution fun e =>
      (Engine.perform (u.answering depth) (u.handler e.calls q) (e.setAside u.listens q)).2)
    rw [Engine.attend_of_timely (free before)]
    exact performed (spares.handler _ _) ((e.expired_setAside _ q).trans (free before))
      (robust.setAside _ _ _ before)

end Setup

end StepFlow
