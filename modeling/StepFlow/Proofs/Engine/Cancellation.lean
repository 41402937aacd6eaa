import StepFlow.Proofs.Engine.Lives
import StepFlow.Proofs.Engine.Moments
import StepFlow.Proofs.Engine.Registry
import StepFlow.Proofs.Execution.Cancellation
import StepFlow.Proofs.Execution.Traces

/-!
# Requests to cancel a run

A request to cancel a run can come at any moment, from within the calls of the run itself and
from within those of others, while a question is handled, and to any depth of nesting.  A run
that rests is cancelled only if it waits, and it fails at once.  A run that is driven is only
told to stop.  It is then in the middle of a call, and what it comes to is decided when the call
returns.

So two things are said.  Asked to stop during an attempt at a step, a run attempts nothing any
more, neither the same step nor another, and it never waits for a person again
(`Setup.no_attempt_after_cancel`).  And it ends by the cancellation, unless the result of this
very attempt ends it, or nobody is left to drive it on (`Setup.ends_after_cancel`).  The
exceptions are real: a run that is asked to stop during its last step completes, and one that is
left when the time is up stays as it was left (`Setup.not_forall_wasCancelled`).

What is load-bearing is `Setup.Calls.cases`, which says of every call of a run that rested
before what it is: an attempt, with an account of what follows if the flag is up when it
returns, or the hook of a run that is over.  Moments carry this to the request during which the
call was made (`Setup.Attempts.cancelled`), and from there past all requests that follow.
-/

namespace StepFlow

open Relation Execution

namespace Setup

variable {u : Setup} {id : ExecutionId} {Q R : Pipeline → Prop} {r : Request} {e e' t : Engine}
  {w : Course} {c : Made Engine} {q : HumanRequest} {m m' outer inner : Moment} {depth : Nat}

/-- **What is begun with for a run that rests.** -/
inductive Undertakes (u : Setup) (Q : Pipeline → Prop) (r : Request) (e : Engine) : Course → Prop
  | drive {p : Pipeline} {x : Execution} {d : List Deed} (of : Q p)
      (declared : ∀ q initial, r = .start q initial → p = q)
      (past : Chronicle u.settings u.tools.knows p false d x) (done : 0 < d.length)
      (attended : (e.standing x.id).Attended (Record.Drives p) d) :
      Undertakes u Q r e (.drive p u.budget x)
  | finish {p : Pipeline} {x : Execution} {d : List Deed} (halted : x.status.isOver = true)
      (attended : (e.standing x.id).Attended (· = ⟨p, x⟩) d) : Undertakes u Q r e (.finish p x)

theorem Begins.undertakes (begins : u.Begins r e w e')
    (rests : (e.standing w.run.id).AtRest u w.run.id Q) : u.Undertakes Q r e' w := by
  cases begins with
  | start p initial e =>
    obtain ⟨-, -, -, any⟩ := rests.unknown_of_not_begun (Nat.lt_irrefl _)
    refine .drive (any p) ?_ (.begins initial ⟨e.started⟩ e.now) Nat.one_pos
      (u.attended_start p initial rests)
    intro q initial same
    cases same
    rfl
  | @respond id e record r known waiting =>
    have same : ((record.state.respond u.settings.failOnUnroutedError record.pipeline r
        e.now).touch e.now).id = id :=
      (record.state.id_respond _ _ r _).trans (Engine.id_of_record? known)
    have rests : (e.standing id).AtRest u id Q := same ▸ rests
    obtain ⟨of, settled⟩ := rests.settled_of_waiting known waiting
    refine .drive of nofun (settled.chronicle.responds waiting r _ _) (Nat.succ_pos _) ?_
    rw [same]
    exact u.attended_respond r known settled
  | @cancel id e record known waiting =>
    have same : ((record.state.fail .cancelled).touch e.now).id = id := Engine.id_of_record? known
    have rests : (e.standing id).AtRest u id Q := same ▸ rests
    obtain ⟨-, settled⟩ := rests.settled_of_waiting known waiting
    refine .finish rfl (d := e.deeds id) ?_
    rw [same]
    exact u.attended_cancel known settled

/-- **What the engine remembers** of a run of `p` that is driven. -/
def remembered (id : ExecutionId) (p : Pipeline) (d : List Deed) (e : Engine) : Prop :=
  e.Tracks id (Record.Drives p) d

theorem remembers_drives (depth : Nat) (id : ExecutionId) (p : Pipeline) :
    (u.host depth).Remembers u.tools.knows id (remembered id p) :=
  u.remembers Record.Drives.not_waiting depth

/-- A state that is shown while the run goes on is remembered as well. -/
theorem remembered_publish (depth : Nat) {p : Pipeline} {y : Execution} {d : List Deed}
    (mine : y.id = id) (running : y.status = .running) (before : remembered id p d e) :
    remembered id p d ((u.host depth).publish y e) :=
  u.tracks_publish depth mine before (fun _ drives => ⟨drives.1, running⟩) fun _ drives => drives

/-- Whatever is done for a run, time does not come back. -/
theorem keeps_expired (depth : Nat) : (u.host depth).Keeps fun e => e.expired = true := by
  rw [u.host_eq]
  exact u.keeps_of_late (fun _ late => late) fun _ _ late => late

/-- **A run rests when a person is asked for it.** -/
theorem Inquires.atRest (inquires : u.Inquires m q t) (mine : q.execution = id)
    (asked : t.expired = false) (rests : (m.engine.standing id).AtRest u id Q)
    (implies : ∀ p, Q p → (∀ q initial, m.request = .start q initial → p = q) → R p) :
    (t.standing id).AtRest u id R := by
  obtain ⟨begins, stops, waiting⟩ := inquires
  rename_i depth budget r p x y e e' t
  have keeps := u.keeps_expired depth
  have still : y.id = x.id := Host.id_of_stop? u.settings p stops
  obtain rfl : x.id = id := still.symm.trans mine
  have timely : t.expired = false := by
    cases expired : t.expired with
    | false => rfl
    | true =>
      rw [keeps.emit y.id _ _ (keeps.publish y t expired)] at asked
      cases asked
  cases begins.undertakes rests with
  | @drive _ _ d of declared past done attended =>
    rcases (remembers_drives depth x.id p).run u.settings rfl
      (fun same running => remembered_publish depth same running) u.budget past
      (.timely attended) with ⟨y', t', d', stops', chronicle, -, tracks⟩ | ⟨_, goesOn, -⟩
    · cases stops.symm.trans stops'
      rw [← still] at tracks
      obtain ⟨-, settled⟩ := u.settled_of_waiting depth chronicle waiting timely tracks
      rw [← still]
      exact .settled rfl settled (implies p of declared)
    · rw [goesOn] at stops
      cases stops

/-- **A step is attempted** while a request is answered, for a run of `p` that is returned as `x`
when the request has been answered. -/
structure Attempts (u : Setup) (Q : Pipeline → Prop) (m : Moment) (c : Made Engine) (p : Pipeline)
    (x : Execution) : Prop where
  of : Q p
  declared : ∀ q initial, m.request = .start q initial → p = q
  answered : (u.answering m.depth m.request m.engine).1 = .state (some x)
  comes : (u.after m).ComesToRest u Q p x
  accounts : ∃ step v d, v.id = x.id ∧ Host.IsAttempt p (remembered x.id p) v step d c ∧
    (Engine.IsFlagged x.id (c.after (u.host (m.depth - 1))) → ∃ came,
      Host.TakesIn (u.host (m.depth - 1)) u.settings u.tools.knows (remembered x.id p) v step d c
        came ∧
      Host.Ends (u.host (m.depth - 1)) u.settings p came.1 came.2 (x, u.after m))

/-- **The calls of a run that rests**, made while there is time: attempts, and a hook that is
called for a run that is over. -/
theorem Calls.cases (called : u.Calls m c) (mine : c.call.purpose.execution = id)
    (timely : m.engine.expired = false) (going : c.state.expired = false)
    (rests : (m.engine.standing id).AtRest u id Q) :
    (∃ p x, x.id = id ∧ u.Attempts Q m c p x) ∨
      c.call.purpose = .hook id ∧ ∃ P d, (∀ r : Record, P r → r.state.status.isOver = true) ∧
        (c.state.standing id).Held P d := by
  obtain ⟨begins, made⟩ := called
  rename_i depth r e e' w
  obtain rfl := (Host.execution_of_mem_calls made).symm.trans mine
  have answered := begins.answer_eq timely depth
  cases begins.undertakes rests with
  | @drive p x d of declared past done attended =>
    have raises (s : Engine) (up : s.IsFlagged x.id) :
        (u.host depth).isCancelled x.id s = true := by
      rw [u.host_eq]
      exact List.contains_iff_mem.mpr up
    have keeps : (u.host depth).KeepsFor x.id (Engine.IsFlagged x.id) :=
      (u.keeps_flag depth).keepsFor x.id
    obtain ⟨still, comes⟩ :=
      u.comesToRest_run depth rfl (u.preserves_atRest depth) of past attended done
    have stands := ((remembers_drives depth x.id p).callOf_run raises keeps
      (remembered_publish depth) u.budget rfl (.timely attended) made).resolve_left
        List.not_mem_nil
    unfold complete at answered
    simp only at answered
    generalize (u.host depth).run u.settings p u.budget x e' = final
      at still comes stands answered
    obtain ⟨y, e''⟩ := final
    have left : u.after ⟨depth + 1, r, e⟩ = e'' := congrArg Prod.snd answered
    cases stands with
    | @attempt step v d' same attempt last =>
      refine .inl ⟨p, y, still, of, declared, congrArg Prod.fst answered, ?_, step, v, d', ?_⟩
      · rw [left]
        exact comes
      · rw [left, still]
        exact ⟨same, attempt, last⟩
    | @hook d' s halted called before shown =>
      have early : s.expired = false := by
        cases expired : s.expired with
        | false => rfl
        | true =>
          rw [shown, (u.keeps_expired depth).publish _ _ expired] at going
          cases going
      rw [u.publish_host depth y early] at shown
      have driven : (s.standing y.id).Attended (Record.Drives p) d' := by
        rw [still]
        exact before.attended early
      have written : ((s.publish y).standing y.id).Attended (· = ⟨p, y⟩) d' :=
        driven.publish fun r drives => by rw [drives.1]
      rw [still, ← shown] at written
      refine .inr ⟨called, _, d', ?_, written.toHeld⟩
      rintro r rfl
      exact halted
  | @finish p x d halted attended =>
    obtain ⟨hook, state⟩ := (Host.mem_log_finish made).resolve_left List.not_mem_nil
    refine .inr ⟨hook, _, d, ?_, state ▸ attended.toHeld⟩
    rintro r rfl
    exact halted

/-! ### Moments during an attempt -/

/-- A call during which requests are made is made while there is time. -/
theorem During.going (during : u.During outer c inner) : c.state.expired = false := by
  obtain ⟨-, first, opened, -⟩ := during
  exact (mem_opened_iff.mp opened).1

theorem During.timely (during : u.During outer c inner) : inner.engine.expired = false := by
  obtain ⟨called, first, opened, opens⟩ := during
  exact timely_of_opens opens (Opens.call called opened).timely

/-- **A run is held at every moment** that comes during one of its calls. -/
theorem During.exists_held (during : u.During outer c inner)
    (mine : c.call.purpose.execution = id) (timely : outer.engine.expired = false)
    (rests : (outer.engine.standing id).AtRest u id Q) :
    ∃ P d, (∀ r : Record, P r → r.state.status ≠ .waiting) ∧
      (inner.engine.standing id).Held P d := by
  rcases during.called.cases mine timely during.going rests with
    ⟨p, x, rfl, attempts⟩ | ⟨-, P, d, ended, held⟩
  · obtain ⟨step, v, d, -, attempt, -⟩ := attempts.accounts
    have held := (attempt.before.attended during.going).toHeld
    exact ⟨_, _, Record.Drives.not_waiting, during.held Record.Drives.not_waiting mine held⟩
  · have awake (r : Record) (h : P r) := Status.ne_waiting_of_isOver (ended r h)
    exact ⟨P, _, awake, during.held awake mine held⟩

/-- **Where a run rests that was not called for**, its pipeline is the one it was started with.
`m` was reached through questions and the calls of others. -/
theorem exists_atRest_of_away {depth : Nat} {requests : List Request}
    (away : ReflTransGen (u.OpensAway id) ⟨depth + 1, r, u.serve depth requests {}⟩ m) :
    ∃ Q, (m.engine.standing id).AtRest u id Q ∧
      ∀ p, Q p → (∀ q initial, m.request = .start q initial → p = q) →
        u.StartedWith depth (requests ++ [r]) id p := by
  have timely := u.expired_serve depth requests
  have rests := u.atRest_serve depth requests id
  have passes {Q : Pipeline → Prop} {m' : Moment} (away : ReflTransGen (u.OpensAway id) m' m)
      (timely : m'.engine.expired = false) (rests : (m'.engine.standing id).AtRest u id Q) :
      (m.engine.standing id).AtRest u id Q :=
    engine_of_away u.preserves_atRest (fun inquires mine _ asked rests =>
      inquires.atRest mine asked rests fun _ of _ => of) away timely rests
  rcases away.cases_head with rfl | ⟨next, first, later⟩
  · exact ⟨_, rests, fun p of declared =>
      u.startedWith_concat of fun q initial same _ => declared q initial same⟩
  by_cases fresh : ∃ q initial, r = .start q initial ∧
      id.number = (u.serve depth requests {}).started
  · -- the run is started by `r` itself, so a question of its own came first
    obtain ⟨q, initial, rfl, fresh⟩ := fresh
    cases first with
    | call called other =>
      obtain ⟨begins, made⟩ := called
      cases begins
      exact absurd (congrArg ExecutionId.mk fresh.symm)
        ((Host.execution_of_mem_calls made).symm.trans_ne other)
    | @question q' t inquires handled =>
      have mine : q'.execution = id := by
        obtain ⟨p, x, e', begins, same, -⟩ := inquires.exists_drive
        cases begins
        exact same.symm.trans (congrArg ExecutionId.mk fresh.symm)
      obtain ⟨asked, mem⟩ := mem_handled_iff.mp handled
      have known := inquires.atRest (R := u.StartedWith depth (requests ++ [.start q initial]) id)
        mine asked rests fun p of declared =>
          u.startedWith_concat of fun q initial same _ => declared q initial same
      have began : ((t.setAside u.listens q').standing id).AtRest u id
          (u.StartedWith depth (requests ++ [.start q initial]) id) := by
        rw [Engine.standing_setAside]
        exact known
      obtain ⟨timely, rests⟩ := (keeps_standing u.preserves_atRest).of_mem_moments mem
        ((t.expired_setAside _ q').trans asked) began
      exact ⟨_, passes later timely rests, fun p of _ => of⟩
  · refine ⟨_, passes away timely (rests.mono fun p of => ?_), fun p of _ => of⟩
    refine u.startedWith_concat of fun q initial same number => ?_
    exact absurd ⟨q, initial, same, number⟩ fresh

/-- **A moment at which a call of a run is made** was reached through questions and the calls of
others. -/
theorem away_of_calls {depth : Nat} {requests : List Request}
    (reached : u.Reaches depth requests r outer) (called : u.Calls outer c)
    (mine : c.call.purpose.execution = id) :
    ReflTransGen (u.OpensAway id) ⟨depth + 1, r, u.serve depth requests {}⟩ outer := by
  rcases away_or_during reached id with away | ⟨outer', c', away, during, mine'⟩
  · exact away
  · obtain ⟨Q, rests, -⟩ := exists_atRest_of_away away
    have timely := timely_of_opens (opens_of_away away) (u.expired_serve depth requests)
    obtain ⟨P, d, awake, held⟩ := during.exists_held mine' timely rests
    exact absurd mine (called.ne_of_held awake held)

/-- A run that is driven is asked to stop. -/
theorem cancel_of_drives {p : Pipeline} {d : List Deed} {h : Host Engine}
    (held : (e.standing id).Held (Record.Drives p) d) (registered : e.IsRegistered id) :
    u.cancel h id e = (true, e.flag id) := by
  obtain ⟨record, known⟩ := Option.isSome_iff_exists.mp registered
  have running := (held.records record (Engine.mem_standing_of_record? known)).2
  unfold cancel
  rw [known]
  simp only [running]
  rfl

/-- **A run that is asked to stop during an attempt** takes in the result, and ends. -/
theorem Attempts.cancelled {p : Pipeline} {x : Execution} {depth : Nat}
    (attempts : u.Attempts Q outer c p x)
    (during : u.During outer c ⟨depth + 1, .cancel x.id, e⟩)
    (mine : c.call.purpose.execution = x.id) (registered : e.IsRegistered x.id) :
    u.cancel (u.host depth) x.id e = (true, e.flag x.id) ∧ ∃ step v d came, v.id = x.id ∧
      Host.IsAttempt p (remembered x.id p) v step d c ∧
      e.deeds x.id = c.call.deeds u.tools.knows ++ d ∧
      Host.TakesIn (u.host (outer.depth - 1)) u.settings u.tools.knows (remembered x.id p) v step d
        c came ∧
      Host.Ends (u.host (outer.depth - 1)) u.settings p came.1 came.2 (x, u.after outer) := by
  obtain ⟨step, v, d, same, attempt, last⟩ := attempts.accounts
  have before := (attempt.before.attended during.going).toHeld
  have held := during.held Record.Drives.not_waiting mine before
  have granted := cancel_of_drives (u := u) (h := u.host depth) held registered
  have raised : (u.after ⟨depth + 1, .cancel x.id, e⟩).IsFlagged x.id := by
    show (u.cancel (u.host depth) x.id e).2.IsFlagged x.id
    rw [granted]
    exact List.mem_cons_self
  obtain ⟨came, takes, ends⟩ :=
    last (during.after_call_of_stable (Engine.stable_isFlagged x.id) raised)
  refine ⟨granted, step, v, d, came, same, attempt, ?_, takes, ends⟩
  obtain ⟨-, first, opened, -⟩ := during
  obtain ⟨-, known, -⟩ := mem_opened_iff.mp opened
  unfold Call.deeds
  rw [if_pos known]
  exact held.deeds

/-- **A run that is over closes, or it is left**, and it is held from then on. -/
theorem exists_held_of_settle {p : Pipeline} {z : Execution} {d : List Deed} (depth : Nat)
    (mine : z.id = id) (halted : z.status.isOver = true)
    (tracks : e.Tracks id (Record.Drives p) d) :
    ∃ P later done, (∀ r : Record, P r → r.Drives p ∨ z.status.isOver = true ∧ r = ⟨p, z⟩) ∧
      (∀ deed ∈ later, deed.IsClosing id) ∧ done <:+ later ++ d ∧
      (((u.host depth).settle u.settings p z e).standing id).Held P done := by
  subst mine
  cases expired : e.expired with
  | true =>
    obtain ⟨-, -, done, short, held⟩ := u.held_settle_of_late depth expired tracks
    exact ⟨_, [], done, fun r drives => .inl drives, nofun, short, held⟩
  | false =>
    have closing : ∀ deed ∈ Deed.told (.finished z.status) :: z.hooked u.tools.knows p,
        deed.IsClosing z.id :=
      List.forall_mem_cons.mpr ⟨trivial, z.isClosing_hooked _ p⟩
    have written : ((e.publish z).standing z.id).Attended (· = ⟨p, z⟩) d :=
      (tracks.attended expired).publish fun r drives => by rw [drives.1]
    have ended (r : Record) (same : r = ⟨p, z⟩) :
        r.Drives p ∨ z.status.isOver = true ∧ r = ⟨p, z⟩ := .inr ⟨halted, same⟩
    rw [Host.settle_of_isOver u.settings p halted, u.publish_host depth z expired]
    rcases u.finishes depth (e := e.publish z) halted expired written with
      finished | ⟨-, -, held⟩
    · exact ⟨_, _, _, ended, closing, List.suffix_refl _, finished.toHeld⟩
    · exact ⟨_, _, _, ended, closing, List.suffix_cons _ _, held⟩

/-- **A run that ends closes, or it is left**, and it is held from then on.  No more is done for it
than what closes it. -/
theorem exists_held_of_ends {p : Pipeline} {y : Execution} {d : List Deed} {depth : Nat}
    {final : Execution × Engine} (ends : Host.Ends (u.host depth) u.settings p y e final)
    (mine : y.id = id) (tracks : e.Tracks id (Record.Drives p) d) :
    ∃ P later done, (∀ r : Record, P r → r.Drives p ∨
        final.1.status.isOver = true ∧ r = ⟨p, final.1⟩) ∧
      (∀ deed ∈ later, deed.IsClosing id) ∧ done <:+ later ++ d ∧
      (final.2.standing id).Held P done := by
  cases ends with
  | settles halted now => exact exists_held_of_settle depth mine halted tracks
  | stops running start stop failed =>
    refine exists_held_of_settle depth ?_ ?_
      (remembered_publish depth (y := y.touch start) mine running tracks)
    · rw [failed]
      exact mine
    · rw [failed]
      rfl
  | cut now =>
    have left : (if (y.touch now).isRunning then (u.host depth).publish (y.touch now) e
        else e).Tracks id (Record.Drives p) d := by
      split
      · rename_i running
        exact remembered_publish depth mine (of_decide_eq_true running) tracks
      · exact tracks
    obtain ⟨done, short, held⟩ := left.exists_held
    exact ⟨_, [], done, fun r drives => .inl drives, nofun, short, held⟩

/-- What was done for a run at a moment stays done. -/
theorem deeds_suffix_of_opens (opens : ReflTransGen u.Opens m m')
    (timely : m.engine.expired = false) (id : ExecutionId) :
    m'.engine.deeds id <:+ (u.after m).deeds id := by
  have grown : m'.engine.trail <:+ (u.after m').trail :=
    u.keeps_answering_of_stable (Engine.stable_trail m'.engine.trail)
      (u.asksOnly_of_forall fun _ => trivial) m'.depth m'.request m'.engine trivial
      (List.suffix_refl _)
  exact (after_of_stable (Engine.stable_trail m'.engine.trail) opens timely grown).filterMap _

/-- **A run that is held between requests** is held after all that follow. -/
theorem held_serve {P : Record → Prop} {d : List Deed} {depth : Nat} {requests : List Request}
    (awake : ∀ r, P r → r.state.status ≠ .waiting)
    (held : ((u.serve depth requests {}).standing id).Held P d) (more : List Request) :
    ((u.serve depth (requests ++ more) {}).standing id).Held P d := by
  rw [serve_append]
  exact u.preserves_serve depth (u.keeps_held awake (depth + 1)) more
    (u.heeds_serve depth requests) held

/-- **A run that is held when a moment is over** is held when the last request is answered, and
after all that follow. -/
theorem held_serve_of_away {P : Record → Prop} {d : List Deed} {depth : Nat}
    {requests : List Request} (awake : ∀ r, P r → r.state.status ≠ .waiting)
    (away : ReflTransGen (u.OpensAway id) ⟨depth + 1, r, u.serve depth requests {}⟩ m)
    (held : ((u.after m).standing id).Held P d) (more : List Request) :
    ((u.serve depth (requests ++ r :: more) {}).standing id).Held P d := by
  rw [List.append_cons]
  refine held_serve awake ?_ more
  rw [serve_concat]
  exact after_of_away (u.keeps_held awake) away (u.expired_serve depth requests) held

/-- **A run that is asked to stop while a step is attempted does nothing more but end.**  This is
so wherever the attempt is made, whether or not its time is up in the end, and however deep the
request to cancel is nested in it, as long as the run is still registered.

The request is granted.  Whatever is requested later, the run does not wait for a person, and
all that is done for it from then on is to tell what the step came to, to call the hook and to
tell that it is finished.  No attempt follows, since each of them would be told before it is
made. -/
theorem no_attempt_after_cancel (u : Setup) (depth : Nat) (requests : List Request) (r : Request)
    {outer : Moment} {c : Made Engine} {id : ExecutionId} {step : String} {nested : Nat}
    {e : Engine} (reached : u.Reaches depth requests r outer)
    (during : u.During outer c ⟨nested + 1, .cancel id, e⟩)
    (attempt : c.call.purpose = .attempt id step) (registered : e.IsRegistered id) :
    (u.answering (nested + 1) (.cancel id) e).1 = .verdict true ∧
      ∀ more, ¬ (u.serve depth (requests ++ r :: more) {}).Waits id ∧
        ∃ later, (u.serve depth (requests ++ r :: more) {}).deeds id = later ++ e.deeds id ∧
          ∀ deed ∈ later, deed.IsClosing id := by
  have mine : c.call.purpose.execution = id := by rw [attempt]; rfl
  have away := away_of_calls reached during.called mine
  have timely := timely_of_opens reached (u.expired_serve depth requests)
  obtain ⟨Q, rests, -⟩ := exists_atRest_of_away away
  rcases during.called.cases mine timely during.going rests with ⟨p, x, rfl, attempts⟩ | ⟨hook, -⟩
  · obtain ⟨granted, step, v, d, came, same, -, deeds, takes, ends⟩ :=
      attempts.cancelled during mine registered
    obtain ⟨n, told, meets, taken⟩ := takes.meets
    obtain ⟨P, later, done, ways, closing, short, held⟩ :=
      exists_held_of_ends ends (meets.comesTo.id_eq.trans same) taken
    have awake (r : Record) (h : P r) : r.state.status ≠ .waiting := by
      rcases ways r h with drives | ⟨halted, rfl⟩
      · exact drives.not_waiting
      · exact Status.ne_waiting_of_isOver halted
    refine ⟨congrArg (fun came : Bool × Engine => Answer.verdict came.1) granted, fun more => ?_⟩
    have held' := held_serve_of_away awake away held more
    refine ⟨held'.not_waits awake, ?_⟩
    -- what is done is between what was done at the moment and that with all that closes the run
    obtain ⟨new, grown⟩ : e.deeds x.id <:+ done :=
      held.deeds ▸ deeds_suffix_of_opens during.opens timely x.id
    obtain ⟨undone, short⟩ := short
    rw [← deeds, ← grown, ← List.append_assoc, ← List.append_assoc] at short
    refine ⟨new, held'.deeds.trans grown.symm, fun deed mem => ?_⟩
    have listed : deed ∈ later ++ told :=
      List.append_cancel_right short ▸ List.mem_append_right undone mem
    rcases List.mem_append.mp listed with closes | tells
    · exact closing deed closes
    · exact meets.isClosing x.id deed tells
  · rw [attempt] at hook
    cases hook

/-- The meddled run is not attempted again, although its step has attempts left and a failure
leads to another step. -/
theorem meddled_no_attempt : ∃ c e,
    meddled.During ⟨3, .delegate, {}⟩ c ⟨1, .cancel ⟨0⟩, e⟩ ∧
      c.call.purpose = .attempt ⟨0⟩ "delegate" ∧ e.IsRegistered ⟨0⟩ ∧
      (meddled.answering 1 (.cancel ⟨0⟩) e).1 = .verdict true ∧
      ∀ more, ¬ (meddled.serve 2 (.delegate :: more) {}).Waits ⟨0⟩ ∧
        ∃ later, (meddled.serve 2 (.delegate :: more) {}).deeds ⟨0⟩ =
            later ++ e.deeds ⟨0⟩ ∧
          ∀ deed ∈ later, deed.IsClosing ⟨0⟩ := by
  obtain ⟨c, e, during, attempt, registered, -⟩ := meddled_during
  exact ⟨c, e, during, attempt, registered,
    meddled.no_attempt_after_cancel 2 [] .delegate .refl during attempt registered⟩

/-! ### How a run ends that was cancelled -/

/-- **A run has ended** as `x` when some requests have been answered, `r` the last: this is
where it is found, it was told last that it is finished, and no later request changes this. -/
structure EndsAs (u : Setup) (depth : Nat) (requests : List Request) (r : Request) (p : Pipeline)
    (x : Execution) : Prop extends u.Finds depth requests r p x where
  told : ∃ earlier, ∀ more, (u.serve depth (requests ++ r :: more) {}).deeds x.id =
    .told (.finished x.status) :: earlier
  stays : ∀ more, ∀ record ∈ (u.serve depth (requests ++ r :: more) {}).records,
    record.state.id = x.id → record = ⟨p, x⟩

/-- **A run stays as it is** when some requests have been answered, `r` the last: its record is
as `P` says, and no later request changes it or has anything done for the run. -/
structure StaysAs (u : Setup) (depth : Nat) (requests : List Request) (r : Request)
    (id : ExecutionId) (P : Pipeline → Execution → Prop) : Prop where
  found : ∀ record ∈ (u.serve depth (requests ++ [r]) {}).records, record.state.id = id →
    P record.pipeline record.state
  silent : ∀ more, (u.serve depth (requests ++ r :: more) {}).deeds id =
    (u.serve depth (requests ++ [r]) {}).deeds id
  stays : ∀ more, ∀ record ∈ (u.serve depth (requests ++ r :: more) {}).records,
    record.state.id = id → record ∈ (u.serve depth (requests ++ [r]) {}).records

/-- **A run of `p` has ended as `x` by the result of an attempt**, during which a moment came. -/
inductive EndsDuring (u : Setup) (depth : Nat) (requests : List Request) (r : Request)
    (id : ExecutionId) (m : Moment) (p : Pipeline) (x : Execution) : Prop
  | intro {outer : Moment} {c : Made Engine} {step : Step} {v y : Execution} {now : Instant}
      (reached : u.Reaches depth requests r outer) (during : u.During outer c m)
      (mine : v.id = id) (declared : p.step? v.current = some step)
      (called : c.call = v.attemptAt step)
      (ends : EndsBy u.settings.failOnUnroutedError step v
        (c.result (u.host (outer.depth - 1))) y) (come : x = y.touch now)

/-- **What a run has ended as that was cancelled at a moment**: as cancelled, or as the result left
it of the attempt during which the moment came. -/
def EndsFrom (u : Setup) (depth : Nat) (requests : List Request) (r : Request)
    (id : ExecutionId) (m : Moment) (p : Pipeline) (x : Execution) : Prop :=
  x.WasCancelled ∨ ¬ m.engine.Waits id ∧ u.EndsDuring depth requests r id m p x

/-- A run that is over and settled has told that it is finished, and nothing after that. -/
theorem exists_finished {p : Pipeline} {x : Execution} {s : Standing} (settled : s.Settled u p x)
    (halted : x.status.isOver = true) :
    ∃ earlier, s.deeds = .told (.finished x.status) :: earlier := by
  have chronicle := settled.chronicle
  generalize s.deeds = d at chronicle
  cases chronicle with
  | asks past waiting => exact absurd waiting (Status.ne_waiting_of_isOver halted)
  | finishes => exact ⟨_, rfl⟩

/-- The state of a run that is begun with is the one that the answer tells of. -/
theorem Begins.id_of_answer (begins : u.Begins r e w e') (timely : e.expired = false)
    {depth : Nat} {y : Execution}
    (answered : (u.answer (u.host depth) r e).1 = .state (some y)) : y.id = w.run.id := by
  rw [begins.answer_eq timely] at answered
  cases w with
  | drive p budget x =>
    cases answered
    exact Host.id_run _ _ _ _ _
  | finish p x => cases answered

/-- A question that opens a moment is not one that the handler only hands off. -/
theorem not_handsOff (handled : m' ∈ u.handled depth q t) : ¬ u.HandsOff := by
  intro handsOff
  obtain ⟨-, mem⟩ := mem_handled_iff.mp handled
  have none {α : Type} {act : Activity α} {e : Engine} (asks : act.Asks fun _ => False) :
      m' ∉ u.moments depth act e := by
    induction act generalizing e with
    | done => exact List.not_mem_nil
    | wait ms next ih => exact fun mem => ih asks (mem_moments_wait.mp mem).2
    | request r next => exact asks.1.elim
  exact none (handsOff t.calls q) mem

/-- The state of a run for which a person is asked is the one that the answer tells of. -/
theorem Inquires.waiting_of_answer (inquires : u.Inquires m q t) (timely : m.engine.expired = false)
    {y : Execution}
    (answered : (u.answering m.depth m.request m.engine).1 = .state (some y)) :
    y.status = .waiting := by
  obtain ⟨begins, stops, waiting⟩ := inquires
  replace answered : (u.answer (u.host _) _ _).1 = _ := answered
  rw [begins.answer_eq timely] at answered
  unfold complete at answered
  simp only at answered
  rw [Host.run_of_stop? u.settings _ stops] at answered
  cases answered
  exact waiting

/-- **A run that was over at a moment has ended**, if only questions and calls of others led
there. -/
theorem endsAs_of_away {depth : Nat} {requests : List Request} {p : Pipeline} {x : Execution}
    (halted : x.status.isOver = true)
    (away : ReflTransGen (u.OpensAway x.id) ⟨depth + 1, r, u.serve depth requests {}⟩ m)
    (settled : ((u.after m).standing x.id).Settled u p x)
    (of : u.StartedWith depth (requests ++ [r]) x.id p)
    (answered : ∀ y, (u.answering m.depth m.request m.engine).1 = .state (some y) → y = x) :
    u.EndsAs depth requests r p x := by
  have awake : ∀ r : Record, r = ⟨p, x⟩ → r.state.status ≠ .waiting := by
    rintro r rfl
    exact Status.ne_waiting_of_isOver halted
  have held := held_serve_of_away awake away ⟨settled.begun, rfl, settled.records⟩
  have records (more : List Request) (record : Record)
      (listed : record ∈ (u.serve depth (requests ++ r :: more) {}).records)
      (same : record.state.id = x.id) : record = ⟨p, x⟩ :=
    (held more).records record (Engine.mem_standing_iff.mpr ⟨listed, same⟩)
  obtain ⟨earlier, told⟩ := exists_finished settled halted
  refine
    { registered := records []
      answered := fun y here same handsOff => ?_
      started := of
      told := ⟨earlier, fun more => (held more).deeds.trans told⟩
      stays := records }
  have timely := u.expired_serve depth requests
  rcases away.cases_head with rfl | ⟨next, first, -⟩
  · exact answered y here
  · cases first with
    | call called other =>
      -- another run was begun with, so the answer does not tell of this one
      obtain ⟨begins, made⟩ := called
      have driven := (Host.execution_of_mem_calls made).trans (begins.id_of_answer timely here).symm
      exact absurd (driven.trans same) other
    | question inquires handled =>
      exact absurd (handsOff (inquires.waiting_of_answer timely here)) (not_handsOff handled)

/-- **A run that is held when a moment is over stays** as it is held. -/
theorem staysAs_of_away {depth : Nat} {requests : List Request} {P : Record → Prop} {d : List Deed}
    {F : Pipeline → Execution → Prop} (awake : ∀ r, P r → r.state.status ≠ .waiting)
    (implies : ∀ r, P r → F r.pipeline r.state)
    (away : ReflTransGen (u.OpensAway id) ⟨depth + 1, r, u.serve depth requests {}⟩ m)
    (held : ((u.after m).standing id).Held P d) : u.StaysAs depth requests r id F := by
  have held := held_serve_of_away awake away held
  have here (record : Record) (listed : record ∈ (u.serve depth (requests ++ [r]) {}).records)
      (same : record.state.id = id) : P record :=
    (held []).records record (Engine.mem_standing_iff.mpr ⟨listed, same⟩)
  refine ⟨fun record listed same => implies record (here record listed same),
    fun more => (held more).deeds.trans (held []).deeds.symm, fun more record listed same => ?_⟩
  -- being one of the records that are there now is itself something that is held
  have stays := held_serve (P := fun record =>
      P record ∧ record ∈ (u.serve depth (requests ++ [r]) {}).records)
    (fun record h => awake record h.1) ⟨(held []).begun, rfl, fun record mem => ?_⟩ more
  · rw [List.append_cons] at listed
    exact (stays.records record (Engine.mem_standing_iff.mpr ⟨listed, same⟩)).2
  · obtain ⟨listed, same⟩ := Engine.mem_standing_iff.mp mem
    exact ⟨here record listed same, listed⟩

/-- What was left undone at a moment stays undone. -/
theorem abandoned_of_away {depth : Nat} {requests : List Request}
    (away : ReflTransGen (u.OpensAway id) ⟨depth + 1, r, u.serve depth requests {}⟩ m)
    (spared : id ∉ (u.serve depth (requests ++ [r]) {}).abandoned) :
    id ∉ (u.after m).abandoned := by
  intro abandoned
  rw [serve_concat] at spared
  exact spared (after_of_stable (Engine.stable_abandoned id) (opens_of_away away)
    (u.expired_serve depth requests) abandoned)

section Lasts

variable {depth nested : Nat} {requests : List Request}
  (lasts : (u.serve depth (requests ++ [r]) {}).trail.length < u.budget)

include lasts

/-- Where no run was cut off in the end, none was at any moment. -/
theorem not_isCut_of_opens (opens : u.Reaches depth requests r m) (id : ExecutionId) :
    ¬ (m.engine.standing id).IsCut u ∧ ¬ ((u.after m).standing id).IsCut u := by
  rw [serve_concat] at lasts
  have grown := after_of_stable (Engine.stable_trail (u.after m).trail) opens
    (u.expired_serve depth requests) (List.suffix_refl _)
  have before : m.engine.trail <:+ (u.after m).trail :=
    u.keeps_answering_of_stable (Engine.stable_trail m.engine.trail)
      (u.asksOnly_of_forall fun _ => trivial) m.depth m.request m.engine trivial
      (List.suffix_refl _)
  have shorter := Nat.lt_of_le_of_lt grown.length_le lasts
  exact ⟨u.not_isCut (Nat.lt_of_le_of_lt before.length_le shorter), u.not_isCut shorter⟩

/-- **A run that waits and is cancelled** fails at once. -/
theorem ends_of_waiting {record : Record}
    (away : ReflTransGen (u.OpensAway id) ⟨depth + 1, r, u.serve depth requests {}⟩
      ⟨nested + 1, .cancel id, e⟩)
    (known : e.record? id = some record) (waiting : record.state.status = .waiting)
    (settled : (e.standing id).Settled u record.pipeline record.state)
    (started : u.StartedWith depth (requests ++ [r]) id record.pipeline) :
    (id ∉ (u.serve depth (requests ++ [r]) {}).abandoned →
      ∃ p x, x.id = id ∧ u.EndsAs depth requests r p x ∧ x.WasCancelled) ∧
    u.StaysAs depth requests r id fun _ x => x.WasCancelled := by
  have reached := opens_of_away away
  have timely := timely_of_opens reached (u.expired_serve depth requests)
  have mine : ((record.state.fail .cancelled).touch e.now).id = id := Engine.id_of_record? known
  obtain ⟨d, held⟩ := u.held_cancel nested timely known waiting settled
  constructor
  · intro spared
    have spared := abandoned_of_away away spared
    have restsAs := (u.returns_cancel nested timely known waiting settled).restsAs
    rw [mine] at restsAs
    cases restsAs with
    | settled failed =>
      subst mine
      exact ⟨_, _, rfl, endsAs_of_away rfl away failed started nofun, wasCancelled_fail _ _⟩
    | cut cut => exact absurd cut (not_isCut_of_opens lasts reached id).2
    | left _ abandoned => exact absurd abandoned spared
  · refine staysAs_of_away ?_ ?_ away held
    · rintro r rfl
      nofun
    · rintro r rfl
      exact wasCancelled_fail _ _

/-- **A run that rests and is cancelled** fails at once, if it waits.  If it does not wait, it was
left before. -/
theorem ends_of_rests
    (away : ReflTransGen (u.OpensAway id) ⟨depth + 1, r, u.serve depth requests {}⟩
      ⟨nested + 1, .cancel id, e⟩)
    (granted : (u.cancel (u.host nested) id e).1 = true) :
    (id ∉ (u.serve depth (requests ++ [r]) {}).abandoned →
      ∃ p x, x.id = id ∧ u.EndsAs depth requests r p x ∧ x.WasCancelled) ∧
    u.StaysAs depth requests r id fun _ x =>
      x.WasCancelled ∨ ¬ e.Waits id ∧ x.status = .running := by
  obtain ⟨record, known, going⟩ := u.cancel_eq_true_iff.mp granted
  have listed := Engine.mem_standing_of_record? known
  obtain ⟨Q, rests, implies⟩ := exists_atRest_of_away away
  cases rests with
  | unknown _ _ absent =>
    rw [absent] at listed
    cases listed
  | @settled p x mine settled of =>
    cases settled.records record listed
    have waiting : x.status = .waiting := by
      cases status : x.status with
      | running => exact absurd status settled.chronicle.not_running
      | waiting => rfl
      | completed => rw [status] at going; cases going
      | failed => rw [status] at going; cases going
    obtain ⟨ends, stays⟩ :=
      ends_of_waiting lasts away known waiting settled (implies p of nofun)
    refine ⟨ends, { stays with found := fun record listed same => ?_ }⟩
    exact .inl (stays.found record listed same)
  | cut cut => exact absurd cut (not_isCut_of_opens lasts (opens_of_away away) id).1
  | @left p begun abandoned left of =>
    cases left with
    | driving mine past short records =>
      have held : (e.standing id).Held (Record.Drives p) (e.deeds id) := ⟨begun, rfl, records⟩
      have awake := held.not_waits Record.Drives.not_waiting
      have standing : (u.after ⟨nested + 1, .cancel id, e⟩).standing id = e.standing id :=
        u.standing_cancel_of_not_waits awake
      refine ⟨fun spared => ?_, staysAs_of_away Record.Drives.not_waiting
        (fun _ drives => .inr ⟨awake, drives.2⟩) away (standing ▸ held)⟩
      have abandoned : ((u.after ⟨nested + 1, .cancel id, e⟩).standing id).abandoned :=
        standing ▸ abandoned
      exact absurd abandoned (abandoned_of_away away spared)
    | finishing mine past halted done records =>
      rw [records record listed, halted] at going
      cases going

/-- **A run that is cancelled while it is called for** makes the call for a step, and ends by
the cancellation or by what comes of the call, if it is not left. -/
theorem ends_of_during
    (away : ReflTransGen (u.OpensAway id) ⟨depth + 1, r, u.serve depth requests {}⟩ outer)
    (during : u.During outer c ⟨nested + 1, .cancel id, e⟩)
    (mine : c.call.purpose.execution = id)
    (granted : (u.cancel (u.host nested) id e).1 = true) :
    (id ∉ (u.serve depth (requests ++ [r]) {}).abandoned →
      ∃ p x, x.id = id ∧ u.EndsAs depth requests r p x ∧
        u.EndsFrom depth requests r id ⟨nested + 1, .cancel id, e⟩ p x) ∧
    u.StaysAs depth requests r id fun p x =>
      u.EndsFrom depth requests r id ⟨nested + 1, .cancel id, e⟩ p x ∨
        ¬ e.Waits id ∧ x.status = .running := by
  have reached := opens_of_away away
  have timely := timely_of_opens reached (u.expired_serve depth requests)
  obtain ⟨record, known, going⟩ := u.cancel_eq_true_iff.mp granted
  obtain ⟨Q, rests, implies⟩ := exists_atRest_of_away away
  obtain ⟨P, d, awake, held⟩ := during.exists_held mine timely rests
  have sleepless := held.not_waits awake
  rcases during.called.cases mine timely during.going rests with
    ⟨p, x, rfl, attempts⟩ | ⟨-, P', d', ended, held'⟩
  · obtain ⟨-, step, v, d, came, same, attempt, -, takes, ends⟩ :=
      attempts.cancelled during mine (Option.isSome_of_mem known)
    obtain ⟨n, told, meets, taken⟩ := takes.meets
    have stops (stopped : x.status ≠ .running) :
        u.EndsFrom depth requests r x.id ⟨nested + 1, .cancel x.id, e⟩ p x := by
      refine (ends.wasCancelled_or takes stopped).imp_right ?_
      rintro ⟨ended, now, come⟩
      exact ⟨sleepless, .intro reached during same attempt.declared attempt.called ended come⟩
    constructor
    · intro spared
      have spared := abandoned_of_away away spared
      have returns := (attempts.comes.returns fun waiting =>
        absurd waiting (ends.awake takes.awake)).restsAs
      cases returns with
      | settled settled =>
        have ended := stops settled.chronicle.not_running
        have halted : x.status.isOver = true := by
          cases status : x.status with
          | running => exact absurd status settled.chronicle.not_running
          | waiting => exact absurd status (ends.awake takes.awake)
          | completed => rfl
          | failed => rfl
        refine ⟨p, x, rfl, endsAs_of_away halted away settled
          (implies p attempts.of attempts.declared) fun y here => ?_, ended⟩
        exact Option.some.inj (Answer.state.inj (here.symm.trans attempts.answered))
      | cut cut => exact absurd cut (not_isCut_of_opens lasts reached x.id).2
      | left _ abandoned => exact absurd abandoned spared
    · obtain ⟨P, later, done, ways, -, -, held⟩ :=
        exists_held_of_ends ends (meets.comesTo.id_eq.trans same) taken
      refine staysAs_of_away (fun r h => ?_) (fun r h => ?_) away held
      · rcases ways r h with drives | ⟨halted, rfl⟩
        · exact drives.not_waiting
        · exact Status.ne_waiting_of_isOver halted
      · rcases ways r h with drives | ⟨halted, rfl⟩
        · exact .inr ⟨sleepless, drives.2⟩
        · refine .inl (stops fun running => ?_)
          rw [running] at halted
          cases halted
  · -- the hook is called for a run that is over, which is not cancelled
    have awake (r : Record) (h : P' r) := Status.ne_waiting_of_isOver (ended r h)
    have held := during.held awake mine held'
    have halted := ended record (held.records record (Engine.mem_standing_of_record? known))
    rw [halted] at going
    cases going

end Lasts

/-- **A run that is cancelled ends by that, or by the step it was asked to stop in, unless it is
left.**  The request to cancel may come at any moment while `r` is answered, and it is enough
that it was granted.  No run may have been cut off by the budget.

A run that waits fails because it was cancelled.  A run that does not wait is in the middle of
an attempt, and it fails because it was cancelled unless the result of this attempt ends it.
Either way it is over, tells so last, and does not change any more.

If the time was up of a call within which the run was driven, something may have been left
undone for it, and then it need not be told to be finished.  In any case nothing is done for it
any more, and its record does not change.  This shows that it ended as said, or that it was left
running, but never the latter if the run was waiting when it was cancelled. -/
theorem ends_after_cancel (u : Setup) (depth : Nat) (requests : List Request) (r : Request)
    {id : ExecutionId} {nested : Nat} {e : Engine}
    (reached : u.Reaches depth requests r ⟨nested + 1, .cancel id, e⟩)
    (granted : (u.answering (nested + 1) (.cancel id) e).1 = .verdict true)
    (lasts : (u.serve depth (requests ++ [r]) {}).trail.length < u.budget) :
    (id ∉ (u.serve depth (requests ++ [r]) {}).abandoned →
      ∃ p x, x.id = id ∧ u.EndsAs depth requests r p x ∧
        u.EndsFrom depth requests r id ⟨nested + 1, .cancel id, e⟩ p x) ∧
    u.StaysAs depth requests r id fun p x =>
      u.EndsFrom depth requests r id ⟨nested + 1, .cancel id, e⟩ p x ∨
        ¬ e.Waits id ∧ x.status = .running := by
  have granted : (u.cancel (u.host nested) id e).1 = true := Answer.verdict.inj granted
  rcases away_or_during reached id with away | ⟨outer, c, away, during, mine⟩
  · obtain ⟨ends, left⟩ := ends_of_rests lasts away granted
    refine ⟨fun spared => ?_, { left with found := fun record listed same => ?_ }⟩
    · obtain ⟨p, x, same, ends, cancelled⟩ := ends spared
      exact ⟨p, x, same, ends, .inl cancelled⟩
    · exact (left.found record listed same).imp_left .inl
  · exact ends_of_during lasts away during mine granted

/-- The meddled run fails because it was cancelled. -/
theorem meddled_wasCancelled : ∃ e, meddled.Reaches 2 [] .delegate ⟨1, .cancel ⟨0⟩, e⟩ ∧
    (meddled.answering 1 (.cancel ⟨0⟩) e).1 = .verdict true ∧
    ∃ p x, x.id = ⟨0⟩ ∧ meddled.EndsAs 2 [] .delegate p x ∧ x.WasCancelled := by
  obtain ⟨c, e, during, -, -, granted⟩ := meddled_during
  have reached : meddled.Reaches 2 [] .delegate ⟨1, .cancel ⟨0⟩, e⟩ := during.opens
  obtain ⟨p, x, same, ends, -⟩ :=
    (meddled.ends_after_cancel 2 [] .delegate reached granted (by decide +kernel)).1
      (by decide +kernel)
  obtain ⟨y, answered, mine, cancelled⟩ : ∃ y, (meddled.answer (meddled.host 2)
      .delegate {}).1 = .state (some y) ∧ y.id = ⟨0⟩ ∧ y.WasCancelled :=
    ⟨_, rfl, rfl, rfl, rfl⟩
  have halted : y.status ≠ .waiting := by
    rw [cancelled.status]
    nofun
  obtain rfl := ends.answered y answered (mine.trans same.symm) fun waiting => absurd waiting halted
  exact ⟨e, reached, granted, p, y, same, ends, cancelled⟩

/-- **Not every run that is cancelled ends by that.**  One that is asked to stop during its last
step completes, although nothing was left undone for it.  And one that was left running does not
end at all. -/
theorem not_forall_wasCancelled :
    (¬ ∀ (u : Setup) (depth : Nat) (requests : List Request) (r : Request) (id : ExecutionId)
        (nested : Nat) (e : Engine),
      u.Reaches depth requests r ⟨nested + 1, .cancel id, e⟩ →
      (u.answering (nested + 1) (.cancel id) e).1 = .verdict true →
      (u.serve depth (requests ++ [r]) {}).trail.length < u.budget →
      id ∉ (u.serve depth (requests ++ [r]) {}).abandoned →
      ∃ p x, x.id = id ∧ u.EndsAs depth requests r p x ∧ x.WasCancelled) ∧
    ¬ ∀ (u : Setup) (depth : Nat) (requests : List Request) (r : Request) (id : ExecutionId)
        (nested : Nat) (e : Engine),
      u.Reaches depth requests r ⟨nested + 1, .cancel id, e⟩ →
      (u.answering (nested + 1) (.cancel id) e).1 = .verdict true →
      (u.serve depth (requests ++ [r]) {}).trail.length < u.budget →
      ∃ p x, x.id = id ∧ u.EndsAs depth requests r p x := by
  constructor
  · intro all
    obtain ⟨e, opens, granted⟩ := meddled_opens
    obtain ⟨p, x, same, ends, cancelled⟩ := all meddled 1 [] .meddle ⟨0⟩ 0 e (.single opens) granted
      (by decide +kernel) (by decide +kernel)
    obtain ⟨y, answered, mine, completed⟩ : ∃ y, (meddled.answer (meddled.host 1)
        .meddle {}).1 = .state (some y) ∧ y.id = ⟨0⟩ ∧ y.status = .completed := ⟨_, rfl, rfl, rfl⟩
    have halted : y.status ≠ .waiting := by
      rw [completed]
      nofun
    obtain rfl :=
      ends.answered y answered (mine.trans same.symm) fun waiting => absurd waiting halted
    cases completed.symm.trans cancelled.status
  · intro all
    have granted : (hurrying.cancel (hurrying.host 2) ⟨1⟩
        (hurrying.serve 2 [.hurry] {})).1 = true := by decide +kernel
    obtain ⟨p, x, same, ends⟩ := all hurrying 2 [.hurry] (.cancel ⟨1⟩) ⟨1⟩ 2 _ .refl
      (congrArg Answer.verdict granted) (by decide +kernel)
    obtain ⟨earlier, told⟩ := ends.told
    have last := congrArg List.head? (told [])
    rw [same] at last
    -- the last that was done for the run is its call, which is no event
    have called : (((hurrying.serve 2 [.hurry, .cancel ⟨1⟩] {}).deeds ⟨1⟩).head?.bind
        Deed.event?).isNone = true := by decide +kernel
    rw [show ((hurrying.serve 2 [.hurry, .cancel ⟨1⟩] {}).deeds ⟨1⟩).head? = _ from last] at called
    cases called

end Setup

end StepFlow
