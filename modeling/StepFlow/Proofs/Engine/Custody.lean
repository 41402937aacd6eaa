import Mathlib.Data.List.Induction
import StepFlow.Proofs.Engine.Standing

/-!
# Runs in the custody of the engine

While a run is driven, nobody else can do anything for it (`Setup.preserves_of_awake`): a response
is taken in only by a run that waits, and cancelling a running one only raises its flag.  When it
is not driven, it **rests** (`Standing.AtRest`): it was never started, or it is settled, and
the deeds in the trail are its chronicle.

Two things keep a run from being settled.  The time may be up of a call within which the run was
driven.  Then it is **left** where it was (`Standing.Left`): what was done for it is the beginning
of a chronicle, and nothing is ever added to it.  And the budget of a run is an artefact of its
definition by recursion.  A run that exceeds it is left where it was, too, but it has done at
least as much as the budget allows.  So wherever the trail is shorter than the budget, no run was
cut off; and requests that all come to an end do so within every budget that is large enough.

What is load-bearing is `Setup.exists_settled`: after any requests, every run that was started
and not abandoned is settled in a state in which the engine shows it.  Statements about records,
hooks and events are read off its chronicle.
-/

namespace StepFlow

open Execution

/-! ### Runs that are held -/

/-- **A run is held**: it was started, `d` was done for it, and every record of it is as `P`
says. -/
structure Standing.Held (P : Record → Prop) (d : List Deed) (s : Standing) : Prop where
  begun : s.begun
  deeds : s.deeds = d
  records : ∀ r ∈ s.records, P r

/-- **A run is attended to**: it is held, and nothing was left undone for it. -/
structure Standing.Attended (P : Record → Prop) (d : List Deed) (s : Standing) : Prop
    extends Standing.Held P d s where
  spared : ¬ s.abandoned

theorem Standing.Held.not_waits {P : Record → Prop} {d : List Deed} {e : Engine}
    {id : ExecutionId} (held : (e.standing id).Held P d)
    (awake : ∀ r, P r → r.state.status ≠ .waiting) : ¬ e.Waits id := by
  rintro ⟨record, known, waiting⟩
  exact awake record (held.records record (Engine.mem_standing_of_record? known)) waiting

/-- **The engine keeps track of a run** for which `d` was to be done.  All of it was done, or the
time was up and something was left undone. -/
inductive Engine.Tracks (e : Engine) (id : ExecutionId) (P : Record → Prop) (d : List Deed) : Prop
  | timely (attended : (e.standing id).Attended P d)
  | late {done : List Deed} (expired : e.expired = true) (left : (e.standing id).abandoned)
      (short : done <:+ d) (held : (e.standing id).Held P done)

namespace Engine

variable {e : Engine} {id : ExecutionId} {P : Record → Prop} {d d' : List Deed}

theorem Tracks.attended (tracks : e.Tracks id P d) (timely : e.expired = false) :
    (e.standing id).Attended P d := by
  cases tracks with
  | timely attended => exact attended
  | late expired =>
    rw [timely] at expired
    cases expired

/-- When the time is up, the run is held with a part of what was to be done. -/
theorem Tracks.exists_held (tracks : e.Tracks id P d) :
    ∃ done, done <:+ d ∧ (e.standing id).Held P done := by
  cases tracks with
  | timely attended => exact ⟨d, List.suffix_refl d, attended.toHeld⟩
  | late _ _ short held => exact ⟨_, short, held⟩

theorem held_abandon (held : (e.standing id).Held P d) :
    ((e.abandon id).standing id).Held P d := by
  rw [standing_abandon]
  exact ⟨held.begun, held.deeds, held.records⟩

/-- What was to be done is left undone. -/
theorem Tracks.abandon (tracks : e.Tracks id P d) (expired : e.expired = true) (more : d <:+ d') :
    (e.abandon id).Tracks id P d' := by
  obtain ⟨done, short, held⟩ := tracks.exists_held
  exact .late expired List.mem_cons_self (short.trans more) (held_abandon held)

/-- What is to be done is done, or left undone. -/
theorem Tracks.attend {Q : Record → Prop} {act : Engine → Engine} (tracks : e.Tracks id P d)
    (more : d <:+ d') (implies : ∀ r, P r → Q r)
    (acts : e.expired = false → (e.standing id).Attended P d → (act e).Tracks id Q d') :
    (e.attend id act).Tracks id Q d' := by
  cases expired : e.expired with
  | true =>
    rw [attend_of_expired expired]
    obtain ⟨done, short, held⟩ := tracks.exists_held
    refine .late expired List.mem_cons_self (short.trans more) (held_abandon ?_)
    exact { held with records := fun r hr => implies r (held.records r hr) }
  | false =>
    rw [attend_of_timely expired]
    exact acts expired (tracks.attended expired)

/-- What is told of a run that is attended to. -/
theorem attended_told (attended : (e.standing id).Attended P d) (event : Event) :
    ((e.note (.happened id event)).standing id).Attended P (.told event :: d) := by
  rw [standing_told]
  exact { attended with deeds := congrArg (.told event :: ·) attended.deeds }

end Engine

namespace Setup

variable (u : Setup) {id : ExecutionId} {J : Standing → Prop} {P : Record → Prop} {d : List Deed}
  {e : Engine}

/-- **A run that was started and does not wait stays as it is**, whatever is requested, until it is
removed. -/
theorem preserves_of_awake (drops : Standing.Drops J) (begun : ∀ s, J s → s.begun)
    (awake : ∀ s, J s → ∀ r ∈ s.records, r.state.status ≠ .waiting) (depth : Nat) :
    u.Preserves id J depth := by
  have sleepless {e : Engine} (before : J (e.standing id)) : ¬ e.Waits id := by
    rintro ⟨record, known, waiting⟩
    exact awake _ before record (Engine.mem_standing_of_record? known) waiting
  refine u.keeps_of_own drops ?_ ?_ ?_ depth
  · intro depth _ p initial e _ fresh before
    have started : id.number < e.started := begun _ before
    rw [fresh] at started
    exact absurd started (Nat.lt_irrefl _)
  · intro depth _ r e _ before
    rw [u.respond_of_not_waits r (sleepless before)]
    exact before
  · intro depth _ e _ before
    rw [u.standing_cancel_of_not_waits (sleepless before)]
    exact before

/-- **A run whose records do not wait is held**: whatever is requested, nothing is done for it,
and its records stay as they are or are removed. -/
theorem keeps_held (awake : ∀ r, P r → r.state.status ≠ .waiting) (depth : Nat) :
    u.Preserves id (Standing.Held P d) depth :=
  u.preserves_of_awake
    (fun _ _ held => { held with records := fun r hr => held.records r (List.mem_filter.mp hr).1 })
    (fun _ held => held.begun) (fun _ held r hr => awake r (held.records r hr)) depth

/-- Nothing is left undone by others. -/
theorem keeps_attended (awake : ∀ r, P r → r.state.status ≠ .waiting) (depth : Nat) :
    u.Preserves id (Standing.Attended P d) depth :=
  u.preserves_of_awake
    (fun _ _ held => { held with records := fun r hr => held.records r (List.mem_filter.mp hr).1 })
    (fun _ held => held.begun) (fun _ held r hr => awake r (held.records r hr)) depth

/-- **A call is a deed** of the run that makes it, whatever is requested meanwhile. -/
theorem attended_call (awake : ∀ r, P r → r.state.status ≠ .waiting) (depth : Nat) {c : Call}
    (timeout : UInt64) (mine : c.purpose.execution = id) (timely : e.expired = false)
    (attended : (e.standing id).Attended P d) :
    ((e.call u.tools (u.answering depth) c timeout).2.standing id).Attended P
      (c.deeds u.tools.knows ++ d) := by
  rw [Engine.call_snd_eq, timely, if_neg Bool.false_ne_true]
  unfold Call.deeds
  split
  · refine Engine.keeps_standing_consult (u.keeps_attended awake depth) _ c _ timely ?_
    rw [Engine.standing_called mine]
    exact { attended with deeds := congrArg (.called c :: ·) attended.deeds }
  · exact attended

/-- **The engine remembers** what is done for a run that it keeps track of. -/
theorem remembers (awake : ∀ r, P r → r.state.status ≠ .waiting) (depth : Nat) :
    (u.host depth).Remembers u.tools.knows id fun d e => e.Tracks id P d := by
  rw [u.host_eq]
  refine ⟨?_, ?_, ?_⟩
  · intro c timeout d e mine tracks
    show (e.call u.tools (u.answering depth) c timeout).2.Tracks id P _
    cases expired : e.expired with
    | true =>
      rw [Engine.call_snd_eq, expired, if_pos rfl, mine]
      exact tracks.abandon expired (List.suffix_append _ _)
    | false =>
      exact .timely (u.attended_call awake depth timeout mine expired (tracks.attended expired))
  · intro event d e tracks
    show (e.attend id fun e => e.note (.happened id event)).Tracks id P _
    exact tracks.attend (List.suffix_cons _ _) (fun _ same => same)
      fun _ attended => .timely (Engine.attended_told attended event)
  · intro ms d e tracks
    show (if e.expired then e else e.elapse ms.toNat).Tracks id P d
    split
    · exact tracks
    · rename_i timely
      have attended := tracks.attended (eq_false_of_ne_true timely)
      refine .timely ?_
      rw [Engine.standing_elapse]
      exact attended

/-- **When the time is up, nothing is done for a run any more.** -/
theorem keeps_left (depth : Nat) :
    (u.host depth).Keeps fun e =>
      e.expired = true ∧ (e.standing id).abandoned ∧ (e.standing id).Held P d := by
  rw [u.host_eq]
  refine u.keeps_of_late (fun _ left => left.1) ?_
  rintro id' e ⟨expired, abandoned, held⟩
  exact ⟨expired, List.mem_cons_of_mem id' abandoned, held.begun, held.deeds, held.records⟩

end Setup

/-- The record of a run of `p` that is driven. -/
def Record.Drives (p : Pipeline) (r : Record) : Prop :=
  r.pipeline = p ∧ r.state.status = .running

theorem Record.Drives.not_waiting {p : Pipeline} (r : Record) (drives : r.Drives p) :
    r.state.status ≠ .waiting := by
  intro waiting
  rw [drives.2] at waiting
  cases waiting

/-- Showing a state writes it into the records of its run. -/
theorem Standing.Attended.publish {P Q : Record → Prop} {d : List Deed} {e : Engine} {x : Execution}
    (attended : (e.standing x.id).Attended P d) (shown : ∀ r, P r → Q { r with state := x }) :
    ((e.publish x).standing x.id).Attended Q d := by
  rw [Engine.standing_publish rfl]
  refine { attended with records := ?_ }
  intro r hr
  obtain ⟨r', hr', rfl⟩ := List.mem_map.mp hr
  exact shown r' (attended.records r' hr')

/-! ### Runs at rest -/

/-- **A run is settled** as `x`: this is what its record says, and what was done for it is its
chronicle. -/
structure Standing.Settled (u : Setup) (p : Pipeline) (x : Execution) (s : Standing) : Prop where
  begun : s.begun
  chronicle : Chronicle u.settings u.tools.knows p true s.deeds x
  records : ∀ r ∈ s.records, r = ⟨p, x⟩
  spared : ¬ s.abandoned

/-- A run was cut off by its budget. -/
structure Standing.IsCut (u : Setup) (s : Standing) : Prop where
  begun : s.begun
  exhausted : u.budget ≤ s.deeds.length
  records : ∀ r ∈ s.records, r.state.status = .running

/-- **A run of `p` was left** where it was.  It was left while it was driven, and what was done for
it is the beginning of a chronicle; or its hook was called, and it was left before it was told to
be finished. -/
inductive Standing.Left (u : Setup) (p : Pipeline) (id : ExecutionId) (s : Standing) : Prop
  | driving {d : List Deed} {x : Execution} (mine : x.id = id)
      (past : Chronicle u.settings u.tools.knows p false d x) (short : s.deeds <:+ d)
      (records : ∀ r ∈ s.records, r.Drives p)
  | finishing {d : List Deed} {x : Execution} (mine : x.id = id)
      (past : Chronicle u.settings u.tools.knows p false d x) (halted : x.status.isOver = true)
      (done : s.deeds = x.hooked u.tools.knows p ++ d) (records : ∀ r ∈ s.records, r = ⟨p, x⟩)

/-- **A run rests** between the requests that concern it; its pipeline is as `Q` says. -/
inductive Standing.AtRest (u : Setup) (id : ExecutionId) (Q : Pipeline → Prop) (s : Standing) :
    Prop
  | unknown (unbegun : ¬ s.begun) (idle : s.deeds = []) (absent : s.records = [])
      (spared : ¬ s.abandoned) (any : ∀ p, Q p)
  | settled {p : Pipeline} {x : Execution} (mine : x.id = id) (h : s.Settled u p x) (of : Q p)
  | cut {p : Pipeline} (h : s.IsCut u) (of : Q p)
  | left {p : Pipeline} (begun : s.begun) (abandoned : s.abandoned) (h : s.Left u p id)
      (of : Q p)

/-- A run of `p` rests in the state in which it was returned, unless it was cut off or left. -/
inductive Standing.RestsAs (u : Setup) (p : Pipeline) (x : Execution) (s : Standing) : Prop
  | settled (h : s.Settled u p x)
  | cut (h : s.IsCut u)
  | left (begun : s.begun) (abandoned : s.abandoned) (h : s.Left u p x.id)

/-- **The handler only hands requests off**: it asks the engine for nothing. -/
def Setup.HandsOff (u : Setup) : Prop := ∀ calls q, (u.handler calls q).Asks fun _ => False

/-- **The engine returns from a run** of `p`, which rests as `x`.  If the run was left, the time is
up. -/
structure Engine.Returns (u : Setup) (p : Pipeline) (x : Execution) (e : Engine) : Prop where
  restsAs : (e.standing x.id).RestsAs u p x
  expired : (e.standing x.id).abandoned → e.expired = true

/-- **A run of `p` comes to rest**, in the state in which it was returned, unless it was returned
waiting and the handler had something done for it. -/
structure Engine.ComesToRest (u : Setup) (Q : Pipeline → Prop) (p : Pipeline) (x : Execution)
    (e : Engine) : Prop where
  atRest : (e.standing x.id).AtRest u x.id Q
  returns : (x.status = .waiting → u.HandsOff) → e.Returns u p x

namespace Standing

variable {u : Setup} {p : Pipeline} {x : Execution} {id : ExecutionId} {Q R : Pipeline → Prop}
  {s : Standing}

theorem Settled.filter (settled : s.Settled u p x) (keep : Record → Bool) :
    Settled u p x { s with records := s.records.filter keep } :=
  { settled with records := fun r hr => settled.records r (List.mem_filter.mp hr).1 }

theorem IsCut.filter (cut : s.IsCut u) (keep : Record → Bool) :
    IsCut u { s with records := s.records.filter keep } :=
  { cut with records := fun r hr => cut.records r (List.mem_filter.mp hr).1 }

theorem Left.filter (left : s.Left u p id) (keep : Record → Bool) :
    Left u p id { s with records := s.records.filter keep } := by
  cases left with
  | driving mine past short records =>
    exact .driving mine past short fun r hr => records r (List.mem_filter.mp hr).1
  | finishing mine past halted done records =>
    exact .finishing mine past halted done fun r hr => records r (List.mem_filter.mp hr).1

theorem Left.not_waiting (left : s.Left u p id) : ∀ r ∈ s.records, r.state.status ≠ .waiting := by
  intro r hr
  cases left with
  | driving _ _ _ records => exact (records r hr).not_waiting
  | finishing _ _ halted _ records =>
    rw [records r hr]
    exact Status.ne_waiting_of_isOver halted

theorem RestsAs.filter (rests : s.RestsAs u p x) (keep : Record → Bool) :
    RestsAs u p x { s with records := s.records.filter keep } := by
  cases rests with
  | settled h => exact .settled (h.filter keep)
  | cut h => exact .cut (h.filter keep)
  | left begun abandoned h => exact .left begun abandoned (h.filter keep)

theorem atRest_drops : Drops (AtRest u id Q) := by
  intro s keep rests
  cases rests with
  | unknown unbegun idle absent spared any =>
    exact .unknown unbegun idle (by rw [absent]; rfl) spared any
  | settled mine h of => exact .settled mine (h.filter keep) of
  | cut h of => exact .cut (h.filter keep) of
  | left begun abandoned h of => exact .left begun abandoned (h.filter keep) of

/-- Nothing is known of a run that was never started. -/
theorem AtRest.unknown_of_not_begun (rests : s.AtRest u id Q) (unbegun : ¬ s.begun) :
    s.deeds = [] ∧ s.records = [] ∧ ¬ s.abandoned ∧ ∀ p, Q p := by
  cases rests with
  | unknown _ idle absent spared any => exact ⟨idle, absent, spared, any⟩
  | settled _ h => exact absurd h.begun unbegun
  | cut h => exact absurd h.begun unbegun
  | left begun => exact absurd begun unbegun

theorem AtRest.mono (rests : s.AtRest u id Q) (implies : ∀ p, Q p → R p) : s.AtRest u id R := by
  cases rests with
  | unknown unbegun idle absent spared any =>
    exact .unknown unbegun idle absent spared fun p => implies p (any p)
  | settled mine h of => exact .settled mine h (implies _ of)
  | cut h of => exact .cut h (implies _ of)
  | left begun abandoned h of => exact .left begun abandoned h (implies _ of)

theorem RestsAs.atRest (rests : s.RestsAs u p x) (mine : x.id = id) (of : Q p) :
    s.AtRest u id Q := by
  cases rests with
  | settled h => exact .settled mine h of
  | cut h => exact .cut h of
  | left begun abandoned h => exact .left begun abandoned (mine ▸ h) of

/-- **A run that is registered rests** in the state of its record. -/
theorem AtRest.registered {e : Engine} {record : Record} (rests : (e.standing id).AtRest u id Q)
    (known : e.record? id = some record) :
    ∃ p, Q p ∧ (e.standing id).RestsAs u p record.state ∧
      (record.state.status = .waiting → record.pipeline = p ∧
        (e.standing id).Settled u p record.state) := by
  have listed := Engine.mem_standing_of_record? known
  cases rests with
  | unknown _ _ absent =>
    rw [absent] at listed
    cases listed
  | settled mine h of =>
    cases h.records record listed
    exact ⟨_, of, .settled h, fun _ => ⟨rfl, h⟩⟩
  | cut h of =>
    refine ⟨_, of, .cut h, fun waiting => ?_⟩
    rw [h.records record listed] at waiting
    cases waiting
  | left begun abandoned h of =>
    refine ⟨_, of, .left begun abandoned ?_, fun waiting => absurd waiting (h.not_waiting _ listed)⟩
    rw [Engine.id_of_record? known]
    exact h

/-- **A run that waits is settled** in the state of its record. -/
theorem AtRest.settled_of_waiting {e : Engine} {record : Record}
    (rests : (e.standing id).AtRest u id Q) (known : e.record? id = some record)
    (waiting : record.state.status = .waiting) :
    Q record.pipeline ∧ (e.standing id).Settled u record.pipeline record.state := by
  obtain ⟨p, of, -, settled⟩ := rests.registered known
  obtain ⟨rfl, settled⟩ := settled waiting
  exact ⟨of, settled⟩

theorem AtRest.waits {e : Engine} (rests : (e.standing id).AtRest u id Q) (waits : e.Waits id) :
    ∃ record, e.record? id = some record ∧ record.state.status = .waiting ∧
      Q record.pipeline ∧ (e.standing id).Settled u record.pipeline record.state := by
  obtain ⟨record, known, waiting⟩ := waits
  exact ⟨record, known, waiting, rests.settled_of_waiting known waiting⟩

end Standing

theorem Engine.Returns.comesToRest {u : Setup} {p : Pipeline} {x : Execution} {e : Engine}
    {Q : Pipeline → Prop} (returns : e.Returns u p x) (of : Q p) : e.ComesToRest u Q p x :=
  ⟨returns.restsAs.atRest rfl of, fun _ => returns⟩

namespace Setup

variable (u : Setup) {p : Pipeline} {x : Execution} {d : List Deed} {e : Engine}

/-- A run that is shown is still kept track of. -/
theorem tracks_publish (depth : Nat) {id : ExecutionId} {P Q : Record → Prop} (mine : x.id = id)
    (tracks : e.Tracks id P d) (shown : ∀ r, P r → Q { r with state := x })
    (implies : ∀ r, P r → Q r) : ((u.host depth).publish x e).Tracks id Q d := by
  subst mine
  rw [u.host_eq]
  show (e.attend x.id fun e => e.publish x).Tracks x.id Q d
  exact tracks.attend (List.suffix_refl _) implies
    fun _ attended => .timely (attended.publish shown)

/-- **A run that is over is finished**: its hook is called, and it is told to be finished, unless
the time is up when the hook returns. -/
theorem finishes (depth : Nat) (halted : x.status.isOver = true) (timely : e.expired = false)
    (attended : (e.standing x.id).Attended (· = ⟨p, x⟩) d) :
    let came := (u.host depth).finish u.settings p x e
    (came.standing x.id).Attended (· = ⟨p, x⟩)
        (.told (.finished x.status) :: (x.hooked u.tools.knows p ++ d)) ∨
      came.expired = true ∧ (came.standing x.id).abandoned ∧
        (came.standing x.id).Held (· = ⟨p, x⟩) (x.hooked u.tools.knows p ++ d) := by
  have awake : ∀ r : Record, r = ⟨p, x⟩ → r.state.status ≠ .waiting := by
    rintro r rfl
    exact Status.ne_waiting_of_isOver halted
  have called : (((u.host depth).callHook u.settings p x e).standing x.id).Attended (· = ⟨p, x⟩)
      (x.hooked u.tools.knows p ++ d) := by
    unfold Host.callHook hooked hookCall?
    cases Host.hookOf p x.status with
    | none => exact attended
    | some tool =>
      rw [u.host_eq]
      exact u.attended_call awake depth u.settings.timeout rfl timely attended
  unfold Host.finish
  generalize (u.host depth).callHook u.settings p x e = e' at called
  cases expired : e'.expired with
  | false =>
    rw [u.emit_host depth _ _ expired]
    exact .inl (Engine.attended_told called _)
  | true =>
    refine .inr ?_
    rw [u.host_eq]
    show (e'.attend x.id _).expired = true ∧ ((e'.attend x.id _).standing x.id).abandoned ∧
      ((e'.attend x.id _).standing x.id).Held _ _
    rw [Engine.attend_of_expired expired]
    exact ⟨expired, List.mem_cons_self, Engine.held_abandon called.toHeld⟩

/-- **A run that is over rests** as what it has come to. -/
theorem returns_finish (depth : Nat) (past : Chronicle u.settings u.tools.knows p false d x)
    (halted : x.status.isOver = true) (timely : e.expired = false)
    (attended : (e.standing x.id).Attended (· = ⟨p, x⟩) d) :
    ((u.host depth).finish u.settings p x e).Returns u p x := by
  rcases u.finishes depth halted timely attended with finished | ⟨expired, abandoned, held⟩
  · refine ⟨.settled ⟨finished.begun, ?_, finished.records, finished.spared⟩,
      fun abandoned => absurd abandoned finished.spared⟩
    rw [finished.deeds]
    exact past.finishes halted
  · exact ⟨.left held.begun abandoned (.finishing rfl past halted held.deeds held.records),
      fun _ => expired⟩

/-- **A run is held as it was left** if the time is up before it is settled. -/
theorem held_settle_of_late (depth : Nat) (expired : e.expired = true)
    (tracks : e.Tracks x.id (Record.Drives p) d) :
    let came := (u.host depth).settle u.settings p x e
    came.expired = true ∧ (came.standing x.id).abandoned ∧
      ∃ done, done <:+ d ∧ (came.standing x.id).Held (Record.Drives p) done := by
  obtain ⟨done, short, held⟩ := tracks.exists_held
  have shows : (u.host depth).publish x e = e.abandon x.id := by
    rw [u.host_eq]
    exact Engine.attend_of_expired expired x.id fun e => e.publish x
  have keeps : (u.host depth).Keeps fun e => e.expired = true ∧ (e.standing x.id).abandoned ∧
      (e.standing x.id).Held (Record.Drives p) done := u.keeps_left depth
  obtain ⟨late, abandoned, held⟩ := (keeps.keepsFor x.id).settle_of_publish u.settings p rfl
    (s := e) (by rw [shows]; exact ⟨expired, List.mem_cons_self, Engine.held_abandon held⟩)
  exact ⟨late, abandoned, done, short, held⟩

/-- **A run is left** if the time is up before it is settled. -/
theorem returns_settle_of_late (depth : Nat)
    (past : Chronicle u.settings u.tools.knows p false d x) (expired : e.expired = true)
    (tracks : e.Tracks x.id (Record.Drives p) d) :
    ((u.host depth).settle u.settings p x e).Returns u p x := by
  obtain ⟨late, abandoned, done, short, held⟩ := u.held_settle_of_late depth expired tracks
  exact ⟨.left held.begun abandoned (.driving rfl past (held.deeds ▸ short) held.records),
    fun _ => late⟩

/-- **A run that waits is settled** when it has shown its state and told what it waits for. -/
theorem settled_of_waiting (depth : Nat) (past : Chronicle u.settings u.tools.knows p false d x)
    (waiting : x.status = .waiting) (timely : e.expired = false)
    (tracks : e.Tracks x.id (Record.Drives p) d) :
    let asked := (u.host depth).emit x.id (.humanRequested x.current) ((u.host depth).publish x e)
    asked.expired = false ∧ (asked.standing x.id).Settled u p x := by
  have written : ((e.publish x).standing x.id).Attended (· = ⟨p, x⟩) d :=
    (tracks.attended timely).publish fun r drives => by rw [drives.1]
  have told := Engine.attended_told written (.humanRequested x.current)
  rw [u.publish_host depth x timely, u.emit_host depth _ _ (e := e.publish x) timely]
  refine ⟨timely, told.begun, ?_, told.records, told.spared⟩
  rw [told.deeds]
  exact past.asks waiting

/-- **A run that asks a person rests** as it asked, unless the handler has something done for
it. -/
theorem comesToRest_ask {Q : Pipeline → Prop} (depth : Nat)
    (preserves : u.Preserves x.id (Standing.AtRest u x.id Q) depth) (of : Q p)
    (waiting : x.status = .waiting) (timely : e.expired = false)
    (settled : (e.standing x.id).Settled u p x) (q : HumanRequest) :
    ((u.host depth).ask q e).ComesToRest u Q p x := by
  have filed : ((e.setAside u.listens q).standing x.id).Settled u p x := by
    rw [Engine.standing_setAside]
    exact settled
  have timely' : (e.setAside u.listens q).expired = false := (e.expired_setAside _ q).trans timely
  rw [u.host_eq]
  show (e.attend q.execution fun e => (Engine.perform (u.answering depth)
    (u.handler e.calls q) (e.setAside u.listens q)).2).ComesToRest u Q p x
  rw [Engine.attend_of_timely timely]
  refine ⟨Engine.keeps_standing_perform (P := fun _ => True)
    (Activity.asks_of_forall (fun _ => trivial) _) (fun r e _ => preserves r e) timely'
    (.settled rfl filed of), fun handsOff => ?_⟩
  have still : ((Engine.perform (u.answering depth) (u.handler e.calls q)
      (e.setAside u.listens q)).2.standing x.id).Settled u p x :=
    Engine.keeps_standing_perform (handsOff waiting _ _) (fun r e asked => asked.elim) timely' filed
  exact ⟨.settled still, fun abandoned => absurd abandoned still.spared⟩

/-- **A run that is driven to its end comes to rest.** -/
theorem comesToRest_settle {Q : Pipeline → Prop} (depth : Nat)
    (preserves : u.Preserves x.id (Standing.AtRest u x.id Q) depth) (of : Q p)
    (past : Chronicle u.settings u.tools.knows p false d x) (stopped : x.status ≠ .running)
    (tracks : e.Tracks x.id (Record.Drives p) d) :
    ((u.host depth).settle u.settings p x e).ComesToRest u Q p x := by
  cases expired : e.expired with
  | true => exact (u.returns_settle_of_late depth past expired tracks).comesToRest of
  | false =>
    cases status : x.status with
    | running => exact absurd status stopped
    | waiting =>
      obtain ⟨timely, settled⟩ := u.settled_of_waiting depth past status expired tracks
      rw [Host.settle_of_waiting u.settings p status]
      exact u.comesToRest_ask depth preserves of status timely settled _
    | completed | failed =>
      have halted : x.status.isOver = true := by rw [status]; rfl
      have written : ((e.publish x).standing x.id).Attended (· = ⟨p, x⟩) d :=
        (tracks.attended expired).publish fun r drives => by rw [drives.1]
      rw [Host.settle_of_isOver u.settings p halted, u.publish_host depth x expired]
      exact (u.returns_finish depth (e := e.publish x) past halted expired written).comesToRest of

/-- **A run that is driven comes to rest.** -/
theorem comesToRest_run {Q : Pipeline → Prop} (depth : Nat) {id : ExecutionId} (mine : x.id = id)
    (preserves : u.Preserves id (Standing.AtRest u id Q) depth) (of : Q p)
    (past : Chronicle u.settings u.tools.knows p false d x)
    (attended : (e.standing id).Attended (Record.Drives p) d) (done : 0 < d.length) :
    let came := (u.host depth).run u.settings p u.budget x e
    came.1.id = id ∧ came.2.ComesToRest u Q p came.1 := by
  intro came
  have still : came.1.id = id := (Host.id_run u.settings p u.budget x e).trans mine
  refine ⟨still, ?_⟩
  have remembers : (u.host depth).Remembers u.tools.knows id fun d e =>
      e.Tracks id (Record.Drives p) d := u.remembers Record.Drives.not_waiting depth
  have shows {y : Execution} {d : List Deed} {s : Engine} (same : y.id = id)
      (running : y.status = .running) (tracks : s.Tracks id (Record.Drives p) d) :
      ((u.host depth).publish y s).Tracks id (Record.Drives p) d :=
    u.tracks_publish depth same tracks (fun r drives => ⟨drives.1, running⟩) fun _ drives => drives
  rcases remembers.run u.settings mine shows u.budget past (.timely attended) with
    ⟨y, t, d', stops, chronicle, stopped, tracks⟩ | ⟨d', -, chronicle, tracks, least⟩
  · have settles : came = (y, (u.host depth).settle u.settings p y t) :=
      Host.run_of_stop? u.settings p stops
    rw [settles] at still ⊢
    rw [← still] at preserves tracks
    exact u.comesToRest_settle depth preserves of chronicle stopped tracks
  · refine Engine.Returns.comesToRest ?_ of
    rw [← still] at tracks
    cases tracks with
    | timely attended =>
      refine ⟨.cut ⟨attended.begun, ?_, fun r hr => (attended.records r hr).2⟩,
        fun abandoned => absurd abandoned attended.spared⟩
      rw [attended.deeds]
      omega
    | late expired abandoned short held =>
      exact ⟨.left held.begun abandoned (.driving rfl chronicle (held.deeds ▸ short) held.records),
        fun _ => expired⟩

/-- **A run that is started is attended to**, if nothing was known of it. -/
theorem attended_start (p : Pipeline) (initial : Table Value) {e : Engine} {Q : Pipeline → Prop}
    (rests : (e.standing ⟨e.started⟩).AtRest u ⟨e.started⟩ Q) :
    (((e.enlist p (.fresh p initial ⟨e.started⟩ e.now)).note
      (.happened ⟨e.started⟩ (.started p.id p.name))).standing ⟨e.started⟩).Attended
        (Record.Drives p) [.told (.started p.id p.name)] := by
  obtain ⟨idle, absent, spared, -⟩ := rests.unknown_of_not_begun (Nat.lt_irrefl _)
  rw [Engine.standing_told]
  refine ⟨⟨Nat.lt_succ_self _, congrArg (Deed.told _ :: ·) idle, fun r hr => ?_⟩, spared⟩
  -- the new record is the only one
  obtain ⟨listed, same⟩ := Engine.mem_standing_iff.mp hr
  rcases List.mem_append.mp listed with earlier | new
  · have known : r ∈ (e.standing ⟨e.started⟩).records :=
      Engine.mem_standing_iff.mpr ⟨earlier, same⟩
    rw [absent] at known
    cases known
  · cases List.mem_singleton.mp new
    exact ⟨rfl, rfl⟩

/-- **A run that is started comes to rest**, if nothing was known of it. -/
theorem comesToRest_start (depth : Nat) (p : Pipeline) (initial : Table Value) {e : Engine}
    {Q R : Pipeline → Prop}
    (preserves : u.Preserves ⟨e.started⟩ (Standing.AtRest u ⟨e.started⟩ Q) depth) (of : Q p)
    (timely : e.expired = false) (rests : (e.standing ⟨e.started⟩).AtRest u ⟨e.started⟩ R) :
    let came := u.start (u.host depth) p initial e
    came.1.id = ⟨e.started⟩ ∧ came.2.ComesToRest u Q p came.1 := by
  have begins : Chronicle u.settings u.tools.knows p false _
      (.fresh p initial ⟨e.started⟩ e.now) := .begins initial ⟨e.started⟩ e.now
  have tells := u.emit_host depth ⟨e.started⟩ (.started p.id p.name)
    (e := e.enlist p (.fresh p initial ⟨e.started⟩ e.now)) timely
  refine u.comesToRest_run depth rfl preserves of begins ?_ Nat.one_pos
  show (((u.host depth).emit ⟨e.started⟩ _ _).standing _).Attended _ _
  rw [tells]
  exact u.attended_start p initial rests

/-- **A run that is resumed is attended to**: it is claimed, and the response is told. -/
theorem attended_respond {id : ExecutionId} {record : Record} (r : HumanResponse)
    (known : e.record? id = some record)
    (settled : (e.standing id).Settled u record.pipeline record.state) :
    (((e.publish { record.state with status := .running }).note
      (.happened id (.humanReceived record.state.current r.approved))).standing id).Attended
        (Record.Drives record.pipeline)
        (.told (.humanReceived record.state.current r.approved) :: e.deeds id) := by
  obtain ⟨p, x⟩ := record
  have mine : x.id = id := Engine.id_of_record? known
  subst mine
  refine Engine.attended_told ?_ _
  exact Standing.Attended.publish (P := (· = ⟨p, x⟩)) (x := { x with status := .running })
    ⟨⟨settled.begun, rfl, settled.records⟩, settled.spared⟩ fun r same => ⟨by rw [same], rfl⟩

/-- **A run that is resumed comes to rest.** -/
theorem comesToRest_respond {Q : Pipeline → Prop} (depth : Nat) {id : ExecutionId} {record : Record}
    (r : HumanResponse) (preserves : u.Preserves id (Standing.AtRest u id Q) depth)
    (timely : e.expired = false) (known : e.record? id = some record)
    (waiting : record.state.status = .waiting) (of : Q record.pipeline)
    (settled : (e.standing id).Settled u record.pipeline record.state) :
    ∃ x, (u.respond (u.host depth) id r e).1 = some x ∧ x.id = id ∧
      (u.respond (u.host depth) id r e).2.ComesToRest u Q record.pipeline x := by
  have tells := u.emit_host depth id (.humanReceived record.state.current r.approved)
    (e := e.publish { record.state with status := .running }) timely
  rw [u.respond_of_waiting known waiting]
  refine ⟨_, rfl, u.comesToRest_run depth ?_ preserves of (settled.chronicle.responds waiting r _ _)
    ?_ (Nat.succ_pos _)⟩
  · exact (record.state.id_respond u.settings.failOnUnroutedError record.pipeline r _).trans
      (Engine.id_of_record? known)
  · rw [tells]
    exact u.attended_respond r known settled

/-- **A run that is cancelled while it waits is attended to** in the state in which it failed. -/
theorem attended_cancel {id : ExecutionId} {record : Record} (known : e.record? id = some record)
    (settled : (e.standing id).Settled u record.pipeline record.state) :
    (((e.flag id).publish ((record.state.fail .cancelled).touch e.now)).standing id).Attended
      (· = ⟨record.pipeline, (record.state.fail .cancelled).touch e.now⟩) (e.deeds id) := by
  obtain ⟨p, x⟩ := record
  have mine : x.id = id := Engine.id_of_record? known
  subst mine
  exact Standing.Attended.publish (P := (· = ⟨p, x⟩)) (x := (x.fail .cancelled).touch e.now)
    (e := e.flag x.id) ⟨⟨settled.begun, rfl, settled.records⟩, settled.spared⟩
    fun r same => by rw [same]

/-- **A run that is cancelled while it waits rests** as it failed. -/
theorem returns_cancel (depth : Nat) {id : ExecutionId} {record : Record}
    (timely : e.expired = false) (known : e.record? id = some record)
    (waiting : record.state.status = .waiting)
    (settled : (e.standing id).Settled u record.pipeline record.state) :
    (u.cancel (u.host depth) id e).2.Returns u record.pipeline
      ((record.state.fail .cancelled).touch e.now) := by
  obtain rfl : record.state.id = id := Engine.id_of_record? known
  rw [u.cancel_of_waiting known waiting]
  exact u.returns_finish depth (x := (record.state.fail .cancelled).touch e.now)
    (settled.chronicle.cancels waiting e.now) rfl timely (u.attended_cancel known settled)

/-- **A run that is cancelled while it waits is held** as it failed. -/
theorem held_cancel (depth : Nat) {id : ExecutionId} {record : Record}
    (timely : e.expired = false) (known : e.record? id = some record)
    (waiting : record.state.status = .waiting)
    (settled : (e.standing id).Settled u record.pipeline record.state) :
    ∃ d, ((u.cancel (u.host depth) id e).2.standing id).Held
      (· = ⟨record.pipeline, (record.state.fail .cancelled).touch e.now⟩) d := by
  obtain rfl : record.state.id = id := Engine.id_of_record? known
  rw [u.cancel_of_waiting known waiting]
  let x := (record.state.fail .cancelled).touch e.now
  rcases u.finishes depth (x := x) (e := (e.flag x.id).publish x) rfl timely
    (u.attended_cancel known settled) with finished | ⟨-, -, held⟩
  · exact ⟨_, finished.toHeld⟩
  · exact ⟨_, held⟩

/-! ### Requests, one after another -/

/-- **Every run rests again** after a request. -/
theorem preserves_atRest {id : ExecutionId} {Q : Pipeline → Prop} (depth : Nat) :
    u.Preserves id (Standing.AtRest u id Q) depth := by
  refine u.keeps_of_own Standing.atRest_drops ?_ ?_ ?_ depth
  · rintro depth preserves p initial e timely rfl rests
    obtain ⟨-, -, -, any⟩ := rests.unknown_of_not_begun (Nat.lt_irrefl _)
    obtain ⟨still, comes⟩ := u.comesToRest_start depth p initial preserves (any p) timely rests
    exact still ▸ comes.atRest
  · intro depth preserves r e timely rests
    by_cases waits : e.Waits id
    · obtain ⟨record, known, waiting, of, settled⟩ := rests.waits waits
      obtain ⟨x, -, still, comes⟩ :=
        u.comesToRest_respond depth r preserves timely known waiting of settled
      exact still ▸ comes.atRest
    · rw [u.respond_of_not_waits r waits]
      exact rests
  · intro depth preserves e timely rests
    by_cases waits : e.Waits id
    · obtain ⟨record, known, waiting, of, settled⟩ := rests.waits waits
      have found : ((record.state.fail .cancelled).touch e.now).id = id :=
        Engine.id_of_record? known
      exact found ▸ (u.returns_cancel depth timely known waiting settled).restsAs.atRest rfl of
    · rw [u.standing_cancel_of_not_waits waits]
      exact rests

/-- The state that a response returns is one of the run that was responded to. -/
theorem id_of_respond {h : Host Engine} {id : ExecutionId} {r : HumanResponse} {y : Execution}
    (returned : (u.respond h id r e).1 = some y) : y.id = id := by
  by_cases waits : e.Waits id
  · obtain ⟨record, known, waiting⟩ := waits
    rw [u.respond_of_waiting known waiting] at returned
    cases returned
    exact (Host.id_run _ _ _ _ _).trans
      ((record.state.id_respond _ _ _ _).trans (Engine.id_of_record? known))
  · rw [u.respond_of_not_waits r waits] at returned
    cases returned

/-- **The state that a request returns which drives a run** is the one in which the run rests,
unless it waits and the handler had something done for it. -/
theorem returns_answer (depth : Nat) {r : Request} (drives : r.Drives) {y : Execution}
    {Q : Pipeline → Prop} (timely : e.expired = false) (rests : (e.standing y.id).AtRest u y.id Q)
    (answered : (u.answer (u.host depth) r e).1 = .state (some y))
    (handsOff : y.status = .waiting → u.HandsOff) :
    ∃ p, Q p ∧ (u.answer (u.host depth) r e).2.Returns u p y ∧
      ∀ q initial, r = .start q initial → p = q := by
  rcases drives with ⟨p, initial, rfl⟩ | ⟨id, response, rfl⟩
  · have same : (u.start (u.host depth) p initial e).1 = y := by cases answered; rfl
    have fresh : y.id = ⟨e.started⟩ := by
      rw [← same]
      exact Host.id_run u.settings p u.budget _ _
    rw [fresh] at rests
    obtain ⟨-, -, -, any⟩ := rests.unknown_of_not_begun (Nat.lt_irrefl _)
    obtain ⟨-, comes⟩ :=
      u.comesToRest_start depth p initial (u.preserves_atRest depth) (any p) timely rests
    rw [same] at comes
    exact ⟨p, any p, comes.returns handsOff, fun q _ same => by cases same; rfl⟩
  · by_cases waits : e.Waits id
    · obtain rfl : y.id = id := u.id_of_respond (Answer.state.inj answered)
      obtain ⟨record, known, waiting, of, settled⟩ := rests.waits waits
      obtain ⟨x, returned, -, comes⟩ := u.comesToRest_respond depth response
        (u.preserves_atRest depth) timely known waiting of settled
      cases (Answer.state.inj answered).symm.trans returned
      exact ⟨record.pipeline, of, comes.returns handsOff, nofun⟩
    · have nothing : (u.respond (u.host depth) id response e).1 = none := by
        rw [u.respond_of_not_waits response waits]
      cases (Answer.state.inj answered).symm.trans nothing

/-- **A state that the engine answers with** is the one in which its run rests, unless the run
waits and the handler had something done for it. -/
theorem restsAs_answer (depth : Nat) {r : Request} {y : Execution} {Q : Pipeline → Prop}
    (timely : e.expired = false) (rests : (e.standing y.id).AtRest u y.id Q)
    (answered : (u.answer (u.host depth) r e).1 = .state (some y))
    (handsOff : y.status = .waiting → u.HandsOff) :
    ∃ p, Q p ∧ ((u.answer (u.host depth) r e).2.standing y.id).RestsAs u p y ∧
      ∀ q initial, r = .start q initial → p = q := by
  have driven (drives : r.Drives) : ∃ p, Q p ∧
      ((u.answer (u.host depth) r e).2.standing y.id).RestsAs u p y ∧
        ∀ q initial, r = .start q initial → p = q := by
    obtain ⟨p, of, returns, same⟩ := u.returns_answer depth drives timely rests answered handsOff
    exact ⟨p, of, returns.restsAs, same⟩
  cases r with
  | start p initial => exact driven (.inl ⟨p, initial, rfl⟩)
  | respond id response => exact driven (.inr ⟨id, response, rfl⟩)
  | get id =>
    obtain ⟨record, known, rfl⟩ := Option.map_eq_some_iff.mp (Answer.state.inj answered)
    have found := Engine.id_of_record? known
    subst found
    obtain ⟨p, of, restsAs, -⟩ := rests.registered known
    exact ⟨p, of, restsAs, nofun⟩
  | remove id =>
    obtain ⟨record, known, rfl⟩ := Option.map_eq_some_iff.mp (Answer.state.inj answered)
    have found := Engine.id_of_record? known
    subst found
    obtain ⟨p, of, restsAs, -⟩ := rests.registered known
    refine ⟨p, of, ?_, nofun⟩
    show ((e.forget record.state.id).standing record.state.id).RestsAs u _ _
    unfold Engine.forget
    rw [Engine.standing_filter]
    exact restsAs.filter _
  | list => cases answered
  | cleanup => cases answered
  | cancel => cases answered
  | malformed => cases answered

/-- **The engine after some requests**, answered one after another. -/
def serve (depth : Nat) (requests : List Request) (e : Engine) : Engine :=
  requests.foldl (fun e r => (u.answer (u.host depth) r e).2) e

theorem serve_concat (depth : Nat) (requests : List Request) (r : Request) (e : Engine) :
    u.serve depth (requests ++ [r]) e =
      (u.answer (u.host depth) r (u.serve depth requests e)).2 := by
  unfold serve
  rw [List.foldl_append]
  rfl

theorem serve_append (depth : Nat) (requests more : List Request) (e : Engine) :
    u.serve depth (requests ++ more) e = u.serve depth more (u.serve depth requests e) :=
  List.foldl_append

/-- What every request keeps, many keep. -/
theorem keeps_serve {I : Engine → Prop} (depth : Nat)
    (kept : ∀ r e, I e → I (u.answering (depth + 1) r e).2) (requests : List Request) {e : Engine}
    (before : I e) : I (u.serve depth requests e) := by
  induction requests generalizing e with
  | nil => exact before
  | cons r rest ih => exact ih (kept r e before)

/-- **Between requests, time is not limited.** -/
theorem heeds_serve (depth : Nat) (requests : List Request) :
    (u.serve depth requests {}).Heeds none :=
  u.keeps_serve depth (u.keeps_heeds_answering (depth + 1)) requests ⟨rfl, fun _ => rfl⟩

theorem expired_serve (depth : Nat) (requests : List Request) :
    (u.serve depth requests {}).expired = false :=
  (u.heeds_serve depth requests).timely rfl

/-- If one of the requests started the run `id`, it was started with the pipeline `p`. -/
def StartedWith (depth : Nat) (requests : List Request) (id : ExecutionId) (p : Pipeline) : Prop :=
  ∀ earlier later q initial, requests = earlier ++ .start q initial :: later →
    id.number = (u.serve depth earlier {}).started → p = q

theorem startedWith_concat {depth : Nat} {requests : List Request} {r : Request}
    {id : ExecutionId} {p : Pipeline} (before : u.StartedWith depth requests id p)
    (now : ∀ q initial, r = .start q initial →
      id.number = (u.serve depth requests {}).started → p = q) :
    u.StartedWith depth (requests ++ [r]) id p := by
  intro earlier later q initial split fresh
  cases later using List.reverseRecOn with
  | nil =>
    obtain ⟨rfl, last⟩ := List.append_inj' split rfl
    exact now q initial (List.cons.inj last).1 fresh
  | append_singleton later last =>
    rw [← List.cons_append, ← List.append_assoc] at split
    exact before earlier later q initial (List.append_inj' split rfl).1 fresh

/-- **Every run rests between requests.** -/
theorem atRest_serve (depth : Nat) (requests : List Request) (id : ExecutionId) :
    ((u.serve depth requests {}).standing id).AtRest u id (u.StartedWith depth requests id) := by
  induction requests using List.reverseRecOn with
  | nil =>
    refine .unknown (Nat.not_lt_zero _) rfl rfl List.not_mem_nil
      fun p earlier later q initial split => ?_
    cases earlier <;> cases split
  | append_singleton requests r ih =>
    have timely := u.expired_serve depth requests
    rw [serve_concat]
    by_cases started : ∃ q initial, r = .start q initial ∧
        id.number = (u.serve depth requests {}).started
    · -- nothing was known of the run, so nothing hinders its pipeline
      obtain ⟨q, initial, rfl, fresh⟩ := started
      obtain rfl : id = ⟨(u.serve depth requests {}).started⟩ := congrArg ExecutionId.mk fresh
      obtain ⟨-, -, -, any⟩ := ih.unknown_of_not_begun (Nat.lt_irrefl _)
      have of : u.StartedWith depth (requests ++ [.start q initial])
          ⟨(u.serve depth requests {}).started⟩ q :=
        u.startedWith_concat (any q) fun q' initial' same _ => by cases same; rfl
      obtain ⟨still, comes⟩ :=
        u.comesToRest_start depth q initial (u.preserves_atRest depth) of timely ih
      have rests := comes.atRest
      rw [still] at rests
      exact rests
    · refine (u.preserves_atRest (depth + 1) r _ timely ih).mono fun p before => ?_
      exact u.startedWith_concat before fun q initial same fresh =>
        absurd ⟨q, initial, same, fresh⟩ started

/-- A run that was cut off has left a trail as long as the budget. -/
theorem not_isCut {id : ExecutionId} (lasts : e.trail.length < u.budget) :
    ¬ (e.standing id).IsCut u := by
  intro cut
  have short : (e.deeds id).length ≤ e.trail.length := List.length_filterMap_le _ _
  exact absurd (Nat.le_trans cut.exhausted short) (Nat.not_le_of_lt lasts)

/-- **Where a run is found** after some requests, `r` being the last: its record says so, and the
answer to `r`, if that is a state of the run in which nothing more is done for it. -/
structure Finds (depth : Nat) (requests : List Request) (r : Request) (p : Pipeline)
    (x : Execution) : Prop where
  registered : ∀ record ∈ (u.serve depth (requests ++ [r]) {}).records,
    record.state.id = x.id → record = ⟨p, x⟩
  answered : ∀ y, (u.answer (u.host depth) r (u.serve depth requests {})).1 = .state (some y) →
    y.id = x.id → (y.status = .waiting → u.HandsOff) → y = x
  started : u.StartedWith depth (requests ++ [r]) x.id p

/-- **Where no run was cut off, every run that was not left is settled** between requests, in the
state in which it is found. -/
theorem exists_settled (depth : Nat) (requests : List Request) (r : Request) {id : ExecutionId}
    (lasts : (u.serve depth (requests ++ [r]) {}).trail.length < u.budget)
    (begun : id.number < (u.serve depth (requests ++ [r]) {}).started)
    (spared : id ∉ (u.serve depth (requests ++ [r]) {}).abandoned) :
    ∃ p x, x.id = id ∧ u.Finds depth requests r p x ∧
      ((u.serve depth (requests ++ [r]) {}).standing id).Settled u p x := by
  have uncut := @not_isCut u _ id lasts
  have registered {p : Pipeline} {x : Execution} (mine : x.id = id)
      (settled : ((u.serve depth (requests ++ [r]) {}).standing id).Settled u p x) :
      ∀ record ∈ (u.serve depth (requests ++ [r]) {}).records,
        record.state.id = x.id → record = ⟨p, x⟩ := by
    intro record listed same
    exact settled.records record (Engine.mem_standing_iff.mpr ⟨listed, same.trans mine⟩)
  by_cases answered : ∃ y,
      (u.answer (u.host depth) r (u.serve depth requests {})).1 = .state (some y) ∧ y.id = id ∧
        (y.status = .waiting → u.HandsOff)
  · obtain ⟨y, answered, rfl, handsOff⟩ := answered
    obtain ⟨p, before, restsAs, now⟩ := u.restsAs_answer depth (u.expired_serve depth requests)
      (u.atRest_serve depth requests y.id) answered handsOff
    rw [← serve_concat] at restsAs
    cases restsAs with
    | settled settled =>
      refine ⟨p, y, rfl, ⟨registered rfl settled, fun y' answered' _ _ => ?_, ?_⟩, settled⟩
      · rw [answered] at answered'
        cases answered'
        rfl
      · exact u.startedWith_concat before fun q initial same _ => now q initial same
    | cut cut => exact absurd cut uncut
    | left _ abandoned => exact absurd abandoned spared
  · cases u.atRest_serve depth (requests ++ [r]) id with
    | unknown unbegun => exact absurd begun unbegun
    | @settled p x mine settled of =>
      refine ⟨p, x, mine, ⟨registered mine settled, ?_, mine ▸ of⟩, settled⟩
      exact fun y here same handsOff => absurd ⟨y, here, same.trans mine, handsOff⟩ answered
    | cut cut => exact absurd cut uncut
    | left _ abandoned => exact absurd abandoned spared

/-- **Where no run was cut off, every run that is not settled was left.** -/
theorem exists_left (depth : Nat) (requests : List Request) {id : ExecutionId}
    (lasts : (u.serve depth requests {}).trail.length < u.budget)
    (abandoned : id ∈ (u.serve depth requests {}).abandoned) :
    ∃ p, u.StartedWith depth requests id p ∧
      ((u.serve depth requests {}).standing id).Left u p id := by
  cases u.atRest_serve depth requests id with
  | unknown _ _ _ spared => exact absurd abandoned spared
  | settled _ settled => exact absurd abandoned settled.spared
  | cut cut => exact absurd cut (not_isCut u lasts)
  | left _ _ left of => exact ⟨_, of, left⟩

end Setup

/-- What the record of a run shows is so where the run is found. -/
theorem Setup.Finds.eq_of_record? {u : Setup} {depth : Nat} {requests : List Request} {r : Request}
    {p : Pipeline} {x : Execution} {α : Type} (finds : u.Finds depth requests r p x)
    (f : Execution → α) {a : α}
    (shown : ((u.serve depth (requests ++ [r]) {}).record? x.id).map
      (fun record => f record.state) = some a) : f x = a := by
  obtain ⟨record, known, rfl⟩ := Option.map_eq_some_iff.mp shown
  have same := finds.registered record (List.mem_of_find?_eq_some known)
    (Engine.id_of_record? known)
  rw [same]

/-! ### A small engine -/

/-- One step that waits for a person, and a tool that is told of the end. -/
def Definition.gated : Definition where
  name := "gated"
  start := "review"
  steps := .ofEntries [("review", { id := "review", tool := "", waitsForHuman := true })]
  onComplete := some "notify"

/-- An engine for short runs, whose tools succeed at once. -/
def Setup.small : Setup where
  tools := { knows := fun _ => true, reply := fun _ _ => .done (.succeeded none) }
  budget := 20

/-- A run of the gated step is started. -/
def Request.begin : Request := .start (Definition.gated.toPipeline "p") .empty

/-- Its person approves. -/
def Request.approve : Request := .respond ⟨0⟩ .approve

/-- One step, which works. -/
def Definition.working : Definition where
  name := "working"
  start := "work"
  steps := .ofEntries [("work", { id := "work", tool := "work" })]

/-- One step, which may take a second. -/
def Definition.hurried : Definition where
  name := "hurried"
  start := "drive"
  steps := .ofEntries [("drive", { id := "drive", tool := "drive", timeout := some 1 })]

/-- An engine with a tool that drives a run of its own, and one that works for five seconds. -/
def Setup.hurrying : Setup where
  tools :=
    { knows := fun _ => true
      reply := fun _ c =>
        if c.tool = "drive" then
          .request (.start (Definition.working.toPipeline "inner") .empty) fun _ =>
            .done (.succeeded none)
        else .wait 5000 (.done (.succeeded none)) }
  budget := 20

/-- A run of the hurried step is started. -/
def Request.hurry : Request := .start (Definition.hurried.toPipeline "outer") .empty

end StepFlow
