import StepFlow.Proofs.Execution.Chronicle
import StepFlow.Proofs.Execution.Simulation

/-!
# The calls that a run makes

A host can be asked to keep the calls that are made on it, each with the state it is made in
(`Host.logging`).  Whatever is done on such a host is done as it would be without the log
(`Host.Maps.pursue`), so the log tells the calls that are made (`Host.calls`).

Calls are where the world comes in: a tool may do anything while it is called.  So a property
of the state that all operations keep is passed on from the start to each of the calls, and
from the end of each call to the end (`Host.KeepsFor.state_of_mem_calls`,
`Host.KeepsFor.pursue_of_after`).
-/

namespace StepFlow

variable {σ τ : Type}

/-- **A call that was made**: with its time limit, and the state of the host that it was made
in. -/
structure Made (σ : Type) where
  call : Call
  timeout : UInt64
  state : σ

namespace Made

/-- What the call came to. -/
def result (h : Host σ) (m : Made σ) : ToolResult := (h.call m.call m.timeout m.state).1

/-- The state of the host after the call. -/
def after (h : Host σ) (m : Made σ) : σ := (h.call m.call m.timeout m.state).2

end Made

/-- **What is done with a run** by its host: it is driven by so many steps at most, or it is
finished. -/
inductive Course where
  | drive (p : Pipeline) (budget : Nat) (x : Execution)
  | finish (p : Pipeline) (x : Execution)

/-- The run that something is done with. -/
def Course.run : Course → Execution
  | drive _ _ x => x
  | finish _ x => x

/-- One more attempt, if any is left. -/
theorem Attempt.repeat_succ (a : Attempt σ) (left n : Nat) (s : σ) :
    a.repeat (left + 1) n s =
      let came := a.call s
      if came.1.success then (⟨came.1, n, false⟩, came.2)
      else if a.isCancelled came.2 then (⟨came.1, n, true⟩, came.2)
      else a.repeat left (n + 1) (a.beforeRetry (n + 1) came.1 came.2) := rfl

namespace Host

/-- Does something with a run. -/
def pursue (h : Host σ) (settings : Settings) : Course → σ → σ
  | .drive p budget x, s => (h.run settings p budget x s).2
  | .finish p x, s => h.finish settings p x s

/-- **The same host, which keeps the calls that are made**, the latest first. -/
def logging (h : Host σ) : Host (σ × List (Made σ)) where
  now s := h.now s.1
  isCancelled id s := h.isCancelled id s.1
  call c timeout s :=
    let (result, t) := h.call c timeout s.1
    (result, t, ⟨c, timeout, s.1⟩ :: s.2)
  emit id event s := (h.emit id event s.1, s.2)
  pause ms s := (h.pause ms s.1, s.2)
  publish x s := (h.publish x s.1, s.2)
  ask q s := (h.ask q s.1, s.2)

/-- **The calls that are made** when something is done with a run, the latest first. -/
def calls (h : Host σ) (settings : Settings) (w : Course) (s : σ) : List (Made σ) :=
  (h.logging.pursue settings w (s, [])).2

/-! ### Hosts that are seen through -/

/-- **A host seen through a view of its state**: what an operation does to the view is what
the operation of the other host does. -/
structure Maps (f : σ → τ) (h : Host σ) (k : Host τ) : Prop where
  now : ∀ s, k.now (f s) = h.now s
  isCancelled : ∀ id s, k.isCancelled id (f s) = h.isCancelled id s
  call : ∀ c timeout s, k.call c timeout (f s) = ((h.call c timeout s).1, f (h.call c timeout s).2)
  emit : ∀ id event s, k.emit id event (f s) = f (h.emit id event s)
  pause : ∀ ms s, k.pause ms (f s) = f (h.pause ms s)
  publish : ∀ x s, k.publish x (f s) = f (h.publish x s)
  ask : ∀ q s, k.ask q (f s) = f (h.ask q s)

/-- A host is seen through its log. -/
theorem maps_logging (h : Host σ) : Maps Prod.fst h.logging h where
  now _ := rfl
  isCancelled _ _ := rfl
  call _ _ _ := rfl
  emit _ _ _ := rfl
  pause _ _ := rfl
  publish _ _ := rfl
  ask _ _ := rfl

namespace Maps

variable {f : σ → τ} {h : Host σ} {k : Host τ} (maps : Maps f h k) (settings : Settings)

include maps

/-- A host and what is seen of it serve every run alike. -/
theorem simulates (id : ExecutionId) : Simulates True id (fun s t => t = f s) h k := by
  constructor
  case now =>
    rintro s _ rfl -
    exact maps.now s
  case isCancelled =>
    rintro s _ rfl
    exact maps.isCancelled id s
  case call =>
    rintro c timeout s _ - rfl
    rw [maps.call]
    exact ⟨.refl _, rfl⟩
  case emit =>
    rintro event s _ rfl
    exact maps.emit id event s
  case pause =>
    rintro ms s _ rfl
    exact maps.pause ms s
  case publish =>
    rintro x y s _ - agrees rfl
    rw [agrees.exact trivial]
    exact maps.publish x s
  case ask =>
    rintro step prompt x y s _ - agrees rfl
    rw [agrees.exact trivial]
    exact maps.ask _ s

theorem advance (p : Pipeline) (x : Execution) (s : σ) :
    k.advance settings p x (f s) =
      ((h.advance settings p x s).1, f (h.advance settings p x s).2) := by
  obtain ⟨run, states⟩ :=
    (maps.simulates x.id).advance settings p rfl (.refl x) (rfl : f s = f s) (.inl trivial)
  exact Prod.ext (run.exact trivial) states

/-- **A run comes to the same on the view.** -/
theorem run (p : Pipeline) (budget : Nat) (x : Execution) (s : σ) :
    k.run settings p budget x (f s) =
      ((h.run settings p budget x s).1, f (h.run settings p budget x s).2) := by
  obtain ⟨run, states⟩ :=
    (maps.simulates x.id).run settings p rfl (.refl x) (rfl : f s = f s) (.inl trivial) budget
  exact Prod.ext (run.exact trivial) states

/-- **Whatever is done with a run is done to the view.** -/
theorem pursue (w : Course) (s : σ) : k.pursue settings w (f s) = f (h.pursue settings w s) := by
  have like := maps.simulates w.run.id
  cases w with
  | drive p budget x =>
    exact (like.run settings p rfl (.refl x) (rfl : f s = f s) (.inl trivial) budget).states
  | finish p x => exact like.finish settings p rfl (.refl x) (rfl : f s = f s)

end Maps

/-! ### A drive, step by step -/

/-- Calls that were made before stay behind those that are made. -/
theorem maps_behind (h : Host σ) (l : List (Made σ)) :
    Maps (fun s => (s.1, s.2 ++ l)) h.logging h.logging where
  now _ := rfl
  isCancelled _ _ := rfl
  call _ _ _ := rfl
  emit _ _ _ := rfl
  pause _ _ := rfl
  publish _ _ := rfl
  ask _ _ := rfl

section Drives

variable (h : Host σ) (settings : Settings) (p : Pipeline) {x : Execution} {s : σ}

/-- **A run with its log**: the calls that it makes are put before the earlier ones. -/
theorem run_logging (budget : Nat) (x : Execution) (s : σ) (l : List (Made σ)) :
    h.logging.run settings p budget x (s, l) =
      ((h.run settings p budget x s).1, (h.run settings p budget x s).2,
        h.calls settings (.drive p budget x) s ++ l) := by
  have seen := (maps_logging h).run settings p budget x (s, [])
  have behind := (h.maps_behind l).run settings p budget x (s, [])
  change h.logging.run settings p budget x (s, l) = _ at behind
  rw [behind]
  exact Prod.ext (congrArg Prod.fst seen).symm
    (Prod.ext (congrArg Prod.snd seen).symm rfl)

/-- **A run that goes on** takes one step, and the rest of its budget is for what it has come
to. -/
theorem run_succ (running : x.status = .running) (unasked : h.isCancelled x.id s = false)
    (budget : Nat) :
    h.run settings p (budget + 1) x s =
      h.run settings p budget (h.run settings p 1 x s).1 (h.run settings p 1 x s).2 := by
  rw [h.run_of_running settings p running unasked budget,
    h.run_of_running settings p running unasked 0]
  rfl

/-- **The calls of a run that goes on**: those of its first step were made first. -/
theorem calls_drive_succ (running : x.status = .running) (unasked : h.isCancelled x.id s = false)
    (budget : Nat) :
    h.calls settings (.drive p (budget + 1) x) s =
      h.calls settings (.drive p budget (h.run settings p 1 x s).1) (h.run settings p 1 x s).2 ++
        h.calls settings (.drive p 1 x) s := by
  have logged := h.logging.run_succ settings p (s := (s, [])) running unasked budget
  rw [h.run_logging settings p 1] at logged
  refine (congrArg (·.2.2) logged).trans ?_
  rw [run_logging, List.append_nil]

/-- The calls of one step are those of the advance. -/
theorem calls_drive_one (running : x.status = .running) (unasked : h.isCancelled x.id s = false) :
    h.calls settings (.drive p 1 x) s = (h.logging.advance settings p x (s, [])).2.2 := by
  have logged := h.logging.run_of_running settings p (s := (s, [])) running unasked 0
  refine (congrArg (·.2.2) logged).trans ?_
  simp only [Host.run]
  split <;> rfl

end Drives

/-! ### What calls pass on -/

namespace KeepsFor

variable {h : Host σ} {I : σ → Prop} {id : ExecutionId} (keeps : h.KeepsFor id I)
  {settings : Settings} {w : Course} (mine : w.run.id = id) {s : σ}

include keeps mine

/-- Whatever is done with a run keeps what the operations for it keep. -/
theorem pursue (before : I s) : I (h.pursue settings w s) := by
  cases w with
  | drive p budget x => exact keeps.run settings p mine budget before
  | finish p x => exact keeps.finish settings p mine before

/-- **What is kept holds at every call.** -/
theorem state_of_mem_calls (before : I s) : ∀ m ∈ h.calls settings w s, I m.state := by
  have logged : h.logging.KeepsFor id fun s => I s.1 ∧ ∀ m ∈ s.2, I m.state :=
    { call := fun c timeout s theirs before => ⟨keeps.call c timeout s.1 theirs before.1,
        List.forall_mem_cons.mpr before⟩
      emit := fun event s before => ⟨keeps.emit event s.1 before.1, before.2⟩
      pause := fun ms s before => ⟨keeps.pause ms s.1 before.1, before.2⟩
      publish := fun x s theirs before => ⟨keeps.publish x s.1 theirs before.1, before.2⟩
      ask := fun q s theirs before => ⟨keeps.ask q s.1 theirs before.1, before.2⟩ }
  exact (logged.pursue mine (s := (s, [])) ⟨before, nofun⟩).2

/-- **What holds after a call and is kept holds at the end.** -/
theorem pursue_of_after {m : Made σ} (made : m ∈ h.calls settings w s) (after : I (m.after h)) :
    I (h.pursue settings w s) := by
  have logged : h.logging.KeepsFor id fun s => ∀ m ∈ s.2, I (m.after h) → I s.1 := by
    refine ⟨?_, ?_, ?_, ?_, ?_⟩
    · intro c timeout s theirs before
      refine List.forall_mem_cons.mpr ⟨fun after => after, fun m earlier after => ?_⟩
      exact keeps.call c timeout s.1 theirs (before m earlier after)
    · exact fun event s before m made after => keeps.emit event s.1 (before m made after)
    · exact fun ms s before m made after => keeps.pause ms s.1 (before m made after)
    · exact fun x s theirs before m made after => keeps.publish x s.1 theirs (before m made after)
    · exact fun q s theirs before m made after => keeps.ask q s.1 theirs (before m made after)
  have passed := logged.pursue mine (s := (s, [])) nofun m made after
  rwa [← (maps_logging h).pursue settings w (s, [])] at passed

end KeepsFor

/-- The calls that are made when something is done with a run are made for that run. -/
theorem execution_of_mem_calls {h : Host σ} {settings : Settings} {w : Course} {s : σ}
    {m : Made σ} (made : m ∈ h.calls settings w s) : m.call.purpose.execution = w.run.id := by
  have logged : h.logging.KeepsFor w.run.id fun s =>
      ∀ m ∈ s.2, m.call.purpose.execution = w.run.id :=
    { call := fun _ _ _ theirs before => List.forall_mem_cons.mpr ⟨theirs, before⟩
      emit := fun _ _ before => before
      pause := fun _ _ before => before
      publish := fun _ _ _ before => before
      ask := fun _ _ _ before => before }
  exact logged.pursue rfl (s := (s, [])) nofun m made

end Host

end StepFlow
