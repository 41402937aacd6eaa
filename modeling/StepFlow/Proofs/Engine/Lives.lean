import StepFlow.Proofs.Engine.Stability
import StepFlow.Proofs.Execution.Life

/-!
# The engine drives lives

The engine is a host whose tools make requests of their own, about any run, to any
depth.  Whatever they request, a flag that is raised stays raised
(`Setup.keeps_flag`), and so the runs that the engine starts and resumes stay
within their lives: nobody asked to cancel a run whose flag is down.
-/

namespace StepFlow

/-- The engine was asked to cancel a run. -/
def Engine.IsFlagged (id : ExecutionId) (e : Engine) : Prop := id ∈ e.cancelled

theorem Engine.stable_isFlagged (id : ExecutionId) :
    Engine.Stable (fun _ => True) (Engine.IsFlagged id) where
  timed _ _ _ _ before := before
  abandon _ _ before := before
  note _ _ before := before
  publish _ _ before := before
  setAside listens _ _ before := by cases listens <;> exact before
  enlist _ _ _ before := before
  flag id' _ before := List.mem_cons_of_mem id' before
  forget _ _ _ before := before
  forgetFinished _ _ before := before

namespace Setup

variable (u : Setup) {id : ExecutionId}

/-- **A flag that is raised stays raised**, whatever the tools request. -/
theorem keeps_flag (depth : Nat) : (u.host depth).Keeps (Engine.IsFlagged id) :=
  u.keeps_host_of_stable (Engine.stable_isFlagged id) (u.asksOnly_of_forall fun _ => trivial) depth

/-- The flag that a run looks at. -/
theorem isFlagged_of_isCancelled (depth : Nat) {e : Engine}
    (seen : (u.host depth).isCancelled id e = true) : e.IsFlagged id := by
  cases depth <;> exact List.contains_iff_mem.mp seen

/-- **A run that the engine starts has a life**, and nobody asked to cancel it if its
flag is down. -/
theorem life_start (depth : Nat) (p : Pipeline) (initial : Table Value) (e : Engine) :
    ∃ past, Life u.settings p past (u.start (u.host depth) p initial e).1 ∧
      (¬ (u.start (u.host depth) p initial e).2.IsFlagged ⟨e.started⟩ → Turn.cancel ∉ past) := by
  have begun : Life u.settings p [] (.fresh p initial ⟨e.started⟩ e.now) :=
    .fresh initial ⟨e.started⟩ e.now
  obtain ⟨turns, driven, unasked⟩ := Life.run (u.keeps_flag depth)
    (fun _ => u.isFlagged_of_isCancelled depth) u.budget
    ((u.host depth).emit ⟨e.started⟩ (.started p.id p.name)
      (e.enlist p (.fresh p initial ⟨e.started⟩ e.now))) begun
  rw [List.append_nil] at driven
  exact ⟨turns, driven, unasked⟩

/-- **A run that the engine resumes goes on with its life**, and nobody asked to
cancel it meanwhile if its flag is down. -/
theorem life_respond (depth : Nat) {e : Engine} {record : Record} (r : HumanResponse)
    {past : List Turn} (known : e.record? id = some record)
    (waiting : record.state.status = .waiting)
    (life : Life u.settings record.pipeline past record.state) :
    ∃ turns x, (u.respond (u.host depth) id r e).1 = some x ∧
      Life u.settings record.pipeline (turns ++ .response r :: past) x ∧
      (¬ (u.respond (u.host depth) id r e).2.IsFlagged id → Turn.cancel ∉ turns) := by
  have found : record.state.id = id := by simpa using List.find?_some known
  unfold respond
  rw [known]
  simp only [waiting, if_true]
  generalize (u.host depth).emit id _ _ = e'
  have next := life.turn (.response r e'.now e'.now waiting)
  have seen_flag (s : Engine) (seen : (u.host depth).isCancelled
      ((record.state.respond u.settings.failOnUnroutedError record.pipeline r e'.now).touch
        e'.now).id s = true) : s.IsFlagged id := by
    have same := record.state.id_respond u.settings.failOnUnroutedError record.pipeline r e'.now
    refine u.isFlagged_of_isCancelled depth ?_
    rw [← found, ← same]
    exact seen
  obtain ⟨turns, driven, unasked⟩ := Life.run (u.keeps_flag depth) seen_flag u.budget e' next
  exact ⟨turns, _, rfl, driven, unasked⟩

end Setup

end StepFlow
