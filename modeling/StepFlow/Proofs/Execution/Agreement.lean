import StepFlow.Proofs.Execution.Gates

/-!
# Runs that agree, times aside

The same pipeline can be run at different times.  Two runs **agree** if they are the same apart
from times, the time of the start included.  Whatever is done to one of them and at another time
to the other, they agree afterwards: a result with the same outcome is recorded, a response is
taken in, a loop decides, a route is taken.

Only conditions can tell such runs apart, because they see the times of calls.  So two cases
are treated as one.  Either the two are driven at the same times (`timed`), and then they are the
same run, or no condition reads times (`Step.ReadsNoTimes`).
-/

namespace StepFlow

open Expression (Segment lookup)

/-- **No condition of a step reads times**, that of its loop included. -/
def Step.ReadsNoTimes (s : Step) : Prop :=
  ∀ c ∈ s.conditions, ∀ e, Expression.parse c = .ok e →
    ∀ path ∈ e.root.paths, Execution.readsTimes path = false

/-- **No condition of a pipeline reads times.** -/
def Pipeline.ReadsNoTimes (p : Pipeline) : Prop := ∀ id s, p.step? id = some s → s.ReadsNoTimes

/-- The small pipeline has one condition, on the global state. -/
theorem Definition.readsNoTimes_reviewed (id : String) :
    (Definition.reviewed.toPipeline id).ReadsNoTimes := by
  intro key step declared condition listed e read path reads
  have entry : (key, step) ∈ [_, _] := (Table.mem_entries_iff _ _ _).mpr declared
  have parsed : Expression.parse "state.redo" =
      .ok ⟨"state.redo", .path [.key "state", .key "redo"]⟩ := by rfl
  rcases List.mem_cons.mp entry with draft | rest
  · cases draft
    cases listed
  · cases List.mem_singleton.mp rest
    cases List.mem_singleton.mp listed
    cases parsed.symm.trans read
    cases List.mem_singleton.mp reads
    rfl

/-- Two results with the same outcome, which are the same if their times are. -/
structure ToolResult.Agrees (timed : Prop) (r r' : ToolResult) : Prop where
  outcome : r'.toOutcome = r.toOutcome
  exact : timed → r' = r

/-- **Two runs that agree**: they differ in times at most, and not at all if they are driven at
the same times. -/
structure Execution.Agrees (timed : Prop) (x y : Execution) : Prop where
  butTimes : SameButTimes x { y with started := x.started }
  exact : timed → y = x

variable {timed : Prop} {x y : Execution} {s : Step}

/-- **Two decisions of a loop that agree.** -/
inductive Execution.Decided (timed : Prop) :
    Except Expression.Failure (Bool × Execution) → Except Expression.Failure (Bool × Execution) →
      Prop
  | failed (f : Expression.Failure) : Decided timed (.error f) (.error f)
  | decided {x y : Execution} (b : Bool) (agrees : x.Agrees timed y) :
    Decided timed (.ok (b, x)) (.ok (b, y))

/-- Two decisions that ask the same condition. -/
theorem Execution.Decided.ifDecided {o o' : Except Expression.Failure Bool} (alike : o' = o)
    {a b : Bool} {x y u v : Execution} (yes : x.Agrees timed y) (no : u.Agrees timed v) :
    Decided timed (do if ← o then return (a, x) else return (b, u))
      (do if ← o' then return (a, y) else return (b, v)) := by
  subst alike
  cases o' with
  | error f => exact .failed f
  | ok holds =>
    cases holds with
    | true => exact .decided a yes
    | false => exact .decided b no

/-- A path that does not come by times finds the same in what a loop sees. -/
theorem Execution.lookup_loopContext (same : SameButTimes x y) (step : String)
    {path : List Segment} (untimed : readsTimes path = false) :
    lookup (y.loopContext step) path = lookup (x.loopContext step) path := by
  refine lookup_record same (fun z =>
    [("globalState", some (.ofTable z.globalState)), ("state", some (.ofTable z.globalState)),
      ("results", some z.resultsValue),
      ("counter", some (((z.counters.get? step).map fun n => .int n.toInt).getD .null)),
      ("iteration", some (.ofNat (z.iterationsOf step).toNat))])
    (fun z => ?_) (fun z => rfl) (fun root away => ?_) untimed
  · show ["globalState", "state", "results", "counter", "iteration"].Nodup
    decide
  · unfold Execution.iterationsOf
    simp only [Entries.get?_cons, Entries.get?_nil, Ne.symm away, same.globalState, same.counters,
      same.iterations, if_false]

theorem ToolResult.Agrees.refl (r : ToolResult) : r.Agrees timed r := ⟨rfl, fun _ => rfl⟩

namespace Execution.Agrees

theorem refl (x : Execution) : x.Agrees timed x where
  butTimes := ⟨rfl, rfl, rfl, rfl, fun _ => rfl, rfl, rfl, rfl, rfl, rfl, rfl, rfl⟩
  exact _ := rfl

/-- Fresh runs agree, whenever they are started. -/
theorem fresh (p : Pipeline) (initial : Table Value) (id : ExecutionId) {now now' : Instant}
    (times : timed → now' = now) :
    (Execution.fresh p initial id now).Agrees timed (.fresh p initial id now') where
  butTimes := ⟨rfl, rfl, rfl, rfl, fun _ => rfl, rfl, rfl, rfl, rfl, rfl, rfl, rfl⟩
  exact h := by rw [times h]

variable (agrees : x.Agrees timed y)

include agrees

theorem id : y.id = x.id := agrees.butTimes.id

theorem pipelineId : y.pipelineId = x.pipelineId := agrees.butTimes.pipelineId

theorem current : y.current = x.current := agrees.butTimes.current

theorem status : y.status = x.status := agrees.butTimes.status

theorem isRunning : y.isRunning = x.isRunning := by
  unfold Execution.isRunning
  rw [agrees.status]

theorem globalState : y.globalState = x.globalState := agrees.butTimes.globalState

theorem error : y.error = x.error := agrees.butTimes.error

theorem counters : y.counters = x.counters := agrees.butTimes.counters

theorem iterations : y.iterations = x.iterations := agrees.butTimes.iterations

theorem iterationsOf (step : String) : y.iterationsOf step = x.iterationsOf step := by
  unfold Execution.iterationsOf
  rw [agrees.iterations]

/-! ### Elementary changes -/

theorem touch {now now' : Instant} (times : timed → now' = now) :
    (x.touch now).Agrees timed (y.touch now') where
  butTimes := { agrees.butTimes with }
  exact h := by rw [agrees.exact h, times h]

theorem fail (f : Fault) : (x.fail f).Agrees timed (y.fail f) where
  butTimes := agrees.butTimes.fail f
  exact h := by rw [agrees.exact h]

theorem setStatus (status : Status) : ({ x with status }).Agrees timed { y with status } where
  butTimes := { agrees.butTimes with status := rfl }
  exact h := by rw [agrees.exact h]

theorem resetLoop (step : String) : (x.resetLoop step).Agrees timed (y.resetLoop step) where
  butTimes := agrees.butTimes.resetLoop step
  exact h := by rw [agrees.exact h]

theorem moveTo (step : String) : (x.moveTo step).Agrees timed (y.moveTo step) where
  butTimes := agrees.butTimes.moveTo step
  exact h := by rw [agrees.exact h]

theorem transition (s : Step) (next : Option String) :
    (x.transition s next).Agrees timed (y.transition s next) := by
  unfold Execution.transition
  split
  · exact (agrees.resetLoop s.id).setStatus .completed
  · split
    · exact (agrees.resetLoop s.id).setStatus .completed
    · split
      · exact agrees
      · exact (agrees.resetLoop s.id).moveTo _

theorem follow (strict : Bool) (s : Step) (route : Route) (o : Outcome) :
    (x.follow strict s route o).Agrees timed (y.follow strict s route o) := by
  unfold Execution.follow
  split
  · exact agrees.fail _
  · exact agrees.transition s _

/-- Two results with the same outcome are recorded alike. -/
theorem record (step : String) {r r' : ToolResult} (results : r.Agrees timed r') :
    (x.record step r).Agrees timed (y.record step r') where
  butTimes := by
    obtain ⟨o, m⟩ := r
    obtain ⟨o', m'⟩ := r'
    cases results.outcome
    have shown : (y.record step ⟨o, m'⟩).globalState = (x.record step ⟨o, m⟩).globalState := by
      unfold Execution.record
      simp only [agrees.globalState]
    refine { agrees.butTimes with outcomes := fun k => ?_, globalState := shown }
    show ((y.results.insert step _).get? k).map _ = ((x.results.insert step _).get? k).map _
    rw [Table.get?_insert, Table.get?_insert]
    split
    · rfl
    · exact agrees.butTimes.outcomes k
  exact h := by rw [agrees.exact h, results.exact h]

theorem countIteration (step : String) :
    (x.countIteration step).Agrees timed (y.countIteration step) where
  butTimes := { agrees.butTimes with
    iterations := by
      show y.iterations.insert step (y.iterationsOf step + 1) =
        x.iterations.insert step (x.iterationsOf step + 1)
      rw [agrees.iterationsOf, agrees.iterations] }
  exact h := by rw [agrees.exact h]

theorem setCounters (counters : Table Int64) :
    ({ x with counters }).Agrees timed { y with counters } where
  butTimes := { agrees.butTimes with counters := rfl }
  exact h := by rw [agrees.exact h]

/-! ### Conditions and parameters -/

/-- The condition of a loop decides alike. -/
theorem decide_loopContext {l : Loop} {c : String} (blind : timed ∨ s.ReadsNoTimes)
    (hl : s.loop = some l) (condition : l.condition? = some c) (step : String) :
    Expression.decide c (y.loopContext step) = Expression.decide c (x.loopContext step) := by
  rcases blind with h | untimed
  · rw [agrees.exact h]
  · have listed : c ∈ s.conditions := by
      refine List.mem_append_right _ ?_
      rw [hl, Option.bind_some, condition]
      exact List.mem_singleton_self c
    refine Expression.decide_congr fun e read path reads => ?_
    exact lookup_loopContext agrees.butTimes step (untimed c listed e read path reads)

/-- **A loop decides alike.** -/
theorem decideLoop {l : Loop} (blind : timed ∨ s.ReadsNoTimes) (hl : s.loop = some l)
    (step : String) : Decided timed (x.decideLoop step l) (y.decideLoop step l) := by
  have count := agrees.countIteration step
  unfold Execution.decideLoop
  rw [agrees.iterationsOf]
  split
  · exact .decided false agrees
  · cases l with
    | counting start increment limit =>
      dsimp only
      rw [agrees.counters]
      split
      · exact .decided true ((agrees.setCounters _).countIteration step)
      · exact .decided false (agrees.setCounters _)
    | whileTrue condition limit =>
      exact .ifDecided (agrees.decide_loopContext blind hl rfl step) count agrees
    | untilTrue condition limit =>
      exact .ifDecided (agrees.decide_loopContext blind hl rfl step) agrees count

/-- **A step takes the same route.** -/
theorem chooseRoute (blind : timed ∨ s.ReadsNoTimes) (o : Outcome) :
    y.chooseRoute s o = x.chooseRoute s o := by
  rcases blind with h | untimed
  · rw [agrees.exact h]
  · have alike : ∀ b ∈ s.next.branches,
        Expression.decide b.condition (y.branchContext o) =
          Expression.decide b.condition (x.branchContext o) := by
      intro b listed
      have condition : b.condition ∈ s.conditions :=
        List.mem_append_left _ (List.mem_map_of_mem listed)
      exact decide_branchContext agrees.butTimes o (untimed _ condition)
    unfold Execution.chooseRoute
    rw [firstBranch_congr alike]

/-- **A step concludes alike.** -/
theorem conclude (strict : Bool) (blind : timed ∨ s.ReadsNoTimes) {r r' : ToolResult}
    (results : r.Agrees timed r') :
    (y.conclude strict s r').1 = (x.conclude strict s r).1 ∧
      (x.conclude strict s r).2.Agrees timed (y.conclude strict s r').2 := by
  have recorded := agrees.record s.id results
  unfold Execution.conclude
  simp only [recorded.chooseRoute blind, results.outcome]
  cases (x.record s.id r).chooseRoute s r.toOutcome with
  | error f => exact ⟨rfl, recorded.fail _⟩
  | ok route => exact ⟨rfl, recorded.follow strict s route r.toOutcome⟩

/-- A binding hands over the same. -/
theorem resolve (b : Binding) : y.resolve b = x.resolve b := by
  cases b with
  | static v => rfl
  | dynamic source path =>
    have data : (y.results.get? source).map (·.data) = (x.results.get? source).map (·.data) := by
      have outcomes := congrArg (Option.map Outcome.data) (agrees.butTimes.outcomes source)
      rwa [Option.map_map, Option.map_map] at outcomes
    have shown (z : Execution) : z.resolve (.dynamic source path) =
        (((z.results.get? source).map (·.data)).bind fun d => d).bind (Path.resolve · path) := by
      show ((z.results.get? source).bind fun r => r.data.bind (Path.resolve · path)) = _
      rw [Option.bind_map, Option.bind_assoc]
      rfl
    rw [shown, shown, data]

theorem parameters (s : Step) : y.parameters s = x.parameters s := by
  have all (bindings : Entries Binding) (t : Table Value) :
      y.resolveAll bindings t = x.resolveAll bindings t := by
    induction bindings generalizing t with
    | nil => rfl
    | cons binding rest ih =>
      obtain ⟨name, b⟩ := binding
      rw [Execution.resolveAll, Execution.resolveAll, agrees.resolve]
      split
      · exact ih _
      · exact ih _
  unfold Execution.parameters
  rw [all, agrees.globalState]

/-- The approval of a gate is recorded alike. -/
theorem passGate (strict : Bool) {p : Pipeline} (blind : timed ∨ p.ReadsNoTimes)
    (input : Option Value) {now now' : Instant} (times : timed → now' = now) :
    (x.passGate strict p input now).Agrees timed (y.passGate strict p input now') := by
  unfold Execution.passGate
  rw [agrees.current]
  split
  · exact agrees.fail _
  · rename_i s declared
    refine (agrees.conclude strict (blind.imp_right fun untimed => untimed _ s declared) ?_).2
    exact ⟨rfl, fun h => by rw [times h]⟩

/-- A response is merged alike. -/
theorem resume (r : HumanResponse) : (x.resume r).Agrees timed (y.resume r) where
  butTimes := { agrees.butTimes with
    status := rfl
    humanInput := rfl
    globalState := by
      show y.globalState.overlay _ = x.globalState.overlay _
      rw [agrees.globalState] }
  exact h := by rw [agrees.exact h]

/-- **A response is taken in alike.** -/
theorem respond (strict : Bool) {p : Pipeline} (blind : timed ∨ p.ReadsNoTimes) (r : HumanResponse)
    {now now' : Instant} (times : timed → now' = now) :
    (x.respond strict p r now).Agrees timed (y.respond strict p r now') := by
  have resumed := agrees.resume r
  cases approved : r.approved with
  | true =>
    rw [respond_eq_passGate approved, respond_eq_passGate approved]
    exact resumed.passGate strict blind r.input times
  | false =>
    rw [respond_of_not_approved approved, respond_of_not_approved approved, agrees.current]
    exact resumed.fail _

end Execution.Agrees

end StepFlow
