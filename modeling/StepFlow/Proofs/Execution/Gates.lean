import StepFlow.Proofs.Document.Records
import StepFlow.Proofs.Execution.Life
import StepFlow.Proofs.Expression.Paths

/-!
# A gate is a step that succeeds with its input

A person who approves a gate takes the place of a tool.  So the run goes on as it would
from an ungated copy of the step whose tool answers, at its first attempt, with the
input of the response (`Host.respond_sameButTimes`): the same result, the same route,
the same loop, the same end.

What can differ are times, and times can be read.  Conditions see the results with the
times of their calls, a gate takes no time, and a tool does.  A branch that looks at
this goes another way (`Host.not_forall_respond_sameButTimes`), so the main statement asks
of the conditions of the step that they read no times, or else decide alike.  What is
load-bearing is `Execution.Untimed.alike`: conditions that read no times do.
-/

namespace StepFlow

open Expression (Segment lookup)

namespace Execution

variable {x y u : Execution} {s c : Step} {strict : Bool}

/-- **Two runs that differ in times only**: in the time of their last change, and in the
times of the calls that their results come from. -/
structure SameButTimes (x y : Execution) : Prop where
  pipelineId : y.pipelineId = x.pipelineId
  id : y.id = x.id
  current : y.current = x.current
  status : y.status = x.status
  outcomes : ∀ step,
    (y.results.get? step).map (·.toOutcome) = (x.results.get? step).map (·.toOutcome)
  globalState : y.globalState = x.globalState
  counters : y.counters = x.counters
  iterations : y.iterations = x.iterations
  path : y.path = x.path
  started : y.started = x.started
  error : y.error = x.error
  humanInput : y.humanInput = x.humanInput

namespace SameButTimes

/-- Two results with the same outcome are recorded alike. -/
theorem record (x : Execution) (step : String) {o : Outcome} (m m' : Metrics) :
    SameButTimes (x.record step ⟨o, m⟩) (x.record step ⟨o, m'⟩) where
  pipelineId := rfl
  id := rfl
  current := rfl
  status := rfl
  outcomes k := by
    show ((x.results.insert step _).get? k).map _ = ((x.results.insert step _).get? k).map _
    rw [Table.get?_insert, Table.get?_insert]
    split <;> rfl
  globalState := rfl
  counters := rfl
  iterations := rfl
  path := rfl
  started := rfl
  error := rfl
  humanInput := rfl

theorem fail (same : SameButTimes x y) (f : Fault) : SameButTimes (x.fail f) (y.fail f) :=
  { same with
    status := rfl
    error := by
      show some (f.capture (some y.current)) = some (f.capture (some x.current))
      rw [same.current] }

theorem complete (same : SameButTimes x y) : SameButTimes x.complete y.complete :=
  { same with status := rfl }

theorem resetLoop (same : SameButTimes x y) (step : String) :
    SameButTimes (x.resetLoop step) (y.resetLoop step) :=
  { same with
    counters := by
      show y.counters.erase step = x.counters.erase step
      rw [same.counters]
    iterations := by
      show y.iterations.erase step = x.iterations.erase step
      rw [same.iterations] }

theorem moveTo (same : SameButTimes x y) (step : String) :
    SameButTimes (x.moveTo step) (y.moveTo step) :=
  { same with
    current := rfl
    path := by
      show y.path ++ [step] = x.path ++ [step]
      rw [same.path] }

theorem transition (same : SameButTimes x y) (s : Step) (next : Option String) :
    SameButTimes (x.transition s next) (y.transition s next) := by
  unfold Execution.transition
  cases next with
  | none => exact (same.resetLoop s.id).complete
  | some target =>
    simp only
    split
    · exact (same.resetLoop s.id).complete
    · split
      · exact same
      · exact (same.resetLoop s.id).moveTo target

end SameButTimes

/-! ### Conditions and times -/

/-- **Does a path come by the times of a call?**  They stand among the results, in each of
them, under their own name. -/
def readsTimes : List Segment → Bool
  | [] => true
  | .index _ :: _ => false
  | .key root :: rest => root = "results" && match rest with
    | [] => true
    | .index _ :: _ => false
    | [.key _] => true
    | .key _ :: .index _ :: _ => false
    | .key _ :: .key field :: _ => field = "metrics"

/-- Results with the same outcome show the same, apart from their times. -/
theorem field?_toValue {r r' : ToolResult} (same : r'.toOutcome = r.toOutcome) {field : String}
    (untimed : field ≠ "metrics") : r'.toValue.field? field = r.toValue.field? field := by
  -- any field but the times is a field of the outcome
  have shown (r : ToolResult) :
      r.toValue.field? field = (Entries.get? field r.toOutcome.toFields).join := by
    have distinct : ((r.toOutcome.toFields ++ [("metrics", some r.metrics.toValue)]).map
        (·.1)).Nodup := by
      show ["success", "data", "error", "metrics"].Nodup
      decide
    refine (Document.field?_record distinct field).trans ?_
    simp only [Outcome.toFields, List.cons_append, List.nil_append, Entries.get?_cons,
      Entries.get?_nil, untimed.symm, if_false]
  rw [shown, shown, same]

/-- What is found among the results does not depend on times, unless it comes by them. -/
theorem lookup_resultsValue (same : SameButTimes x y) {path : List Segment}
    (untimed : readsTimes (.key "results" :: path) = false) :
    lookup y.resultsValue path = lookup x.resultsValue path := by
  match path with
  | [] => cases untimed
  | .index _ :: _ => rfl
  | [.key _] => cases untimed
  | .key step :: hop :: rest =>
    have shown (z : Execution) : lookup z.resultsValue (.key step :: hop :: rest) =
        (z.results.get? step).bind fun r => (hop.hop r.toValue).bind fun v => lookup v rest := by
      have field : z.resultsValue.field? step = (z.results.get? step).map ToolResult.toValue :=
        Table.get?_mapValues _ _ _
      show (z.resultsValue.field? step).bind _ = _
      rw [field, Option.bind_map]
      rfl
    rw [shown, shown]
    have outcomes := same.outcomes step
    cases found : x.results.get? step with
    | none =>
      rw [found, Option.map_none, Option.map_eq_none_iff] at outcomes
      rw [outcomes]
    | some r =>
      rw [found, Option.map_some, Option.map_eq_some_iff] at outcomes
      obtain ⟨r', found', outcome⟩ := outcomes
      rw [found', Option.bind_some, Option.bind_some]
      cases hop with
      | index n => rfl
      | key field =>
        have untimed : field ≠ "metrics" := by simpa [readsTimes] using untimed
        have shows := field?_toValue outcome untimed
        simp only [Segment.hop, shows]

/-- A record that shows results under their name shows the same in two runs that differ in times
only, if its other fields do and the path does not come by times. -/
theorem lookup_record (same : SameButTimes x y) (fields : Execution → Entries (Option Value))
    (distinct : ∀ z, ((fields z).map (·.1)).Nodup)
    (results : ∀ z, Entries.get? "results" (fields z) = some (some z.resultsValue))
    (others : ∀ root, root ≠ "results" →
      Entries.get? root (fields y) = Entries.get? root (fields x))
    {path : List Segment} (untimed : readsTimes path = false) :
    lookup (.record (fields y)) path = lookup (.record (fields x)) path := by
  match path with
  | [] => cases untimed
  | .index _ :: _ => rfl
  | .key root :: rest =>
    simp only [lookup, Segment.hop, Document.field?_record (distinct _)]
    by_cases named : root = "results"
    · subst named
      rw [results, results]
      exact lookup_resultsValue same untimed
    · rw [others root named]

/-- **A path that does not come by times** finds the same in two runs that differ in
times only. -/
theorem lookup_branchContext (same : SameButTimes x y) (o : Outcome) {path : List Segment}
    (untimed : readsTimes path = false) :
    lookup (y.branchContext o) path = lookup (x.branchContext o) path := by
  refine lookup_record same (fun z =>
    [("result", some (o.data.getD .null)), ("state", some (.ofTable z.globalState)),
      ("success", some (.bool o.success)),
      ("error", some ((o.error.map ErrorReport.toValue).getD .null)),
      ("results", some z.resultsValue)]) (fun z => ?_) (fun z => rfl) (fun root away => ?_) untimed
  · show ["result", "state", "success", "error", "results"].Nodup
    decide
  · simp only [Entries.get?_cons, Entries.get?_nil, Ne.symm away, same.globalState, if_false]

/-- **A condition that does not come by times** decides alike in two runs that differ in times
only. -/
theorem decide_branchContext (same : SameButTimes x y) (o : Outcome) {c : String}
    (untimed : ∀ e, Expression.parse c = .ok e → ∀ path ∈ e.root.paths, readsTimes path = false) :
    Expression.decide c (y.branchContext o) = Expression.decide c (x.branchContext o) := by
  refine Expression.decide_congr fun e read path reads => ?_
  exact lookup_branchContext same o (untimed e read path reads)

/-- **Do the conditions of a step decide alike** in two states?  They are asked only if no
shortcut leads on from a success. -/
def Alike (s : Step) (o : Outcome) (x y : Execution) : Prop :=
  s.onSuccess = none → ∀ b ∈ s.next.branches,
    Expression.decide b.condition (y.branchContext o) =
      Expression.decide b.condition (x.branchContext o)

/-- **No condition of a step reads times.** -/
def Untimed (s : Step) : Prop :=
  ∀ b ∈ s.next.branches, ∀ e, Expression.parse b.condition = .ok e →
    ∀ path ∈ e.root.paths, readsTimes path = false

/-- **Conditions that read no times** decide alike in two runs that differ in times
only. -/
theorem Untimed.alike (untimed : Untimed s) (same : SameButTimes x y) (o : Outcome) :
    Alike s o x y := by
  intro _ b listed
  exact decide_branchContext same o (untimed b listed)

/-! ### Routes -/

theorem firstBranch_congr {v w : Value} {branches : List Branch}
    (alike : ∀ b ∈ branches, Expression.decide b.condition v = Expression.decide b.condition w) :
    firstBranch v branches = firstBranch w branches := by
  induction branches with
  | nil => rfl
  | cons b rest ih =>
    rw [List.forall_mem_cons] at alike
    rw [firstBranch, firstBranch, alike.1, ih alike.2]

/-- Where the conditions decide alike, a success takes the same route. -/
theorem chooseRoute_of_alike {o : Outcome} (success : o.success = true) (alike : Alike s o x y) :
    y.chooseRoute s o = x.chooseRoute s o := by
  unfold chooseRoute
  rw [if_pos success]
  cases shortcut : s.onSuccess with
  | some t => rfl
  | none => rw [firstBranch_congr (alike shortcut)]

/-- A success takes its route, whether or not failures need one. -/
theorem follow_of_success {o : Outcome} (success : o.success = true) (x : Execution) (s : Step)
    (strict : Bool) (route : Route) :
    x.follow strict s route o = x.transition s (nextTarget s route) := by
  simp only [follow, isUnroutedFailure, success, Bool.not_true, Bool.false_and, Bool.and_false,
    Bool.false_eq_true, if_false]

/-- **A success comes to the same**, whatever its times, where conditions decide alike. -/
theorem SameButTimes.conclude {o : Outcome} {m m' : Metrics} (success : o.success = true)
    (alike : Alike s o (x.record s.id ⟨o, m⟩) (x.record s.id ⟨o, m'⟩)) :
    SameButTimes (x.conclude strict s ⟨o, m⟩).2 (x.conclude strict s ⟨o, m'⟩).2 := by
  have recorded := SameButTimes.record x s.id (o := o) m m'
  have routes := chooseRoute_of_alike success alike
  unfold Execution.conclude
  simp only [routes]
  cases chosen : (x.record s.id ⟨o, m⟩).chooseRoute s o with
  | error f => exact recorded.fail (.expression f)
  | ok route =>
    simp only [follow_of_success success]
    exact recorded.transition s (nextTarget s route)

end Execution

/-! ### Gates -/

open Execution

/-- **An ungated copy of a step**: a step with the same id, the same routes and the same
loop, which calls some tool. -/
structure Step.IsUngatedCopy (s c : Step) : Prop where
  ungated : c.waitsForHuman = false
  id : c.id = s.id
  next : c.next = s.next
  onSuccess : c.onSuccess = s.onSuccess
  onFailure : c.onFailure = s.onFailure
  loop : c.loop = s.loop

/-- A success leads on from a copy as it does from the step. -/
theorem Step.IsUngatedCopy.conclude {s c : Step} (copy : s.IsUngatedCopy c) {r : ToolResult}
    (success : r.success = true) (x : Execution) (strict : Bool) :
    x.conclude strict c r = x.conclude strict s r := by
  have routes (y : Execution) : y.chooseRoute c r.toOutcome = y.chooseRoute s r.toOutcome := by
    unfold chooseRoute
    rw [copy.next, copy.onSuccess, copy.onFailure]
  have targets (route : Route) : nextTarget c route = nextTarget s route := by
    unfold nextTarget
    rw [copy.loop, copy.id]
  have transitions (y : Execution) (next : Option String) :
      y.transition c next = y.transition s next := by
    unfold transition
    rw [copy.id]
  unfold Execution.conclude
  simp only [copy.id, routes]
  cases (x.record s.id r).chooseRoute s r.toOutcome with
  | error f => rfl
  | ok route =>
    -- only the fault of a failure would name the tool
    simp only [follow_of_success success, targets, transitions]

/-- An attempt that succeeds is the last. -/
theorem Attempt.repeat_of_success {σ : Type} (a : Attempt σ) {t : σ}
    (success : (a.call t).1.success = true) (left n : Nat) :
    a.repeat left n t = (⟨(a.call t).1, n, false⟩, (a.call t).2) := by
  cases left with
  | zero => rfl
  | succ left =>
    rw [Attempt.repeat]
    simp only [success, if_true]

/-- **A step whose tool succeeds at once** comes to this result. -/
theorem Host.enter_of_success {σ : Type} (h : Host σ) (settings : Settings) {step : Step}
    {x : Execution} {t : σ} {r : ToolResult} (ungated : step.waitsForHuman = false)
    (success : r.success = true)
    (answers : (h.call ⟨.attempt x.id step.id, step.tool, x.parameters step⟩
      (step.timeLimit settings) (h.emit x.id (.stepStarted step.id) t)).1 = r) :
    (h.enter settings step x t).1 = (x.conclude settings.failOnUnroutedError step r).2 := by
  have once : (h.attempts settings step x t).1 = ⟨r, 1, false⟩ := by
    subst answers
    exact congrArg Prod.fst (Attempt.repeat_of_success _ success _ _)
  unfold Host.enter
  rw [ungated, if_neg Bool.false_ne_true, Host.perform_eq, Host.handle, once]
  rfl

/-- **Passing a gate agrees with running the step.**  Let a person approve a gate with any
input and any changes.  Take a copy of the step without the gate, from the state that the
response resumes, with its loop already decided, on any host whose tool succeeds at the
first attempt with the input as its data.  The two runs come to the same, apart from
times, provided that the conditions of the step read no times, or decide alike on the
result of the tool and on that of the gate. -/
theorem Host.respond_sameButTimes {σ : Type} (h : Host σ) (settings : Settings) {p : Pipeline}
    {x : Execution} {s c : Step} {r : HumanResponse} {m : Metrics} {t : σ} {now : Instant}
    (hs : p.step? x.current = some s) (copy : s.IsUngatedCopy c) (approved : r.approved = true)
    (answers : (h.call ⟨.attempt x.id c.id, c.tool, (x.resume r).parameters c⟩
      (c.timeLimit settings) (h.emit x.id (.stepStarted c.id) t)).1 = ⟨.succeeded r.input, m⟩)
    (decides : Untimed s ∨ Alike s (.succeeded r.input)
      ((x.resume r).record s.id ⟨.succeeded r.input, .instantaneous now⟩)
      ((x.resume r).record s.id ⟨.succeeded r.input, m⟩)) :
    SameButTimes (x.respond settings.failOnUnroutedError p r now)
      (h.enter settings c (x.resume r) t).1 := by
  have alike := decides.elim (·.alike (.record _ s.id (.instantaneous now) m) _) id
  rw [respond_of_approved hs approved, h.enter_of_success settings copy.ungated rfl answers,
    copy.conclude rfl]
  exact SameButTimes.conclude rfl alike

/-! ### A gate with a branch -/

section Signed

variable (condition : String)

/-- A gate that leads on to another step under a condition. -/
def Step.signed : Step :=
  { id := "s", tool := "work", waitsForHuman := true, next.branches := [⟨none, condition, "late"⟩] }

/-- The same step without the gate. -/
def Step.unsigned : Step := { Step.signed condition with waitsForHuman := false }

theorem Step.isUngatedCopy_unsigned : (signed condition).IsUngatedCopy (unsigned condition) :=
  ⟨rfl, rfl, rfl, rfl, rfl, rfl⟩

/-- The pipeline of the gate and the step after it. -/
def Definition.signed : Definition where
  name := "signed"
  start := "s"
  steps := .ofEntries [("late", { id := "late", tool := "work" }), ("s", .signed condition)]

/-- The times of a call that takes a while. -/
def Metrics.slow : Metrics := ⟨.ofMilliseconds 0, .ofMilliseconds 50, 50⟩

/-- A host whose tools take a while and answer with a number. -/
def Host.slow : Host Unit :=
  { Host.agreeable with call := fun _ _ _ => (⟨.succeeded (some (.int 7)), .slow⟩, ()) }

/-- A person who approves, with that number as input. -/
def HumanResponse.seven : HumanResponse := .withInput .approve (.int 7)

/-- A run that waits at the gate. -/
def Execution.atGate : Execution :=
  let begun := fresh ((Definition.signed condition).toPipeline "p") .empty ⟨0⟩ (.ofMilliseconds 0)
  begun.suspend.touch (.ofMilliseconds 1)

theorem Definition.step?_signed :
    ((Definition.signed condition).toPipeline "p").step? "s" = some (.signed condition) := by
  have distinct : (([("late", { id := "late", tool := "work" }),
      ("s", Step.signed condition)] : Entries Step).map (·.1)).Nodup := by
    show ["late", "s"].Nodup
    decide
  have found : (Definition.signed condition).steps.get? "s" = some (.signed condition) :=
    Table.get?_insertAll .empty distinct "s"
  refine (get?_fillIds _ "s").trans ?_
  rw [found]
  rfl

theorem life_atGate :
    Life {} ((Definition.signed condition).toPipeline "p") [.advance] (.atGate condition) := by
  have begun : Life {} ((Definition.signed condition).toPipeline "p") [] _ :=
    .fresh .empty ⟨0⟩ (.ofMilliseconds 0)
  have turn := begun.turn (.advance Host.slow () (.ofMilliseconds 1) rfl nofun)
  have found : ((Definition.signed condition).toPipeline "p").step?
      ((Definition.signed condition).toPipeline "p").start = some (.signed condition) :=
    Definition.step?_signed condition
  simp only [Host.advance, Execution.fresh, found] at turn
  exact turn

/-- What the condition sees after the gate, or after the tool. -/
def Execution.atGateContext (m : Metrics) : Value :=
  let o : Outcome := .succeeded (some (.int 7))
  (((atGate condition).resume .seven).record "s" ⟨o, m⟩).branchContext o

variable {condition} {b : Bool}

/-- The condition of the gate sends a run to the other step, or ends it. -/
theorem Step.path_conclude_signed {x : Execution} {r : ToolResult} (success : r.success = true)
    (decided : Expression.decide condition ((x.record "s" r).branchContext r.toOutcome) = .ok b) :
    (x.conclude false (Step.signed condition) r).2.path =
      if b = true then x.path ++ ["late"] else x.path := by
  have chosen : (x.record (Step.signed condition).id r).chooseRoute (Step.signed condition)
      r.toOutcome = .ok (if b = true then .branch none "late" else .default none) := by
    unfold chooseRoute
    rw [if_pos success]
    simp only [Step.signed, firstBranch, decided]
    cases b <;> rfl
  unfold Execution.conclude
  simp only [chosen]
  cases b <;> rfl

theorem Execution.path_respond_seven {now : Instant} (decided : Expression.decide condition
      (atGateContext condition (.instantaneous now)) = .ok b) :
    ((atGate condition).respond false ((Definition.signed condition).toPipeline "p") .seven
      now).path = if b = true then ["s", "late"] else ["s"] := by
  rw [respond_of_approved (Definition.step?_signed condition) rfl]
  exact Step.path_conclude_signed rfl decided

theorem Execution.path_enter_slow (decided : Expression.decide condition
      (atGateContext condition .slow) = .ok b) :
    (Host.slow.enter {} (Step.unsigned condition) ((atGate condition).resume .seven) ()).1.path =
      if b = true then ["s", "late"] else ["s"] := by
  have answers : (Host.slow.enter {} (Step.unsigned condition) ((atGate condition).resume .seven)
      ()).1 = (((atGate condition).resume .seven).conclude false (Step.unsigned condition)
        ⟨.succeeded (some (.int 7)), .slow⟩).2 :=
    Host.slow.enter_of_success {} rfl rfl rfl
  rw [answers, (Step.isUngatedCopy_unsigned condition).conclude rfl]
  exact Step.path_conclude_signed rfl decided

end Signed

/-- A condition on the data of the gate. -/
def Expression.onData : Expression where
  source := "results.s.data == 7"
  root := .binary .equal (.path [.key "results", .key "s", .key "data"]) (.literal (.int 7))

/-- A condition on the times of the gate. -/
def Expression.onTimes : Expression where
  source := "results.s.metrics.startTime != results.s.metrics.endTime"
  root := .binary .notEqual
    (.path [.key "results", .key "s", .key "metrics", .key "startTime"])
    (.path [.key "results", .key "s", .key "metrics", .key "endTime"])

/-- A gate is passed with an input that its condition looks at, and the run moves on as it
does without the gate, though the tool takes its time. -/
theorem Host.respond_sameButTimes_onData :
    Life {} ((Definition.signed Expression.onData.source).toPipeline "p") [.advance]
        (.atGate Expression.onData.source) ∧
      (atGate Expression.onData.source).status = .waiting ∧
      SameButTimes
        ((atGate Expression.onData.source).respond false
          ((Definition.signed Expression.onData.source).toPipeline "p") .seven (.ofMilliseconds 2))
        (Host.slow.enter {} (Step.unsigned Expression.onData.source)
          ((atGate Expression.onData.source).resume .seven) ()).1 ∧
      (Host.slow.enter {} (Step.unsigned Expression.onData.source)
        ((atGate Expression.onData.source).resume .seven) ()).1.path = ["s", "late"] := by
  have read : Expression.parse Expression.onData.source = .ok Expression.onData := by rfl
  have copy := Step.isUngatedCopy_unsigned Expression.onData.source
  have seen : Expression.decide Expression.onData.source (atGateContext Expression.onData.source
      .slow) = .ok true := by
    rw [Expression.decide_of_parse read]
    rfl
  refine ⟨life_atGate _, rfl, ?_, path_enter_slow seen⟩
  refine Host.slow.respond_sameButTimes {} (Definition.step?_signed _) copy rfl rfl (.inl ?_)
  intro b listed e parsed path reads
  cases List.mem_singleton.mp listed
  cases read.symm.trans parsed
  cases List.mem_singleton.mp reads
  rfl

/-- **A condition that looks at times can tell a gate from a tool**: the gate ends the run,
and the tool sends it on. -/
theorem Host.not_forall_respond_sameButTimes :
    ¬ ∀ (settings : Settings) (p : Pipeline) (past : List Turn) (x : Execution) (s c : Step)
        (r : HumanResponse) (m : Metrics) (h : Host Unit) (now : Instant),
      Life settings p past x → x.status = .waiting → p.step? x.current = some s →
        s.waitsForHuman = true → s.IsUngatedCopy c → r.approved = true →
        (∀ call timeout, (h.call call timeout ()).1 = ⟨.succeeded r.input, m⟩) →
          SameButTimes (x.respond settings.failOnUnroutedError p r now)
            (h.enter settings c (x.resume r) ()).1 := by
  intro agree
  have read : Expression.parse Expression.onTimes.source = .ok Expression.onTimes := by rfl
  have same := agree {} _ _ _ (.signed Expression.onTimes.source) _ .seven _ Host.slow
    (.ofMilliseconds 2) (life_atGate Expression.onTimes.source) rfl (Definition.step?_signed _) rfl
    (Step.isUngatedCopy_unsigned Expression.onTimes.source) rfl fun _ _ => rfl
  have instantly : Expression.decide Expression.onTimes.source (atGateContext
      Expression.onTimes.source (.instantaneous (.ofMilliseconds 2))) = .ok false := by
    rw [Expression.decide_of_parse read]
    rfl
  have slowly : Expression.decide Expression.onTimes.source (atGateContext
      Expression.onTimes.source .slow) = .ok true := by
    rw [Expression.decide_of_parse read]
    rfl
  have path := (path_enter_slow slowly).symm.trans (same.path.trans (path_respond_seven instantly))
  cases path

end StepFlow
