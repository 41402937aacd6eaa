import Mathlib.Data.List.Nodup
import Mathlib.Data.List.Perm.Subperm
import Mathlib.Data.Nat.Find
import StepFlow.Proofs.Execution.Gates
import StepFlow.Proofs.Execution.Rejections
import StepFlow.Proofs.Execution.Routes
import StepFlow.Proofs.Pipeline.Validity

/-!
# Chains of successes

A pipeline whose steps have no gates, loops or branches has one way to go on from a success.  So it
has one **walk**, from its start along the shortcuts and defaults of its steps (`Pipeline.walk`).
Where the walk meets no step twice it ends, and a run whose calls succeed goes along it and does
nothing else: it completes, the walk is its path, its results are those of the steps on the walk,
and each of their tools is called once, in this order (`Definition.completes_of_isChain`).

The proof goes along the walk with what has been done and what is still to come
(`Execution.AtWalk`).  What is load-bearing is that one step of the run is one call and one move
(`Host.drive_plain`): an attempt that succeeds is the last, and a step without branches asks
nothing else for its route.  The walk is finite because there are only so many steps that it can
meet.
-/

namespace StepFlow

open Execution

/-! ### Walks -/

/-- **Where a success leads** from a step without branches: to its shortcut, else to its default. -/
def Step.successor (s : Step) : Option String := s.onSuccess.or s.next.default

/-- **A step that only calls its tool**, and goes on. -/
structure Step.IsPlain (s : Step) : Prop where
  ungated : s.waitsForHuman = false
  unlooped : s.loop = none
  unbranched : s.next.branches = []

namespace Pipeline

/-- The step to which a success leads, unless that is the end. -/
def next? (p : Pipeline) (a : String) : Option String :=
  ((p.step? a).bind Step.successor).filter (· ≠ endMarker)

/-- **The walk of successes**: where it is after so many moves, if it goes on for so long. -/
def walk (p : Pipeline) : Nat → Option String
  | 0 => some p.start
  | n + 1 => (p.walk n).bind p.next?

/-- **A chain**: a pipeline of plain steps whose walk meets no step twice. -/
structure IsChain (p : Pipeline) : Prop where
  plain : ∀ key s, p.step? key = some s → s.IsPlain
  once : ∀ i j a, p.walk i = some a → p.walk j = some a → i = j

variable {p : Pipeline} {a b : String}

theorem next?_eq_some_iff :
    p.next? a = some b ↔ (∃ s, p.step? a = some s ∧ s.successor = some b) ∧ b ≠ endMarker := by
  unfold next?
  rw [Option.filter_eq_some_iff, Option.bind_eq_some_iff, decide_eq_true_iff]

/-- What is not there after some moves is not there after more. -/
theorem walk_eq_none_of_le {n : Nat} (ended : p.walk n = none) {i : Nat} (later : n ≤ i) :
    p.walk i = none := by
  induction later with
  | refl => exact ended
  | step _ ih => rw [walk, ih, Option.bind_none]

/-- **The walk meets declared steps**, in a pipeline that is sound. -/
theorem Sound.declared_of_walk (sound : p.Sound) {i : Nat} (met : p.walk i = some a) :
    ∃ s, p.step? a = some s := by
  cases i with
  | zero =>
    cases met
    exact sound.start
  | succ i =>
    obtain ⟨before, -, leads⟩ := Option.bind_eq_some_iff.mp met
    obtain ⟨⟨s, hs, successor⟩, onward⟩ := next?_eq_some_iff.mp leads
    have named : ∃ m, (m, a) ∈ s.references := by
      rcases Option.or_eq_some_iff.mp successor with shortcut | ⟨-, default⟩
      · refine ⟨.onSuccess, (s.mem_references_iff .onSuccess a).mpr ?_⟩
        exact .inr (.inr (.inl ⟨rfl, shortcut⟩))
      · exact ⟨.next, (s.mem_references_iff .next a).mpr (.inl ⟨rfl, default⟩)⟩
    obtain ⟨m, listed⟩ := named
    exact (sound.targets before s hs m a listed).resolve_left onward

/-- **A walk that meets no step twice ends** before it has made more moves than there are steps. -/
theorem Sound.exists_walk_eq_none (sound : p.Sound) (chain : p.IsChain) :
    ∃ n ≤ p.steps.entries.length, p.walk n = none := by
  -- otherwise there are more distinct steps on it than are declared
  by_contra endless
  have met (i : Nat) (within : i ≤ p.steps.entries.length) : ∃ a, p.walk i = some a := by
    rw [← Option.ne_none_iff_exists']
    exact fun ended => endless ⟨i, within, ended⟩
  let positions := (List.range (p.steps.entries.length + 1)).map fun i => (p.walk i).getD ""
  have distinct : positions.Nodup := by
    refine List.Nodup.map_on (fun i hi j hj same => ?_) List.nodup_range
    obtain ⟨a, here⟩ := met i (Nat.lt_succ_iff.mp (List.mem_range.mp hi))
    obtain ⟨b, there⟩ := met j (Nat.lt_succ_iff.mp (List.mem_range.mp hj))
    rw [here, there] at same
    cases show a = b from same
    exact chain.once i j a here there
  have declared : positions ⊆ p.steps.entries.map (·.1) := by
    intro a listed
    obtain ⟨i, hi, rfl⟩ := List.mem_map.mp listed
    obtain ⟨a, here⟩ := met i (Nat.lt_succ_iff.mp (List.mem_range.mp hi))
    obtain ⟨s, hs⟩ := sound.declared_of_walk here
    rw [here]
    exact List.mem_map_of_mem ((p.steps.mem_entries_iff a s).mpr hs)
  have fewer := (List.subperm_of_subset distinct declared).length_le
  simp only [positions, List.length_map, List.length_range] at fewer
  omega

/-- **A chain has a finite walk.** -/
theorem Sound.exists_walk (sound : p.Sound) (chain : p.IsChain) :
    ∃ walk : List String, (∀ i, walk[i]? = p.walk i) ∧ walk.Nodup ∧
      walk.length ≤ p.steps.entries.length := by
  obtain ⟨bound, within, ended⟩ := sound.exists_walk_eq_none chain
  have ends : ∃ n, p.walk n = none := ⟨bound, ended⟩
  let walk := (List.range (Nat.find ends)).map fun i => (p.walk i).getD ""
  have walks (i : Nat) : walk[i]? = p.walk i := by
    rcases Nat.lt_or_ge i (Nat.find ends) with before | after
    · obtain ⟨a, here⟩ := Option.ne_none_iff_exists'.mp (Nat.find_min ends before)
      simp [walk, List.getElem?_range before, here]
    · rw [walk_eq_none_of_le (Nat.find_spec ends) after, List.getElem?_eq_none]
      simpa [walk] using after
  refine ⟨walk, walks, ?_, ?_⟩
  · rw [List.nodup_iff_getElem?_ne_getElem?]
    intro i j before within same
    have here := List.getElem?_eq_getElem within
    rw [walks] at here
    rw [walks, walks, here] at same
    exact before.ne (chain.once i j _ same here)
  · have first : Nat.find ends ≤ bound := Nat.find_min' ends ended
    simpa [walk] using first.trans within

/-- On a walk, a success leads to what comes next. -/
theorem next?_eq_head? {walk done rest : List String} (walks : ∀ i, walk[i]? = p.walk i)
    (split : walk = done ++ a :: rest) : p.next? a = rest.head? := by
  have here : p.walk done.length = some a := by
    rw [← walks, split]
    simp
  have there : p.walk (done.length + 1) = rest.head? := by
    rw [← walks, split, List.getElem?_append_right (Nat.le_succ _), Nat.succ_sub (Nat.le_refl _),
      Nat.sub_self, List.getElem?_cons_succ, List.head?_eq_getElem?]
  rw [← there, Pipeline.walk, here, Option.bind_some]

end Pipeline

/-! ### One step -/

namespace Execution

/-- **A success leads on from a plain step** to its successor. -/
theorem conclude_of_isPlain {step : Step} (plain : step.IsPlain) {r : ToolResult}
    (success : r.success = true) (x : Execution) (strict : Bool) :
    (x.conclude strict step r).2 = (x.record step.id r).transition step step.successor := by
  have routed : ∃ route, (x.record step.id r).chooseRoute step r.toOutcome = .ok route ∧
      nextTarget step route = step.successor := by
    unfold Step.successor nextTarget
    rw [plain.unlooped]
    have set : step.shortcut? r.toOutcome = step.onSuccess := by
      unfold Step.shortcut?
      rw [if_pos success]
    cases shortcut : step.onSuccess with
    | some target => exact ⟨_, chooseRoute_of_shortcut (set.trans shortcut), rfl⟩
    | none =>
      refine ⟨.default step.next.default, ?_, rfl⟩
      rw [chooseRoute_of_unset (set.trans shortcut), plain.unbranched]
      rfl
  obtain ⟨route, chosen, target⟩ := routed
  unfold conclude
  simp only [chosen, follow_of_success success, target]

end Execution

namespace Host

variable {σ : Type} (h : Host σ) (settings : Settings) {p : Pipeline} {x : Execution} {s : σ}
  {step : Step}

/-- The first attempt at a step, as it is made. -/
def firstAttempt (step : Step) (x : Execution) (s : σ) : Made σ :=
  ⟨x.attemptAt step, step.timeLimit settings, h.emit x.id (.stepStarted step.id) s⟩

/-- The first attempt is made, whatever comes of it. -/
theorem firstAttempt_mem (step : Step) (x : Execution) (s : σ) :
    h.firstAttempt settings step x s ∈ (h.logging.attempts settings step x (s, [])).2.2 := by
  let first := h.firstAttempt settings step x s
  have keeps : h.logging.KeepsFor x.id fun t => first ∈ t.2 :=
    { call := fun _ _ _ _ => List.mem_cons_of_mem _
      emit := fun _ _ => id
      pause := fun _ _ => id
      publish := fun _ _ _ => id
      ask := fun _ _ _ => id }
  have again := keeps.attempt settings step (x.parameters step)
  unfold attempts invoke
  cases step.maxAttempts settings - 1 with
  | zero => exact List.mem_cons_self
  | succ left =>
    rw [Attempt.repeat_succ]
    dsimp only
    split
    · exact List.mem_cons_self
    · split
      · exact List.mem_cons_self
      · exact again.repeat (again.beforeRetry _ _ _ List.mem_cons_self)

/-- A plain step that a run has come to is attempted at once. -/
theorem advance_of_isPlain (hs : p.step? x.current = some step) (plain : step.IsPlain) (s : σ) :
    h.advance settings p x s = h.handle settings step x (h.attempts settings step x s) := by
  unfold advance
  simp only [hs, plain.unlooped]
  rw [enter, plain.ungated, if_neg Bool.false_ne_true, perform_eq]

/-- The calls of one step of a run are its attempts at the plain step that it has come to. -/
theorem calls_drive_plain (running : x.status = .running)
    (unasked : h.isCancelled x.id s = false) (hs : p.step? x.current = some step)
    (plain : step.IsPlain) :
    h.calls settings (.drive p 1 x) s = (h.logging.attempts settings step x (s, [])).2.2 := by
  rw [h.calls_drive_one settings p running unasked, h.logging.advance_of_isPlain settings hs plain,
    log_handle]

/-- **One step of a run at a plain step** whose first attempt succeeds: one call, and one
transition to the successor. -/
theorem drive_plain (running : x.status = .running) (unasked : h.isCancelled x.id s = false)
    (hs : p.step? x.current = some step) (plain : step.IsPlain)
    (success : ((h.firstAttempt settings step x s).result h).success = true) :
    h.calls settings (.drive p 1 x) s = [h.firstAttempt settings step x s] ∧
      ∃ now, (h.run settings p 1 x s).1 =
        ((x.record step.id ((h.firstAttempt settings step x s).result h)).transition step
          step.successor).touch now := by
  constructor
  · have once := (h.logging.attempt settings x.id step (x.parameters step) fun n _ s =>
      h.logging.emit x.id (.stepRetrying step.id n) s).repeat_of_success
        (t := h.logging.emit x.id (.stepStarted step.id) (s, [])) success
        (step.maxAttempts settings - 1) 1
    rw [h.calls_drive_plain settings running unasked hs plain]
    exact congrArg (·.2.2) once
  · have once := (h.attempt settings x.id step (x.parameters step) fun n _ s =>
      h.emit x.id (.stepRetrying step.id n) s).repeat_of_success
        (t := h.emit x.id (.stepStarted step.id) s) success (step.maxAttempts settings - 1) 1
    have came : (h.advance settings p x s).1 =
        (x.conclude settings.failOnUnroutedError step
          ((h.firstAttempt settings step x s).result h)).2 := by
      rw [h.advance_of_isPlain settings hs plain, handle,
        show h.attempts settings step x s = _ from once]
      rfl
    rw [h.run_of_running settings p running unasked, ← conclude_of_isPlain plain success, ← came]
    exact ⟨_, rfl⟩

end Host

/-! ### Along the walk -/

/-- The step that a call is an attempt at. -/
def Call.attempted? (c : Call) : Option String :=
  match c.purpose with
  | .attempt _ step => some step
  | .hook _ => none

namespace Execution

/-- **The results of a run are the successes of some steps.** -/
structure SucceededAt (x : Execution) (steps : List String) : Prop where
  results : ∀ key, x.results.contains key = true ↔ key ∈ steps
  succeeded : ∀ key r, x.results.get? key = some r → r.success = true

/-- **A run has come to a step of the walk** by the steps before. -/
structure AtWalk (x : Execution) (before : List String) (a : String) : Prop
    extends SucceededAt x before where
  running : x.status = .running
  current : x.current = a
  path : x.path = before ++ [a]

/-- **A run has gone along the walk**, and has completed. -/
structure HasWalked (x : Execution) (walk : List String) : Prop extends SucceededAt x walk where
  completed : x.status = .completed
  path : x.path = walk

variable {x : Execution} {before : List String} {a : String} {r : ToolResult} {step : Step}

/-- A success is one more. -/
theorem SucceededAt.record (so : x.SucceededAt before) (success : r.success = true)
    (key : step.id = a) : (x.record step.id r).SucceededAt (before ++ [a]) where
  results := by
    intro other
    show (x.results.insert step.id r).contains other = true ↔ _
    rw [Table.contains_iff, Table.get?_insert, key, List.mem_append, List.mem_singleton,
      ← so.results, Table.contains_iff]
    by_cases here : a = other
    · simp [here]
    · simp [here, Ne.symm here]
  succeeded := by
    intro other r' stands
    change (x.results.insert step.id r).get? other = some r' at stands
    rw [Table.get?_insert] at stands
    split at stands
    · cases stands
      exact success
    · exact so.succeeded other r' stands

/-- A run begins at the start of the walk. -/
theorem atWalk_fresh (p : Pipeline) (initial : Table Value) (id : ExecutionId) (now : Instant) :
    (fresh p initial id now).AtWalk [] p.start where
  results key := by simp [fresh, Table.contains]
  succeeded key r stands := by cases stands
  running := rfl
  current := rfl
  path := rfl

/-- **A success without successor ends the walk.** -/
theorem AtWalk.ends (here : x.AtWalk before a) (success : r.success = true) (key : step.id = a)
    (leads : ∀ b, step.successor = some b → b = endMarker) (now : Instant) :
    (((x.record step.id r).transition step step.successor).touch now).HasWalked
      (before ++ [a]) := by
  have more := here.toSucceededAt.record success key
  have completes : (x.record step.id r).transition step step.successor =
      ((x.record step.id r).resetLoop step.id).complete := by
    unfold transition
    cases successor : step.successor with
    | none => rfl
    | some b => exact if_pos (leads b successor)
  rw [completes]
  exact
    { results := more.results
      succeeded := more.succeeded
      completed := rfl
      path := here.path }

/-- **A success with a successor goes on there.** -/
theorem AtWalk.goes (here : x.AtWalk before a) (success : r.success = true) (key : step.id = a)
    {b : String} (leads : step.successor = some b) (onward : b ≠ endMarker) (away : b ≠ a)
    (now : Instant) :
    (((x.record step.id r).transition step step.successor).touch now).AtWalk (before ++ [a]) b := by
  have more := here.toSucceededAt.record success key
  have moves : (x.record step.id r).transition step step.successor =
      ((x.record step.id r).resetLoop step.id).moveTo b := by
    unfold transition
    rw [leads]
    simp only [if_neg onward, key, if_neg away]
  rw [moves]
  exact
    { results := more.results
      succeeded := more.succeeded
      running := here.running
      current := rfl
      path := congrArg (· ++ [b]) here.path }

end Execution

namespace Host

variable {σ : Type} {h : Host σ} {settings : Settings} {p : Pipeline} {x : Execution} {s : σ}
  {budget : Nat}

/-- **A run goes well**: its flag is down whenever the run looks at it to go on, and every attempt
at a step succeeds.  What tools answer is one thing and a request to cancel the run is another:
`unasked` says that there is none, without which a run can fail however well its tools do. -/
structure GoesWell (h : Host σ) (settings : Settings) (p : Pipeline) (budget : Nat) (x : Execution)
    (s : σ) : Prop where
  unasked : ∀ n < budget, (h.run settings p n x s).1.status = .running →
    h.isCancelled x.id (h.run settings p n x s).2 = false
  succeeds : ∀ m ∈ h.calls settings (.drive p budget x) s, ∀ step,
    m.call.attempted? = some step → (m.result h).success = true

namespace GoesWell

variable (well : h.GoesWell settings p (budget + 1) x s) (running : x.status = .running)

include well running

theorem unasked_now : h.isCancelled x.id s = false := well.unasked 0 (Nat.succ_pos budget) running

/-- What goes well goes well after its first step. -/
theorem rest :
    h.GoesWell settings p budget (h.run settings p 1 x s).1 (h.run settings p 1 x s).2 := by
  have unasked := well.unasked_now running
  constructor
  · intro n within goes
    rw [← h.run_succ settings p running unasked] at goes ⊢
    rw [id_run]
    exact well.unasked (n + 1) (Nat.succ_lt_succ within) goes
  · intro m made
    apply well.succeeds m
    rw [h.calls_drive_succ settings p running unasked]
    exact List.mem_append_left _ made

/-- **The first step of a run that goes well**, at a plain step. -/
theorem first {step : Step} (hs : p.step? x.current = some step) (plain : step.IsPlain) :
    ∃ (r : ToolResult) (now : Instant), r.success = true ∧
      (h.run settings p 1 x s).1 =
        ((x.record step.id r).transition step step.successor).touch now ∧
      (h.calls settings (.drive p 1 x) s).filterMap (·.call.attempted?) = [step.id] := by
  have unasked := well.unasked_now running
  have success : ((h.firstAttempt settings step x s).result h).success = true := by
    refine well.succeeds _ ?_ step.id rfl
    rw [h.calls_drive_succ settings p running unasked,
      h.calls_drive_plain settings running unasked hs plain]
    exact List.mem_append_right _ (h.firstAttempt_mem settings step x s)
  obtain ⟨called, now, came⟩ := h.drive_plain settings running unasked hs plain success
  refine ⟨_, now, success, came, ?_⟩
  rw [called]
  rfl

end GoesWell

/-- A run that is not running attempts no step. -/
theorem attempted?_of_not_running (halted : x.status ≠ .running) (budget : Nat) (s : σ) :
    (h.calls settings (.drive p budget x) s).filterMap (·.call.attempted?) = [] := by
  rw [List.filterMap_eq_nil_iff]
  intro m made
  have hook := call_of_not_running halted budget made
  simp only [Call.attempted?, hook]

section Along

variable (sound : p.Sound) (plain : ∀ key step, p.step? key = some step → step.IsPlain)
  {walk before rest : List String} {a : String} (walks : ∀ i, walk[i]? = p.walk i)
  (distinct : walk.Nodup)

include sound plain walks distinct

/-- **One move along the walk**: one attempt, and then the run has come to the next step, or has
completed. -/
theorem GoesWell.moves (well : h.GoesWell settings p (budget + 1) x s) (here : x.AtWalk before a)
    (split : walk = before ++ a :: rest) :
    (h.calls settings (.drive p 1 x) s).filterMap (·.call.attempted?) = [a] ∧
      (rest = [] → (h.run settings p 1 x s).1.HasWalked walk) ∧
      ∀ b later, rest = b :: later → (h.run settings p 1 x s).1.AtWalk (before ++ [a]) b := by
  have next := Pipeline.next?_eq_head? walks split
  have met : p.walk before.length = some a := by
    rw [← walks, split]
    simp
  obtain ⟨step, hs⟩ := sound.declared_of_walk met
  have key := sound.keyed a step hs
  obtain ⟨r, now, success, came, called⟩ :=
    well.first here.running (here.current.symm ▸ hs) (plain a step hs)
  rw [came]
  refine ⟨key ▸ called, ?_, ?_⟩
  · rintro rfl
    rw [split]
    refine here.ends success key (fun b leads => ?_) now
    by_contra onward
    have more := Pipeline.next?_eq_some_iff.mpr ⟨⟨step, hs, leads⟩, onward⟩
    rw [next] at more
    cases more
  · rintro b later rfl
    obtain ⟨⟨step', hs', leads⟩, onward⟩ := Pipeline.next?_eq_some_iff.mp next
    cases hs.symm.trans hs'
    rw [split, List.nodup_append] at distinct
    have away : b ≠ a := fun same =>
      (List.nodup_cons.mp distinct.2.1).1 (same ▸ List.mem_cons_self)
    exact here.goes success key leads onward away now

/-- **A run that goes well goes along the walk** from where it has come: it completes, and what it
calls for the steps that are left is one attempt at each, in their order. -/
theorem GoesWell.walks_along (well : h.GoesWell settings p budget x s) (here : x.AtWalk before a)
    (split : walk = before ++ a :: rest) (enough : rest.length + 1 < budget) :
    (h.run settings p budget x s).1.HasWalked walk ∧
      (h.calls settings (.drive p budget x) s).reverse.filterMap (·.call.attempted?) =
        a :: rest := by
  -- on what is left of the walk; each move takes one id from there to what was done before
  induction rest generalizing before a x s budget with
  | nil =>
    obtain ⟨budget, rfl⟩ : ∃ n, budget = n + 1 := ⟨budget - 1, by omega⟩
    obtain ⟨called, ends, -⟩ := well.moves sound plain walks distinct here split
    have walked := ends rfl
    have halted : (h.run settings p 1 x s).1.status ≠ .running := by
      rw [walked.completed]
      nofun
    have unasked := well.unasked_now here.running
    constructor
    · rw [h.run_succ settings p here.running unasked, run_of_not_running _ _ halted]
      exact walked
    · rw [h.calls_drive_succ settings p here.running unasked, List.filterMap_reverse,
        List.filterMap_append, called, attempted?_of_not_running halted]
      rfl
  | cons b rest ih =>
    obtain ⟨budget, rfl⟩ : ∃ n, budget = n + 1 := ⟨budget - 1, by omega⟩
    obtain ⟨called, -, goes⟩ := well.moves sound plain walks distinct here split
    have unasked := well.unasked_now here.running
    obtain ⟨walked, attempted⟩ := ih (well.rest here.running) (goes b rest rfl)
      (by rw [split, List.append_assoc]; rfl) (by simpa using enough)
    constructor
    · rw [h.run_succ settings p here.running unasked]
      exact walked
    · rw [h.calls_drive_succ settings p here.running unasked, List.reverse_append,
        List.filterMap_append, attempted, List.filterMap_reverse, called]
      rfl

end Along

/-- An attempt at a step calls the tool of this step, where steps are declared under their ids. -/
theorem tool_of_attempted? (keyed : p.Keyed) {w : Course} (mine : w.pipeline = p) {m : Made σ}
    (made : m ∈ h.calls settings w s) {a : String} (attempt : m.call.attempted? = some a) :
    ∃ step, p.step? a = some step ∧ m.call.tool = step.tool := by
  subst mine
  rcases call_of_mem_calls made with hook | ⟨key, step, hs, -, purpose, tool⟩
  · simp only [Call.attempted?, hook] at attempt
    cases attempt
  · simp only [Call.attempted?, purpose] at attempt
    cases attempt
    rw [keyed key step hs]
    exact ⟨step, hs, tool⟩

end Host

/-- **A chain completes along its walk.**  Let a definition be valid, and let its steps have no
gates, no loops and no branches.  If its walk meets no step twice, the walk ends.  Let a run of it
go well on any host, with any settings and whatever its first global state.  The run completes, its
path is the walk, its results are successes of exactly the steps on the walk, and its attempts are
one at each of these steps, in the order of the walk, with the tool of the step.

A step may be declared under the end marker.  No move of a walk leads there. -/
theorem Definition.completes_of_isChain {d : Definition} (valid : d.validate = .ok ()) (id : String)
    (chain : (d.toPipeline id).IsChain) :
    ∃ walk : List String, (∀ i, walk[i]? = (d.toPipeline id).walk i) ∧ walk.Nodup ∧
      walk.length ≤ (d.toPipeline id).steps.entries.length ∧
      ∀ {σ : Type} (h : Host σ) (settings : Settings) (initial : Table Value)
        (execution : ExecutionId) (now : Instant) (s : σ) (budget : Nat), walk.length < budget →
        let begun := Execution.fresh (d.toPipeline id) initial execution now
        h.GoesWell settings (d.toPipeline id) budget begun s →
          (h.run settings (d.toPipeline id) budget begun s).1.HasWalked walk ∧
          (h.calls settings (.drive (d.toPipeline id) budget begun) s).reverse.filterMap
            (·.call.attempted?) = walk ∧
          ∀ m ∈ h.calls settings (.drive (d.toPipeline id) budget begun) s, ∀ a,
            m.call.attempted? = some a →
            ∃ step, (d.toPipeline id).step? a = some step ∧ m.call.tool = step.tool := by
  have sound := d.sound_toPipeline valid id
  obtain ⟨walk, walks, distinct, bounded⟩ := sound.exists_walk chain
  obtain ⟨rest, split⟩ : ∃ rest, walk = [] ++ (d.toPipeline id).start :: rest := by
    have first := walks 0
    cases walk with
    | nil => cases first
    | cons a rest =>
      cases first
      exact ⟨rest, rfl⟩
  refine ⟨walk, walks, distinct, bounded, ?_⟩
  intro σ h settings initial execution now s budget enough begun well
  obtain ⟨walked, attempted⟩ := well.walks_along sound chain.plain walks distinct
    (atWalk_fresh (d.toPipeline id) initial execution now) split (by simpa [split] using enough)
  refine ⟨walked, attempted.trans split.symm, fun m made a attempt => ?_⟩
  exact Host.tool_of_attempted? sound.keyed rfl made attempt

/-- Three steps in a row, the first of which has a shortcut for its success. -/
def Definition.chained : Definition where
  name := "chained"
  start := "draft"
  steps := .ofEntries
    [("draft",
        { id := "", tool := "write", onSuccess := some "review", next.default := some "end" }),
      ("review", { id := "review", tool := "read", next.default := some "archive" }),
      ("archive", { id := "archive", tool := "store", onSuccess := some "end" })]
  onComplete := some "announce"

theorem Definition.isChain_chained : (Definition.chained.toPipeline "p").IsChain where
  plain := by
    intro key s hs
    change (if "archive" = key then some _ else if "draft" = key then some _
      else if "review" = key then some _ else none) = some s at hs
    split at hs
    · cases hs
      exact ⟨rfl, rfl, rfl⟩
    · split at hs
      · cases hs
        exact ⟨rfl, rfl, rfl⟩
      · split at hs
        · cases hs
          exact ⟨rfl, rfl, rfl⟩
        · cases hs
  once := by
    -- the steps tell how often the walk has moved
    have position (i : Nat) (a : String)
        (met : (Definition.chained.toPipeline "p").walk i = some a) :
        i = ["draft", "review", "archive"].idxOf a := by
      match i with
      | 0 => cases met; rfl
      | 1 => cases met; rfl
      | 2 => cases met; rfl
      | i + 3 =>
        have ended : (Definition.chained.toPipeline "p").walk 3 = none := rfl
        rw [Pipeline.walk_eq_none_of_le ended (Nat.le_add_left 3 i)] at met
        cases met
    intro i j a first again
    rw [position i a first, position j a again]

/-- A run of the chain, with a hook at its end. -/
theorem Definition.completes_of_isChain_chained :
    let p := Definition.chained.toPipeline "p"
    let begun : Execution := .fresh p .empty ⟨0⟩ (.ofMilliseconds 0)
    Definition.chained.validate = .ok () ∧ p.IsChain ∧
      Host.agreeable.GoesWell {} p 4 begun () ∧
      (Host.agreeable.calls {} (.drive p 4 begun) ()).length = 4 ∧
      ∃ walk, walk = ["draft", "review", "archive"] ∧
        (Host.agreeable.run {} p 4 begun ()).1.HasWalked walk ∧
        (Host.agreeable.calls {} (.drive p 4 begun) ()).reverse.filterMap
          (·.call.attempted?) = walk := by
  intro p begun
  have valid : Definition.chained.validate = .ok () := by rfl
  have chain := Definition.isChain_chained
  have well : Host.agreeable.GoesWell {} p 4 begun () :=
    ⟨fun _ _ _ => rfl, fun _ _ _ _ => rfl⟩
  obtain ⟨walk, walks, -, -, runs⟩ := Definition.completes_of_isChain valid "p" chain
  have named : walk = ["draft", "review", "archive"] := by
    refine List.ext_getElem? fun i => (walks i).trans ?_
    match i with
    | 0 => rfl
    | 1 => rfl
    | 2 => rfl
    | i + 3 => exact Pipeline.walk_eq_none_of_le rfl (Nat.le_add_left 3 i)
  obtain ⟨walked, attempted, -⟩ := runs Host.agreeable {} .empty ⟨0⟩ (.ofMilliseconds 0) () 4
    (by rw [named]; decide) well
  exact ⟨valid, chain, well, rfl, walk, named, walked, attempted⟩

end StepFlow
