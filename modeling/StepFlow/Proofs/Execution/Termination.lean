import Mathlib.Algebra.GroupWithZero.Nat
import Mathlib.Algebra.Order.BigOperators.Group.Finset
import Mathlib.Logic.Relation
import StepFlow.Proofs.Execution.Safety
import StepFlow.Proofs.Execution.Turns

/-!
# Runs without cycles stop

The steps of a pipeline refer to each other.  Where these references have no cycle,
apart from steps that loop at themselves, a run stops on every host
(`Life.stops_of_acyclic`): it visits no step twice, and it advances at each step at
most once, or once more than the limit of its loop.

The proof keeps an account (`Accounted`).  Every step on the path brings an
*allowance* of advances, every advance uses one, and `Execution.due` is what the
current step has not used yet.  What is load-bearing is that the repetitions noted
for a loop survive whatever happens at its step, a person who responds included, and
that only leaving the step clears them: validation keeps the end of a loop from
leading back to its own step, where it would start again with a full allowance.
-/

namespace StepFlow

/-! ### References -/

/-- **One declared step refers to another**: it can lead there.  The end marker is no
step, and a step that loops may refer to itself. -/
def Pipeline.Refers (p : Pipeline) (a b : String) : Prop :=
  ∃ s, p.step? a = some s ∧ (∃ m, (m, b) ∈ s.references) ∧ b ≠ endMarker ∧
    (∃ s', p.step? b = some s') ∧ ¬ (s.loop.isSome = true ∧ b = a)

/-- **A pipeline without cycles.** -/
def Pipeline.Acyclic (p : Pipeline) : Prop := ∀ key, ¬ Relation.TransGen p.Refers key key

namespace Pipeline

variable {p : Pipeline}

/-- References that ascend have no cycle. -/
theorem acyclic_of_rank (rank : String → Nat) (ascends : ∀ a b, p.Refers a b → rank a < rank b) :
    p.Acyclic := by
  have along {a b : String} (path : Relation.TransGen p.Refers a b) : rank a < rank b := by
    induction path with
    | single refers => exact ascends _ _ refers
    | tail _ refers ih => exact ih.trans (ascends _ _ refers)
  exact fun key cycle => (along cycle).false

/-- Without cycles, a path along the references visits no step twice. -/
theorem Acyclic.nodup (acyclic : p.Acyclic) {path : List String} (chain : path.IsChain p.Refers) :
    path.Nodup := by
  have along : path.IsChain (Relation.TransGen p.Refers) := chain.imp fun _ _ => .single
  have pairwise : path.Pairwise (Relation.TransGen p.Refers) := List.isChain_iff_pairwise.mp along
  refine pairwise.imp ?_
  rintro a b before rfl
  exact acyclic a before

end Pipeline

/-- How often a run may advance while it visits a step. -/
def Step.allowance (s : Step) : Nat :=
  match s.loop with
  | none => 1
  | some l => l.limit.toNat + 1

/-- How often a run may advance while it visits the step under a key. -/
def Pipeline.allowance (p : Pipeline) (key : String) : Nat :=
  ((p.step? key).map (·.allowance)).getD 0

theorem Pipeline.allowance_of_step? {p : Pipeline} {key : String} {s : Step}
    (hs : p.step? key = some s) : p.allowance key = s.allowance := by
  unfold Pipeline.allowance
  rw [hs]
  rfl

/-- The advances that all steps of a pipeline together allow. -/
def Pipeline.totalAllowance (p : Pipeline) : Nat :=
  ∑ key ∈ (p.steps.entries.map (·.1)).toFinset, p.allowance key

/-- A path that visits no step twice allows no more than all steps together. -/
theorem Pipeline.sum_allowance_le (p : Pipeline) {path : List String} (nodup : path.Nodup) :
    (path.map p.allowance).sum ≤ p.totalAllowance := by
  rw [← List.sum_toFinset p.allowance nodup]
  refine Finset.sum_le_sum_of_ne_zero ?_
  intro key _ allows
  -- only declared steps allow anything
  cases hs : p.step? key with
  | none =>
    refine absurd ?_ allows
    unfold Pipeline.allowance
    rw [hs]
    rfl
  | some s =>
    rw [List.mem_toFinset]
    exact List.mem_map_of_mem ((p.steps.mem_entries_iff key s).mpr hs)

namespace Execution

variable {p : Pipeline} {past : List Turn} {t : Turn} {x y z u : Execution} {s : Step}

/-! ### What is left at the current step -/

/-- How often a run may still advance at a step that it has just entered. -/
def spare (x : Execution) (s : Step) : Nat :=
  match s.loop with
  | none => 0
  | some l => l.limit.toNat + 1 - (x.iterationsOf s.id).toNat

/-- **How often a run may still advance** at its current step. -/
def due (x : Execution) (s : Step) : Nat :=
  match x.status, s.loop with
  | .running, none => 1
  | .running, some _ => x.spare s
  | .waiting, _ => x.spare s
  | _, _ => 0

theorem due_of_isOver (finished : x.status.isOver = true) (s : Step) : x.due s = 0 := by
  unfold due
  cases status : x.status with
  | running => rw [status] at finished; cases finished
  | waiting => rw [status] at finished; cases finished
  | completed => rfl
  | failed => rfl

theorem due_of_waiting (waiting : x.status = .waiting) (s : Step) : x.due s = x.spare s := by
  unfold due
  rw [waiting]

theorem due_of_running (running : x.status = .running) {l : Loop} (hl : s.loop = some l) :
    x.due s = x.spare s := by
  unfold due
  rw [running, hl]

theorem due_le_allowance (x : Execution) (s : Step) : x.due s ≤ s.allowance := by
  unfold due spare Step.allowance
  cases x.status <;> cases s.loop <;> simp

/-- A run that is running may advance. -/
theorem one_le_due (order : Tidy p x) (running : x.status = .running)
    (hs : p.step? x.current = some s) : 1 ≤ x.due s := by
  cases hl : s.loop with
  | none => simp [due, running, hl]
  | some l =>
    rw [due_of_running running hl]
    simp only [spare, hl]
    -- the repetitions that are noted keep to the limit
    have within : (x.iterationsOf s.id).toNat ≤ l.limit.toNat := by
      unfold iterationsOf
      cases noted : x.iterations.get? s.id with
      | none => simp
      | some n =>
        obtain ⟨-, s', l', hs', hl', -, most⟩ := order.iterations _ _ noted
        cases hs.symm.trans hs'
        cases hl.symm.trans hl'
        exact UInt32.le_iff_toNat_le.mp most
    omega

/-- **Entering a step uses one advance.** -/
theorem Enters.spare_lt_due (running : y.status = .running) (entered : Enters y s u) :
    u.spare s < y.due s := by
  cases entered with
  | straight hl => simp [spare, due, running, hl]
  | @again l u hl decided =>
    rw [due_of_running running hl]
    cases decides_decideLoop decided with
    | goesOn counters below others =>
      have raised := UInt32.toNat_add_one_of_not_le below
      rw [UInt32.le_iff_toNat_le] at below
      simp only [spare, hl, iterationsOf_countIteration]
      show _ - (y.iterationsOf s.id + 1).toNat < _
      rw [raised]
      omega

end Execution

open Execution

variable {settings : Settings} {p : Pipeline} {past : List Turn} {t : Turn}
  {x y z u : Execution} {s : Step}

/-- **A result uses one advance** if a tool gives it, and none if a person does. -/
theorem Delivers.spare_le_due {r : ToolResult} (running : t.isAdvance = true → y.status = .running)
    (given : Delivers s t y u r) : (if t.isAdvance = true then 1 else 0) + u.spare s ≤ y.due s := by
  cases given with
  | tool entered =>
    have used := entered.spare_lt_due (running rfl)
    show 1 + u.spare s ≤ y.due s
    omega
  | approval waiting r =>
    rw [due_of_waiting waiting]
    show 0 + y.spare s ≤ y.spare s
    omega

/-! ### The account of a run -/

/-- **The account of a run.**  Its path follows the references, and what it has advanced
and may still advance at its current step is covered by the allowances of its path. -/
structure Accounted (p : Pipeline) (past : List Turn) (x : Execution) : Prop where
  chain : x.path.IsChain p.Refers
  covered : ∀ s, p.step? x.current = some s →
    past.countP Turn.isAdvance + x.due s ≤ (x.path.map p.allowance).sum

namespace Accounted

/-- What a run has advanced is covered. -/
theorem advances_le (account : Accounted p past x) (declared : ∃ s, p.step? x.current = some s) :
    past.countP Turn.isAdvance ≤ (x.path.map p.allowance).sum := by
  obtain ⟨s, hs⟩ := declared
  exact (Nat.le_add_right _ _).trans (account.covered s hs)

/-- An account is settled where its run ends. -/
theorem of_isOver (chain : z.path.IsChain p.Refers)
    (covered : past.countP Turn.isAdvance ≤ (z.path.map p.allowance).sum)
    (finished : z.status.isOver = true) : Accounted p past z where
  chain := chain
  covered s _ := by
    rw [due_of_isOver finished, Nat.add_zero]
    exact covered

/-- **A run that goes on takes its account along.**  What the step has left may be used
later if the run stays, and the next step brings its own allowance if the run moves. -/
theorem goes {targets : String → Prop} {used : Nat} (account : Accounted p past y)
    (hs : p.step? y.current = some s) (order : Tidy p y) (path : u.path = y.path)
    (current : u.current = y.current) (goes : Goes u targets z)
    (count : (t :: past).countP Turn.isAdvance = past.countP Turn.isAdvance + used)
    (enough : used ≤ y.due s)
    (staying : targets y.current → y.current ≠ endMarker →
      s.loop.isSome = true ∧ used + u.spare s ≤ y.due s)
    (moving : ∀ t, targets t → t ≠ endMarker → t ≠ y.current → p.Refers y.current t) :
    Accounted p (t :: past) z := by
  have covered := account.covered s hs
  have chain := account.chain
  cases goes with
  | ends here finished =>
    rw [path] at here
    refine .of_isOver (here ▸ chain) ?_ finished
    rw [count, here]
    omega
  | stays here same counters iterations running back onward =>
    rw [path] at here
    rw [current] at same back onward
    obtain ⟨loops, left⟩ := staying back onward
    obtain ⟨l, hl⟩ := Option.isSome_iff_exists.mp loops
    refine ⟨here ▸ chain, fun s' hs' => ?_⟩
    rw [same] at hs'
    cases hs.symm.trans hs'
    have kept : z.spare s = u.spare s := by
      unfold Execution.spare iterationsOf
      rw [iterations]
    rw [due_of_running running hl, kept, count, here]
    omega
  | @moves target longer here emptied running leads onward away =>
    rw [path] at longer
    rw [current] at away
    have next := moving target leads onward away
    constructor
    · rw [longer]
      refine List.isChain_append.mpr ⟨chain, List.isChain_singleton target, ?_⟩
      intro a ha b hb
      rw [order.ends] at ha
      cases ha
      cases hb
      exact next
    · intro s' hs'
      rw [here] at hs'
      have brought := Pipeline.allowance_of_step? hs'
      have due := due_le_allowance z s'
      rw [longer, List.map_append, List.sum_append, count]
      simp only [List.map_cons, List.map_nil, List.sum_cons, List.sum_nil, brought]
      omega

end Accounted

/-! ### Turns -/

/-- **A turn keeps the account of a run.** -/
theorem Takes.accounted (sound : p.Sound) (exits : p.Exits) (acyclic : p.Acyclic)
    (h : Takes settings p past t y z) (order : Coherent p y)
    (declared : ∃ s, p.step? y.current = some s) (account : Accounted p past y) :
    Accounted p (t :: past) z := by
  obtain ⟨s, hs⟩ := declared
  have key := sound.keyed _ s hs
  have covered := account.covered s hs
  have count := List.countP_cons (p := Turn.isAdvance) (a := t) (l := past)
  have enough : (if t.isAdvance = true then 1 else 0) ≤ y.due s := by
    split
    · rename_i advances
      exact one_le_due order.toTidy (h.running advances) hs
    · exact Nat.zero_le _
  -- a reference that leads on from the current step
  have refers {target : String} (named : ∃ m, (m, target) ∈ s.references)
      (onward : target ≠ endMarker) (away : ¬ (s.loop.isSome = true ∧ target = y.current)) :
      p.Refers y.current target := by
    obtain ⟨m, listed⟩ := named
    have declared := (sound.targets _ s hs m target listed).resolve_left onward
    exact ⟨s, hs, ⟨m, listed⟩, onward, declared, away⟩
  cases h.does hs with
  | idles => exact ⟨account.chain, account.covered⟩
  | @fails _ _ u here f now =>
    have path : ((u.fail f).touch now).path = y.path := here
    refine .of_isOver (here ▸ account.chain) ?_ rfl
    rw [path, count]
    omega
  | @suspends _ u entered now =>
    refine ⟨entered.path ▸ account.chain, fun s' hs' => ?_⟩
    change p.step? u.current = some s' at hs'
    rw [entered.samePlace.current] at hs'
    cases hs.symm.trans hs'
    have used := entered.spare_lt_due (h.running rfl)
    have left : (u.suspend.touch now).due s = u.spare s := due_of_waiting rfl s
    show List.countP Turn.isAdvance (Turn.advance :: past) + _ ≤ (List.map p.allowance u.path).sum
    rw [left, entered.path, count]
    show _ + 1 + _ ≤ _
    omega
  | concludes given now =>
    have goes := given.goes order h.running hs key settings.failOnUnroutedError now
    refine account.goes hs order.toTidy given.path given.current goes count enough ?_ ?_
    · intro back onward
      refine ⟨?_, given.spare_le_due h.running⟩
      -- a step that leads back to itself without a loop is a cycle
      by_contra straight
      refine acyclic y.current (.single (refers ?_ onward fun loops => straight loops.1))
      exact back.resolve_left fun loops => straight loops.1
    · intro target leads onward away
      refine refers ?_ onward fun loops => away loops.2
      exact leads.resolve_left fun loops => away (loops.2.trans key)
  | @leaves _ u l hl decided now =>
    have decides := decides_decideLoop decided
    have goes := Goes.of_leaves (order.underway (h.running rfl)) hs key hl decided now
    have path : (u.resetLoop s.id).path = y.path := decides.path
    have current : (u.resetLoop s.id).current = y.current := decides.samePlace.current
    refine account.goes hs order.toTidy path current goes count enough ?_ ?_
    · intro back
      -- the end of a loop leaves its step
      rcases exits _ s hs with straight | leaves
      · rw [straight] at hl
        cases hl
      · exact absurd back leaves
    · intro target leads onward away
      refine refers ⟨.next, (s.mem_references_iff .next target).mpr (.inl ⟨rfl, leads⟩)⟩ onward ?_
      exact fun loops => away loops.2

/-- Every run of a sound pipeline without cycles keeps its account. -/
theorem Life.accounted (sound : p.Sound) (exits : p.Exits) (acyclic : p.Acyclic)
    (life : Life settings p past x) : Accounted p past x := by
  induction life with
  | fresh initial id now =>
    refine ⟨List.isChain_singleton _, fun s hs => ?_⟩
    have brought : p.allowance p.start = s.allowance := Pipeline.allowance_of_step? hs
    have due := due_le_allowance (.fresh p initial id now) s
    show 0 + _ ≤ (List.map p.allowance [p.start]).sum
    rw [List.map_cons, List.map_nil, List.sum_cons, List.sum_nil, brought]
    omega
  | turn life h before =>
    exact h.accounted sound exits acyclic (life.coherent sound.keyed) (life.safe sound).declared
      before

/-! ### Driving a run -/

namespace Host

variable {σ : Type} (h : Host σ) (settings : Settings) (p : Pipeline)

/-- **How many steps a run advances by** on a budget. -/
def stepsTaken : (budget : Nat) → Execution → σ → Nat
  | 0, _, _ => 0
  | budget + 1, x, s =>
    if !x.isRunning then 0
    else if h.isCancelled x.id s then 0
    else
      let (y, s) := h.advance settings p x s
      let y := y.touch (h.now s)
      stepsTaken budget y (if y.isRunning then h.publish y s else s) + 1

variable {h settings p}

/-- A run that is still running has used up its budget. -/
theorem stepsTaken_of_running {budget : Nat} {x : Execution} {s : σ}
    (running : (h.run settings p budget x s).1.status = .running) :
    h.stepsTaken settings p budget x s = budget := by
  induction budget generalizing x s with
  | zero => rfl
  | succ budget ih =>
    unfold run at running
    unfold stepsTaken
    by_cases halted : (!x.isRunning) = true
    · -- a run that had stopped before is not running
      rw [if_pos halted] at running
      have going : x.isRunning = true := decide_eq_true running
      rw [going] at halted
      cases halted
    · rw [if_neg halted] at running ⊢
      by_cases seen : h.isCancelled x.id s = true
      · rw [if_pos seen] at running
        cases running
      · rw [if_neg seen] at running ⊢
        simp only at running ⊢
        rw [ih running]

/-- **Once a run has stopped**, a larger budget changes nothing. -/
theorem run_eq_of_lt {n budget : Nat} {x : Execution} {s : σ}
    (stopped : (h.run settings p n x s).1.status ≠ .running) (larger : n < budget) :
    h.run settings p budget x s = h.run settings p (n + 1) x s := by
  induction n generalizing budget x s with
  | zero =>
    obtain ⟨budget, rfl⟩ := Nat.exists_eq_add_of_lt larger
    have halted : x.status ≠ .running := stopped
    rw [h.run_of_halted settings p halted, h.run_of_halted settings p halted]
  | succ n ih =>
    obtain ⟨budget, rfl⟩ : ∃ b, budget = b + 1 := ⟨budget - 1, by omega⟩
    by_cases running : x.status = .running
    · cases seen : h.isCancelled x.id s with
      | true =>
        rw [h.run_of_isCancelled settings p running seen,
          h.run_of_isCancelled settings p running seen]
      | false =>
        rw [h.run_of_running settings p running seen] at stopped
        rw [h.run_of_running settings p running seen, h.run_of_running settings p running seen]
        exact ih stopped (by omega)
    · rw [h.run_of_halted settings p running, h.run_of_halted settings p running]

end Host

/-- **Driving a run takes turns**, and it advances by as many of them as it takes steps.
The past may have seen a cancellation, so the host may do as it likes with its flag. -/
theorem Life.drive {σ : Type} (h : Host σ) (budget : Nat) (s : σ)
    (asked : x.status = .running → Turn.cancel ∈ past) (life : Life settings p past x) :
    ∃ turns, Life settings p (turns ++ past) (h.run settings p budget x s).1 ∧
      turns.countP Turn.isAdvance = h.stepsTaken settings p budget x s := by
  -- on the budget; the turns so far become the past of the runs that are left
  induction budget generalizing past x s with
  | zero => exact ⟨[], life, rfl⟩
  | succ budget ih =>
    unfold Host.run Host.stepsTaken
    by_cases running : x.status = .running
    · have going : (!x.isRunning) = false := by simp [Execution.isRunning, running]
      simp only [going, Bool.false_eq_true, if_false]
      by_cases seen : h.isCancelled x.id s = true
      · simp only [seen, if_true]
        exact ⟨[.stop], life.turn (.stop (h.now s) running (asked running)), rfl⟩
      · simp only [seen]
        have next := life.turn (.advance h s (h.now (h.advance settings p x s).2) running
          fun _ _ => asked running)
        obtain ⟨turns, driven, counted⟩ :=
          ih _ (fun _ => List.mem_cons_of_mem _ (asked running)) next
        refine ⟨turns ++ [.advance], ?_, ?_⟩
        · rw [List.append_assoc]
          exact driven
        · rw [List.countP_append, counted]
          rfl
    · have halted : (!x.isRunning) = true := by simp [Execution.isRunning, running]
      simp only [halted, if_true]
      exact ⟨[], life, rfl⟩

/-- What a run is driven to on any host is again in the life of a run, with as many
advances more as steps were taken. -/
theorem Life.driven {σ : Type} (h : Host σ) (budget : Nat) (s : σ)
    (life : Life settings p past x) :
    ∃ turns, Life settings p turns (h.run settings p budget x s).1 ∧
      turns.countP Turn.isAdvance =
        past.countP Turn.isAdvance + h.stepsTaken settings p budget x s := by
  by_cases running : x.status = .running
  · -- to ask a run to stop is no advance
    have asked := life.turn (.cancelRunning running)
    obtain ⟨turns, driven, counted⟩ := asked.drive h budget s fun _ => List.mem_cons_self
    refine ⟨_, driven, ?_⟩
    rw [List.countP_append, counted, List.countP_cons_of_neg Bool.false_ne_true, Nat.add_comm]
  · obtain ⟨turns, driven, counted⟩ := life.drive h budget s fun going => absurd going running
    refine ⟨_, driven, ?_⟩
    rw [List.countP_append, counted, Nat.add_comm]

/-- **Runs without cycles stop.**  In every state of the life of a run of a valid
definition without cycles, the run has visited no step twice, and it has advanced no more
often than the steps that it visited allow: once, or once more than the limit of the
loop.  On whatever host it is driven on, it keeps to this bound, and from some budget on
it has stopped and no larger budget changes the result. -/
theorem Life.stops_of_acyclic {d : Definition} (valid : d.validate = .ok ()) {id : String}
    (acyclic : (d.toPipeline id).Acyclic) (life : Life settings (d.toPipeline id) past x) :
    x.path.Nodup ∧
      past.countP Turn.isAdvance ≤ (x.path.map (d.toPipeline id).allowance).sum ∧
      ∀ {σ : Type} (h : Host σ) (s : σ),
        (∀ budget,
          past.countP Turn.isAdvance + h.stepsTaken settings (d.toPipeline id) budget x s ≤
            ((h.run settings (d.toPipeline id) budget x s).1.path.map
              (d.toPipeline id).allowance).sum) ∧
        ∃ n, ∀ budget, n ≤ budget →
          (h.run settings (d.toPipeline id) budget x s).1.status ≠ .running ∧
            h.run settings (d.toPipeline id) budget x s =
              h.run settings (d.toPipeline id) n x s := by
  have sound := Definition.sound_toPipeline valid id
  have exits := Definition.exits_toPipeline valid id
  generalize d.toPipeline id = p at *
  -- what holds of every life holds of what a host drives the run to
  have visited {turns : List Turn} {y : Execution} (life : Life settings p turns y) :
      y.path.Nodup ∧ turns.countP Turn.isAdvance ≤ (y.path.map p.allowance).sum := by
    have account := life.accounted sound exits acyclic
    exact ⟨acyclic.nodup account.chain, account.advances_le (life.safe sound).declared⟩
  refine ⟨(visited life).1, (visited life).2, fun h s => ⟨fun budget => ?_, ?_⟩⟩
  · obtain ⟨turns, driven, counted⟩ := life.driven h budget s
    rw [← counted]
    exact (visited driven).2
  · -- a budget larger than all steps allow cannot be used up
    have stopped (budget : Nat) (larger : p.totalAllowance < budget) :
        (h.run settings p budget x s).1.status ≠ .running := by
      intro running
      obtain ⟨turns, driven, counted⟩ := life.driven h budget s
      obtain ⟨nodup, within⟩ := visited driven
      rw [Host.stepsTaken_of_running running] at counted
      have total := p.sum_allowance_le nodup
      omega
    refine ⟨p.totalAllowance + 2, fun budget enough => ⟨stopped budget (by omega), ?_⟩⟩
    exact Host.run_eq_of_lt (stopped _ (Nat.lt_succ_self _)) (by omega)

/-- A step that is repeated twice and asks for it itself, and a gate after it. -/
def Definition.straight : Definition where
  name := "straight"
  start := "draft"
  steps := .ofEntries
    [("draft",
        { id := "", tool := "write", next.default := some "review",
          loop := some (.counting 0 1 2), onSuccess := some "draft" }),
      ("review", { id := "review", tool := "", waitsForHuman := true })]

theorem Definition.acyclic_straight : (Definition.straight.toPipeline "p").Acyclic := by
  refine Pipeline.acyclic_of_rank (fun key => if key = "draft" then 0 else 1) ?_
  rintro a b ⟨s, hs, ⟨m, listed⟩, -, -, away⟩
  change (if "draft" = a then some _ else if "review" = a then some _ else none) = some s at hs
  split at hs
  · -- the first step refers to itself, where it loops, and to the second
    rename_i first
    cases hs
    cases first
    have targets : b = "review" ∨ b = "draft" := by
      rcases List.mem_cons.mp listed with named | listed
      · exact .inl (congrArg Prod.snd named)
      · exact .inr (congrArg Prod.snd (List.mem_singleton.mp listed))
    rcases targets with rfl | rfl
    · decide
    · exact absurd ⟨rfl, rfl⟩ away
  · split at hs
    · cases hs
      cases listed
    · cases hs

/-- A run that has visited both steps and waits at the second. -/
theorem Life.stops_of_acyclic_straight :
    Definition.straight.validate = .ok () ∧ (Definition.straight.toPipeline "p").Acyclic ∧
      ∃ past x, Life {} (Definition.straight.toPipeline "p") past x ∧ x.status = .waiting ∧
        x.path = ["draft", "review"] ∧ past.countP Turn.isAdvance = 4 ∧ x.path.Nodup ∧
        past.countP Turn.isAdvance ≤
          (x.path.map (Definition.straight.toPipeline "p").allowance).sum := by
  have valid : Definition.straight.validate = .ok () := by rfl
  have acyclic := Definition.acyclic_straight
  have begun : Life {} (Definition.straight.toPipeline "p") [] _ :=
    .fresh .empty ⟨0⟩ (.ofMilliseconds 0)
  obtain ⟨past, life, counted⟩ := begun.driven Host.agreeable 5 ()
  obtain ⟨nodup, within, -⟩ := life.stops_of_acyclic valid acyclic
  exact ⟨valid, acyclic, past, _, life, rfl, rfl, counted, nodup, within⟩

end StepFlow
