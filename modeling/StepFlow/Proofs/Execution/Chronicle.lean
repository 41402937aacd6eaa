import StepFlow.Proofs.Execution.Hosts

/-!
# What a run does

A life says which states a run passes through.  Here the same states are kept together with
what the run did to come there: the events it told and the calls it made, the latest first
(`Chronicle`).  A run is *driven* while it advances, and *settled* once it has asked a person
or is finished; only a settled run takes in responses.

Nothing is said about how a host remembers what was done.  It need only remember it, and
nothing else about the run (`Host.Remembers`).  A host that does so remembers a chronicle of
every run that is driven on it (`Host.Remembers.run`).

What is load-bearing is `Host.Remembers.advance`: what an advance does is one of four things,
each with a fixed list of deeds (`Execution.Enacts`).  Statements about events and calls are
proved along `Enacts` and `Chronicle`, and look at no host.
-/

namespace StepFlow

/-- **What a run does to the world.** -/
inductive Deed where
  | told (event : Event)
  | called (c : Call)

/-- **A deed of an advance**: an attempt at a step, or an event about a step. -/
def Deed.OfStep (id : ExecutionId) : Deed → Prop
  | called c => ∃ step, c.purpose = .attempt id step
  | told (.started _ _) => False
  | told (.humanRequested _) => False
  | told (.humanReceived _ _) => False
  | told (.finished _) => False
  | told _ => True

/-- A call is a deed if there is such a tool. -/
def Call.deeds (knows : String → Bool) (c : Call) : List Deed :=
  if knows c.tool then [.called c] else []

/-- What is done ahead of attempt number `n + 1` at a step, each attempt being the call `c`. -/
def Step.lead (s : Step) (knows : String → Bool) (c : Call) : (n : Nat) → List Deed
  | 0 => [.told (.stepStarted s.id)]
  | n + 1 => .told (.stepRetrying s.id (n + 2)) :: (c.deeds knows ++ s.lead knows c n)

/-- What is told of a result whose route is known. -/
def Event.ofOutcome (s : Step) (attempts : Nat) (o : Outcome) (route : Route) : Event :=
  if o.success then .stepCompleted s.id attempts route.target
  else .stepFailed s.id attempts o.errorMessage

namespace Execution

/-- An attempt at a step. -/
def attemptAt (x : Execution) (s : Step) : Call := ⟨.attempt x.id s.id, s.tool, x.parameters s⟩

/-- What is done by `n + 1` attempts at a step. -/
def attempted (x : Execution) (knows : String → Bool) (s : Step) (n : Nat) : List Deed :=
  (x.attemptAt s).deeds knows ++ s.lead knows (x.attemptAt s) n

/-- What is told when a run enters a step. -/
def entering (x : Execution) (s : Step) : List Deed :=
  if s.loop.isSome then [.told (.loopIteration s.id (x.iterationsOf s.id))] else []

/-- The call of the hook of a run, if it has one. -/
def hookCall? (p : Pipeline) (x : Execution) : Option Call :=
  (Host.hookOf p x.status).map fun tool => ⟨.hook x.id, tool, Host.hookParameters x⟩

/-- What is done to call the hook of a run. -/
def hooked (x : Execution) (knows : String → Bool) (p : Pipeline) : List Deed :=
  match hookCall? p x with
  | none => []
  | some c => c.deeds knows

/-- **What becomes of a step** that the run `u` attempted so many times, and what is told of
it: `r` is the result of the last attempt. -/
inductive Meets (strict : Bool) (s : Step) (attempts : Nat) (u : Execution) (r : ToolResult) :
    List Deed → Execution → Prop
  /-- The attempts are cut short. -/
  | stops : Meets strict s attempts u r [] ((u.record s.id r).fail .cancelled)
  /-- A condition of the routes has no value. -/
  | undecided (f : Expression.Failure) :
      Meets strict s attempts u r [] ((u.record s.id r).fail (.expression f))
  /-- The run takes a route, unless it is not let to. -/
  | routed {route : Route} (h : (u.record s.id r).chooseRoute s r.toOutcome = .ok route) :
      Meets strict s attempts u r [.told (.ofOutcome s attempts r.toOutcome route)]
        ((u.record s.id r).follow strict s route r.toOutcome)

/-- **What an advance does**, the latest first. -/
inductive Enacts (settings : Settings) (knows : String → Bool) (p : Pipeline) (x : Execution) :
    List Deed → Execution → Prop
  /-- The current step is not declared, or its loop has no value. -/
  | fails (f : Fault) : Enacts settings knows p x [] (x.fail f)
  /-- The loop of the step ends. -/
  | leaves {s : Step} {l : Loop} {u : Execution} (hs : p.step? x.current = some s)
      (hl : s.loop = some l) (h : x.decideLoop s.id l = .ok (false, u)) :
      Enacts settings knows p x [.told (.loopExited s.id (u.iterationsOf s.id))]
        ((u.resetLoop s.id).transition s s.next.default)
  /-- The step is entered, and its gate suspends the run. -/
  | suspends {s : Step} {u : Execution} (hs : p.step? x.current = some s) (h : Enters x s u)
      (gate : s.waitsForHuman = true) : Enacts settings knows p x (u.entering s) u.suspend
  /-- The step is entered and attempted. -/
  | performs {s : Step} {u y : Execution} {n : Nat} {r : ToolResult} {told : List Deed}
      (hs : p.step? x.current = some s) (h : Enters x s u) (gate : s.waitsForHuman = false)
      (meets : Meets settings.failOnUnroutedError s (n + 1) u r told y) :
      Enacts settings knows p x (told ++ (u.attempted knows s n ++ u.entering s)) y

/-- **What becomes of a run after a step**: it fails, or goes where it is told. -/
inductive ComesTo (x : Execution) (s : Step) : Execution → Prop
  | fails (f : Fault) : ComesTo x s (x.fail f)
  | goes (next : Option String) : ComesTo x s (x.transition s next)

theorem comesTo_follow (x : Execution) (strict : Bool) (s : Step) (route : Route) (o : Outcome) :
    ComesTo x s (x.follow strict s route o) := by
  unfold follow
  split
  · exact .fails _
  · exact .goes _

theorem Meets.comesTo {strict : Bool} {s : Step} {attempts : Nat} {u y : Execution}
    {r : ToolResult} {told : List Deed} (h : Meets strict s attempts u r told y) :
    ComesTo (u.record s.id r) s y := by
  cases h with
  | stops => exact .fails _
  | undecided => exact .fails _
  | routed => exact comesTo_follow _ _ _ _ _

theorem ComesTo.id_eq {x y : Execution} {s : Step} (h : ComesTo x s y) : y.id = x.id := by
  cases h with
  | fails => rfl
  | goes next => exact (transitions_transition x s next).id_eq

/-- **A response** ends the run, or gives its step a result. -/
theorem comesTo_respond (x : Execution) (strict : Bool) (p : Pipeline) (r : HumanResponse)
    (now : Instant) :
    (∃ f, x.respond strict p r now = (x.resume r).fail f) ∨
      ∃ s result, p.step? x.current = some s ∧
        ComesTo ((x.resume r).record s.id result) s (x.respond strict p r now) := by
  cases approved : r.approved with
  | false => exact .inl ⟨_, respond_of_not_approved approved strict now⟩
  | true =>
    cases hs : p.step? x.current with
    | none =>
      refine .inl ⟨.stepNotFound x.current, ?_⟩
      unfold respond passGate
      simp only [approved, if_true, merge, hs]
      rfl
    | some s =>
      refine .inr ⟨s, ⟨.succeeded r.input, .instantaneous now⟩, rfl, ?_⟩
      rw [respond_of_approved hs approved]
      have ends := concludes_conclude (x.resume r) strict s
        ⟨.succeeded r.input, .instantaneous now⟩
      generalize (Execution.conclude _ strict s _).2 = y at ends
      cases ends with
      | undecided => exact .fails _
      | unrouted => exact .fails _
      | routed => exact .goes _

theorem Enacts.id_eq {settings : Settings} {knows : String → Bool} {p : Pipeline}
    {x y : Execution} {new : List Deed} (h : Enacts settings knows p x new y) : y.id = x.id := by
  cases h with
  | fails => rfl
  | leaves _ _ decided =>
    exact (transitions_transition _ _ _).id_eq.trans (decides_decideLoop decided).samePlace.id
  | suspends _ entered => exact entered.samePlace.id
  | performs _ entered _ meets => exact meets.comesTo.id_eq.trans entered.samePlace.id

/-- An advance that goes on has done something. -/
theorem Enacts.length_pos {settings : Settings} {knows : String → Bool} {p : Pipeline}
    {x y : Execution} {new : List Deed} (h : Enacts settings knows p x new y)
    (running : y.status = .running) : 0 < new.length := by
  cases h with
  | fails => cases running
  | leaves => exact Nat.one_pos
  | suspends => cases running
  | @performs s u _ n _ told _ _ _ _ =>
    have started : 0 < (s.lead knows (u.attemptAt s) n).length := by
      cases n <;> exact Nat.succ_pos _
    simp only [List.length_append, attempted]
    omega

end Execution

/-! ### The deeds of an advance -/

section OfStep

variable {knows : String → Bool} {id : ExecutionId}

theorem Call.ofStep_deeds {c : Call} {step : String} (attempt : c.purpose = .attempt id step) :
    ∀ deed ∈ c.deeds knows, deed.OfStep id := by
  intro deed done
  unfold Call.deeds at done
  split at done
  · cases List.mem_singleton.mp done
    exact ⟨step, attempt⟩
  · cases done

theorem Step.ofStep_lead (s : Step) {c : Call} {step : String}
    (attempt : c.purpose = .attempt id step) (n : Nat) :
    ∀ deed ∈ s.lead knows c n, deed.OfStep id := by
  induction n with
  | zero =>
    intro deed done
    cases List.mem_singleton.mp done
    trivial
  | succ n ih =>
    intro deed done
    rcases List.mem_cons.mp done with rfl | done
    · trivial
    · rcases List.mem_append.mp done with called | earlier
      · exact Call.ofStep_deeds attempt deed called
      · exact ih deed earlier

theorem Event.ofStep_ofOutcome (s : Step) (attempts : Nat) (o : Outcome) (route : Route) :
    Deed.OfStep id (.told (.ofOutcome s attempts o route)) := by
  unfold Event.ofOutcome
  split <;> trivial

theorem Execution.ofStep_entering (u : Execution) (s : Step) :
    ∀ deed ∈ u.entering s, deed.OfStep id := by
  intro deed done
  unfold Execution.entering at done
  split at done
  · cases List.mem_singleton.mp done
    trivial
  · cases done

/-- **An advance is about steps**, and its calls are attempts. -/
theorem Execution.Enacts.ofStep {settings : Settings} {p : Pipeline} {x y : Execution}
    {new : List Deed} (h : Enacts settings knows p x new y) :
    ∀ deed ∈ new, deed.OfStep x.id := by
  intro deed done
  cases h with
  | fails => cases done
  | leaves =>
    cases List.mem_singleton.mp done
    trivial
  | suspends => exact ofStep_entering _ _ deed done
  | @performs s u y n r told hs entered gate meets =>
    have attempt : (u.attemptAt s).purpose = .attempt x.id s.id :=
      congrArg (Purpose.attempt · s.id) entered.samePlace.id
    rcases List.mem_append.mp done with last | done
    · cases meets with
      | stops => cases last
      | undecided => cases last
      | routed =>
        cases List.mem_singleton.mp last
        exact Event.ofStep_ofOutcome _ _ _ _
    · rcases List.mem_append.mp done with attempted | entry
      · rcases List.mem_append.mp attempted with called | lead
        · exact Call.ofStep_deeds attempt deed called
        · exact s.ofStep_lead attempt n deed lead
      · exact ofStep_entering _ _ deed entry

end OfStep

open Execution

/-- **The chronicle of a run**: the state it has come to, and what was done, the latest
first.  It is settled once it has asked a person or is finished, and driven otherwise. -/
inductive Chronicle (settings : Settings) (knows : String → Bool) (p : Pipeline) :
    (settled : Bool) → List Deed → Execution → Prop
  | begins (initial : Table Value) (id : ExecutionId) (now : Instant) :
      Chronicle settings knows p false [.told (.started p.id p.name)] (.fresh p initial id now)
  | advances {d new : List Deed} {x y : Execution} (past : Chronicle settings knows p false d x)
      (running : x.status = .running) (h : Enacts settings knows p x new y) (now : Instant) :
      Chronicle settings knows p false (new ++ d) (y.touch now)
  /-- The run finds that it was cancelled. -/
  | stops {d : List Deed} {x : Execution} (past : Chronicle settings knows p false d x)
      (running : x.status = .running) (now : Instant) :
      Chronicle settings knows p false d ((x.fail .cancelled).touch now)
  /-- A person is asked. -/
  | asks {d : List Deed} {x : Execution} (past : Chronicle settings knows p false d x)
      (waiting : x.status = .waiting) :
      Chronicle settings knows p true (.told (.humanRequested x.current) :: d) x
  /-- The hook is called, and the run is finished. -/
  | finishes {d : List Deed} {x : Execution} (past : Chronicle settings knows p false d x)
      (halted : x.status.isOver = true) :
      Chronicle settings knows p true (.told (.finished x.status) :: (x.hooked knows p ++ d)) x
  /-- A person responds. -/
  | responds {d : List Deed} {x : Execution} (past : Chronicle settings knows p true d x)
      (waiting : x.status = .waiting) (r : HumanResponse) (start stop : Instant) :
      Chronicle settings knows p false (.told (.humanReceived x.current r.approved) :: d)
        ((x.respond settings.failOnUnroutedError p r start).touch stop)
  /-- The run is cancelled while it waits. -/
  | cancels {d : List Deed} {x : Execution} (past : Chronicle settings knows p true d x)
      (waiting : x.status = .waiting) (now : Instant) :
      Chronicle settings knows p false d ((x.fail .cancelled).touch now)

/-- A run that is settled is not running. -/
theorem Chronicle.not_running {settings : Settings} {knows : String → Bool} {p : Pipeline}
    {d : List Deed} {x : Execution} (h : Chronicle settings knows p true d x) :
    x.status ≠ .running := by
  intro running
  cases h with
  | asks _ waiting => rw [running] at waiting; cases waiting
  | finishes _ halted => rw [running] at halted; cases halted

/-! ### Hosts that remember -/

/-- **A host remembers** what is done for a run: `held d s` says that it has done `d` when its
state is `s`. -/
structure Host.Remembers {σ : Type} (h : Host σ) (knows : String → Bool) (id : ExecutionId)
    (held : List Deed → σ → Prop) : Prop where
  call : ∀ c timeout {d s}, c.purpose.execution = id → held d s →
    held (c.deeds knows ++ d) (h.call c timeout s).2
  emit : ∀ event {d s}, held d s → held (.told event :: d) (h.emit id event s)
  pause : ∀ ms {d s}, held d s → held d (h.pause ms s)

namespace Host.Remembers

variable {σ : Type} {h : Host σ} {knows : String → Bool} {id : ExecutionId}
  {held : List Deed → σ → Prop} (remembers : h.Remembers knows id held) (settings : Settings)
  {p : Pipeline} {x u : Execution} {step : Step} {d : List Deed} {s : σ}

include remembers

/-- **The attempts at a step**, from attempt number `n + 1` on. -/
theorem repeated (parameters : Table Value) {left n : Nat}
    (before : held (step.lead knows ⟨.attempt id step.id, step.tool, parameters⟩ n ++ d) s) :
    let c : Call := ⟨.attempt id step.id, step.tool, parameters⟩
    let came := (h.attempt settings id step parameters
      fun n _ s => h.emit id (.stepRetrying step.id n) s).repeat left (n + 1) s
    ∃ m, came.1.attempts = m + 1 ∧ held (c.deeds knows ++ step.lead knows c m ++ d) came.2 := by
  intro c
  induction left generalizing n s with
  | zero =>
    have called := remembers.call c (step.timeLimit settings) rfl before
    rw [← List.append_assoc] at called
    exact ⟨n, rfl, called⟩
  | succ left ih =>
    have called := remembers.call c (step.timeLimit settings) rfl before
    rw [← List.append_assoc] at called
    rw [Attempt.repeat]
    simp only
    split
    · exact ⟨n, rfl, called⟩
    · split
      · exact ⟨n, rfl, called⟩
      · -- one more attempt, after it was told and after a pause
        have told := remembers.emit (.stepRetrying step.id (n + 2)) called
        refine ih ?_
        show held (step.lead knows c (n + 1) ++ d) (h.rest settings _)
        unfold Host.rest
        split
        · exact told
        · exact remembers.pause _ told

variable (mine : x.id = id)

include mine

theorem attempts (before : held d s) :
    ∃ n, (h.attempts settings step x s).1.attempts = n + 1 ∧
      held (x.attempted knows step n ++ d) (h.attempts settings step x s).2 := by
  subst mine
  exact remembers.repeated settings (n := 0) (x.parameters step) (remembers.emit _ before)

/-- What becomes of a step that was attempted. -/
theorem handle {came : Invocation × σ} {n : Nat} (attempts : came.1.attempts = n)
    (before : held d came.2) :
    ∃ told, Meets settings.failOnUnroutedError step n x came.1.result told
        (h.handle settings step x came).1 ∧
      held (told ++ d) (h.handle settings step x came).2 := by
  subst mine attempts
  unfold Host.handle
  split
  · exact ⟨[], .stops, before⟩
  · unfold conclude
    cases chosen : (x.record step.id came.1.result).chooseRoute step came.1.result.toOutcome with
    | error f =>
      simp only [chosen]
      exact ⟨[], .undecided f, before⟩
    | ok route =>
      simp only [chosen]
      refine ⟨_, .routed chosen, ?_⟩
      unfold emitOutcome Event.ofOutcome
      split <;> exact remembers.emit _ before

theorem enter (hs : p.step? x.current = some step) (entered : Enters x step u)
    (before : held (u.entering step ++ d) s) :
    ∃ new, Enacts settings knows p x new (h.enter settings step u s).1 ∧
      held (new ++ d) (h.enter settings step u s).2 := by
  have same : u.id = id := entered.samePlace.id.trans mine
  unfold Host.enter
  cases gate : step.waitsForHuman with
  | true => exact ⟨_, .suspends hs entered gate, before⟩
  | false =>
    simp only [Bool.false_eq_true, if_false]
    rw [perform_eq]
    obtain ⟨n, attempts, attempted⟩ := remembers.attempts settings same before
    obtain ⟨told, meets, handled⟩ := remembers.handle settings same attempts attempted
    refine ⟨_, .performs hs entered gate meets, ?_⟩
    rw [List.append_assoc, List.append_assoc]
    exact handled

/-- **An advance is remembered** by what it does. -/
theorem advance (before : held d s) :
    ∃ new, Enacts settings knows p x new (h.advance settings p x s).1 ∧
      held (new ++ d) (h.advance settings p x s).2 := by
  unfold Host.advance
  cases hs : p.step? x.current with
  | none => exact ⟨[], .fails _, before⟩
  | some step =>
    cases hl : step.loop with
    | none =>
      have entering : x.entering step = [] := by simp [Execution.entering, hl]
      simp only [hl]
      exact remembers.enter settings mine hs (.straight hl) (entering.symm ▸ before)
    | some l =>
      cases decided : x.decideLoop step.id l with
      | error f =>
        simp only [hl, decided]
        exact ⟨[], .fails _, before⟩
      | ok outcome =>
        obtain ⟨b, u⟩ := outcome
        simp only [hl, decided]
        subst mine
        cases b with
        | true =>
          have entering : u.entering step =
              [.told (.loopIteration step.id (u.iterationsOf step.id))] := by
            simp [Execution.entering, hl]
          refine remembers.enter settings rfl hs (.again hl decided) ?_
          rw [entering]
          exact remembers.emit _ before
        | false => exact ⟨_, .leaves hs hl decided, remembers.emit _ before⟩

theorem callHook (before : held d s) :
    held (x.hooked knows p ++ d) (h.callHook settings p x s) := by
  subst mine
  unfold Host.callHook Execution.hooked Execution.hookCall?
  cases hookOf p x.status with
  | none => exact before
  | some tool => exact remembers.call _ _ rfl before

theorem finish (before : held d s) :
    held (.told (.finished x.status) :: (x.hooked knows p ++ d)) (h.finish settings p x s) := by
  have called := remembers.callHook settings mine (p := p) before
  subst mine
  exact remembers.emit _ called

/-- **A run that is driven has a chronicle** that its host remembers.  Either it stops, or it was
cut off, and then it has done at least as much as its budget allows.  `shows` says that a host
which is shown a running state remembers no more and no less. -/
theorem run (shows : ∀ {y d s}, y.id = id → y.status = .running → held d s →
      held d (h.publish y s))
    (budget : Nat) (past : Chronicle settings knows p false d x) (before : held d s) :
    (∃ y t d', h.stop? settings p budget x s = some (y, t) ∧
        Chronicle settings knows p false d' y ∧ y.status ≠ .running ∧ held d' t) ∨
      ∃ d', h.stop? settings p budget x s = none ∧
        Chronicle settings knows p false d' (h.run settings p budget x s).1 ∧
        held d' (h.run settings p budget x s).2 ∧ budget + d.length ≤ d'.length + 1 := by
  -- on the budget; what was done so far is the past of the runs that are left
  induction budget generalizing x d s with
  | zero => exact .inr ⟨d, rfl, past, before, by omega⟩
  | succ budget ih =>
    by_cases running : x.status = .running
    · cases seen : h.isCancelled x.id s with
      | true =>
        rw [h.stop?_of_isCancelled settings p running seen]
        exact .inl ⟨_, s, d, rfl, past.stops running (h.now s), nofun, before⟩
      | false =>
        rw [h.run_of_running settings p running seen, h.stop?_of_running settings p running seen]
        obtain ⟨new, enacts, advanced⟩ := remembers.advance settings mine (p := p) before
        have next := past.advances running enacts (h.now (h.advance settings p x s).2)
        have still : ((h.advance settings p x s).1.touch
            (h.now (h.advance settings p x s).2)).id = id :=
          (h.advances_advance settings p x s).id_eq.trans mine
        simp only
        by_cases goes : (h.advance settings p x s).1.status = .running
        · have goes' (now : Instant) : ((h.advance settings p x s).1.touch now).isRunning = true :=
            decide_eq_true goes
          rw [goes', if_pos rfl]
          rcases ih still next (shows still goes advanced) with
            stops | ⟨d', goesOn, came, cut, least⟩
          · exact .inl stops
          · have done := enacts.length_pos goes
            rw [List.length_append] at least
            exact .inr ⟨d', goesOn, came, cut, by omega⟩
        · have stops (now : Instant) : ((h.advance settings p x s).1.touch now).isRunning = false :=
            decide_eq_false goes
          rw [stops, if_neg Bool.false_ne_true]
          cases budget with
          | zero => exact .inr ⟨new ++ d, rfl, next, advanced, by rw [List.length_append]; omega⟩
          | succ budget =>
            rw [h.stop?_of_halted settings p (of_decide_eq_false (stops _))]
            exact .inl ⟨_, _, new ++ d, rfl, next, goes, advanced⟩
    · rw [h.stop?_of_halted settings p running]
      exact .inl ⟨x, s, d, rfl, past, running, before⟩

end Host.Remembers

end StepFlow
