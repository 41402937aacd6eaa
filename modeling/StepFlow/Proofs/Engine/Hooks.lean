import StepFlow.Proofs.Engine.Custody

/-!
# The hook of a run

A pipeline may name a tool to call when a run of it completes, and another for when it fails.
The call is the last that is made for the run, whichever way the run came to its end: in an
advance, by a rejection or while it is resumed, or because it was cancelled while it waited
(`Setup.hook_called_once`).

What is load-bearing is `Deed.IsWork`: as long as a run is driven it does nothing but work,
that is, it neither calls its hook nor tells that it is finished (`Chronicle.isWork`).  Both
are done in one place, and only for a run that is over.
-/

namespace StepFlow

/-- **A deed that does not end a run**: attempts at steps, and any event but the last. -/
def Deed.IsWork (id : ExecutionId) : Deed → Prop
  | told (.finished _) => False
  | told _ => True
  | called c => ∃ step, c.purpose = .attempt id step

namespace Execution

variable {x u y : Execution} {s : Step} {p : Pipeline}

/-! ### Errors -/

/-- **A run accounts for its failure**: it has an error if and only if it has failed. -/
def Accounts (x : Execution) : Prop := x.error = none ↔ x.status ≠ .failed

theorem accounts_fail (x : Execution) (f : Fault) : (x.fail f).Accounts :=
  ⟨nofun, fun unfailed => absurd rfl unfailed⟩

theorem accounts_of_intact (intact : x.error = none) (unfailed : x.status ≠ .failed) :
    x.Accounts := ⟨fun _ => unfailed, fun _ => intact⟩

theorem accounts_transition (intact : x.error = none) (running : x.status = .running)
    (next : Option String) : (x.transition s next).Accounts := by
  have ends := transitions_transition x s next
  generalize x.transition s next = y at ends
  cases ends with
  | completes => exact accounts_of_intact intact nofun
  | stays => exact accounts_of_intact intact (by rw [running]; nofun)
  | moves =>
    refine accounts_of_intact intact ?_
    show x.status ≠ .failed
    rw [running]
    nofun

theorem ComesTo.accounts (h : ComesTo x s y) (intact : x.error = none)
    (running : x.status = .running) : y.Accounts := by
  cases h with
  | fails f => exact accounts_fail x f
  | goes next => exact accounts_transition intact running next

theorem Decides.error {step : String} {l : Loop} {b : Bool} (h : Decides x step l b y) :
    y.error = x.error := by
  cases h <;> rfl

theorem Enters.error (h : Enters x s y) : y.error = x.error := by
  cases h with
  | straight => rfl
  | again _ decided => exact (decides_decideLoop decided).error

theorem Enacts.accounts {settings : Settings} {knows : String → Bool} {new : List Deed}
    (h : Enacts settings knows p x new y) (intact : x.error = none)
    (running : x.status = .running) : y.Accounts := by
  cases h with
  | fails => exact accounts_fail _ _
  | @leaves s l u hs hl decided =>
    have decides := decides_decideLoop decided
    exact accounts_transition (x := u.resetLoop s.id) (decides.error.trans intact)
      (decides.samePlace.status.trans running) _
  | suspends hs entered =>
    exact accounts_of_intact (entered.error.trans intact) nofun
  | performs hs entered gate meets =>
    exact meets.comesTo.accounts (entered.error.trans intact)
      (entered.samePlace.status.trans running)

theorem accounts_respond (intact : x.error = none) (strict : Bool) (r : HumanResponse)
    (now : Instant) : (x.respond strict p r now).Accounts := by
  rcases comesTo_respond x strict p r now with ⟨f, failed⟩ | ⟨s, result, -, comes⟩
  · rw [failed]
    exact accounts_fail _ f
  · exact comes.accounts intact rfl

end Execution

open Execution

variable {settings : Settings} {knows : String → Bool} {p : Pipeline} {settled : Bool}
  {d : List Deed} {x : Execution}

/-- **A run accounts for its failure** at any time. -/
theorem Chronicle.accounts (h : Chronicle settings knows p settled d x) : x.Accounts := by
  -- a run that has not failed has no error, so what it does next is accounted for
  have intact {x : Execution} (accounts : x.Accounts) {status : Status} (here : x.status = status)
      (unfailed : status ≠ .failed) : x.error = none :=
    accounts.mpr (here ▸ unfailed)
  induction h with
  | begins => exact accounts_of_intact rfl nofun
  | advances _ running enacts _ ih => exact enacts.accounts (intact ih running nofun) running
  | stops => exact accounts_fail _ _
  | asks _ _ ih => exact ih
  | finishes _ _ ih => exact ih
  | responds _ waiting r start _ ih => exact accounts_respond (intact ih waiting nofun) _ r start
  | cancels => exact accounts_fail _ _

/-! ### Work -/

theorem Deed.OfStep.isWork {id : ExecutionId} {deed : Deed} (h : deed.OfStep id) :
    deed.IsWork id := by
  cases deed with
  | called c => exact h
  | told event =>
    cases event with
    | finished status => exact h
    | _ => trivial

/-- **What was done for a run**: work, and at the end of it the call of its hook. -/
theorem Chronicle.isWork (h : Chronicle settings knows p settled d x) :
    ∃ earlier, (∀ deed ∈ earlier, deed.IsWork x.id) ∧
      d = if settled && x.status.isOver then
          .told (.finished x.status) :: (x.hooked knows p ++ earlier)
        else earlier := by
  have cons {id : ExecutionId} {deed : Deed} {earlier : List Deed} (work : deed.IsWork id)
      (before : ∀ deed ∈ earlier, deed.IsWork id) : ∀ deed' ∈ deed :: earlier, deed'.IsWork id :=
    List.forall_mem_cons.mpr ⟨work, before⟩
  induction h with
  | begins =>
    refine ⟨[.told (.started p.id p.name)], fun deed done => ?_, rfl⟩
    cases List.mem_singleton.mp done
    trivial
  | advances _ _ enacts now ih =>
    obtain ⟨earlier, work, rfl⟩ := ih
    have both := List.forall_mem_append.mpr
      ⟨fun deed done => (enacts.ofStep deed done).isWork, work⟩
    rw [← enacts.id_eq] at both
    exact ⟨_, both, rfl⟩
  | stops _ _ _ ih => exact ih
  | @asks d x _ waiting ih =>
    obtain ⟨earlier, work, rfl⟩ := ih
    have asked : Deed.IsWork x.id (.told (.humanRequested x.current)) := trivial
    have next := cons asked work
    refine ⟨_, next, ?_⟩
    rw [waiting]
    rfl
  | @finishes d x _ halted ih =>
    obtain ⟨earlier, work, rfl⟩ := ih
    refine ⟨_, work, ?_⟩
    rw [halted]
    rfl
  | @responds d x _ waiting r start stop ih =>
    obtain ⟨earlier, work, rfl⟩ := ih
    rw [waiting]
    have answered : Deed.IsWork x.id (.told (.humanReceived x.current r.approved)) := trivial
    have next := cons answered work
    rw [← x.id_respond settings.failOnUnroutedError p r start] at next
    exact ⟨_, next, rfl⟩
  | @cancels d x _ waiting now ih =>
    obtain ⟨earlier, work, rfl⟩ := ih
    rw [waiting]
    exact ⟨earlier, work, rfl⟩

/-! ### Counting the calls of a hook -/

/-- How often the hook of a run is called by some deeds. -/
def Deed.hookCalls (id : ExecutionId) (d : List Deed) : Nat :=
  d.countP fun
    | .called c => c.purpose = .hook id
    | .told _ => false

/-- **The calls of a hook** are those among the deeds of its run. -/
theorem Engine.countP_calls (e : Engine) (id : ExecutionId) :
    e.calls.countP (fun c => c.purpose = .hook id) = Deed.hookCalls id (e.deeds id) := by
  unfold Engine.calls Engine.deeds Deed.hookCalls
  rw [List.countP_filterMap, List.countP_filterMap]
  refine List.countP_congr fun entry _ => ?_
  cases entry with
  | called c =>
    by_cases mine : c.purpose.execution = id
    · rw [Entry.deed?_called mine]
      rfl
    · have away : c.purpose ≠ .hook id := fun hook => mine (hook ▸ rfl)
      rw [Entry.deed?_called_of_ne mine]
      simp [away]
  | answered => exact Iff.rfl
  | happened id' event =>
    by_cases mine : id' = id
    · rw [mine, Entry.deed?_told]
      rfl
    · rw [Entry.deed?_told_of_ne mine]
      rfl

/-- Work calls no hook. -/
theorem Deed.hookCalls_eq_zero {id : ExecutionId} (work : ∀ deed ∈ d, deed.IsWork id) :
    Deed.hookCalls id d = 0 := by
  refine List.countP_eq_zero.mpr fun deed done => ?_
  have works := work deed done
  cases deed with
  | told => exact Bool.false_ne_true
  | called c =>
    obtain ⟨step, attempt⟩ := works
    simp [attempt]

namespace Execution

/-- **The call of the hook of a run**, if it has one and there is such a tool. -/
def hook? (x : Execution) (knows : String → Bool) (p : Pipeline) : Option Call :=
  (hookCall? p x).filter fun c => knows c.tool

theorem hooked_eq (x : Execution) (knows : String → Bool) (p : Pipeline) :
    x.hooked knows p = (x.hook? knows p).toList.map .called := by
  unfold hooked hook?
  cases hookCall? p x with
  | none => rfl
  | some c =>
    unfold Call.deeds
    simp only [Option.filter_some]
    split <;> rfl

theorem map_tool_hook? (x : Execution) (knows : String → Bool) (p : Pipeline) :
    (x.hook? knows p).map (·.tool) = (Host.hookOf p x.status).filter knows := by
  unfold hook? hookCall?
  cases Host.hookOf p x.status with
  | none => rfl
  | some tool =>
    simp only [Option.map_some, Option.filter_some]
    split <;> rfl

/-- A run that is not over has no hook. -/
theorem hook?_of_going (going : x.status.isOver = false) : x.hook? knows p = none := by
  have none : Host.hookOf p x.status = none := by
    cases status : x.status with
    | running => rfl
    | waiting => rfl
    | completed => rw [status] at going; cases going
    | failed => rw [status] at going; cases going
  unfold hook? hookCall?
  rw [none]
  rfl

/-- What the hook of a run is called for, and what it is told. -/
theorem of_mem_hook? {c : Call} (called : c ∈ x.hook? knows p) :
    c.purpose = .hook x.id ∧ c.parameters = .ofEntries
      [("executionId", .str x.id.text), ("pipelineId", .str x.pipelineId),
        ("globalState", .ofTable x.globalState),
        ("error", match x.error with
          | none => .null
          | some error => error.toValue)] := by
  obtain ⟨called, -⟩ := Option.filter_eq_some_iff.mp called
  obtain ⟨tool, -, rfl⟩ := Option.map_eq_some_iff.mp called
  refine ⟨rfl, ?_⟩
  show Host.hookParameters x = _
  unfold Host.hookParameters
  cases x.error <;> rfl

/-- The hook is `onComplete` if the run has completed. -/
theorem map_tool_hook?_of_completed (completed : x.status = .completed) :
    (x.hook? knows p).map (·.tool) = p.onComplete.filter knows := by
  rw [map_tool_hook?, completed]
  rfl

/-- The hook is `onError` if the run has failed. -/
theorem map_tool_hook?_of_failed (failed : x.status = .failed) :
    (x.hook? knows p).map (·.tool) = p.onError.filter knows := by
  rw [map_tool_hook?, failed]
  rfl

theorem hookCalls_hook? (x : Execution) (knows : String → Bool) (p : Pipeline) :
    Deed.hookCalls x.id ((x.hook? knows p).toList.map .called) =
      (x.hook? knows p).toList.length := by
  cases called : x.hook? knows p with
  | none => rfl
  | some c =>
    have mine := (of_mem_hook? called).1
    simp [Deed.hookCalls, mine]

end Execution

theorem Deed.hookCalls_append (id : ExecutionId) (d d' : List Deed) :
    Deed.hookCalls id (d ++ d') = Deed.hookCalls id d + Deed.hookCalls id d' :=
  List.countP_append

/-- **The hook of a run is called once**, when the run is over, and never before or after.
This is so after any requests, to any depth of nesting, as long as no run was cut off by the
budget.

`x` is the state of the run, as its record shows it and as it was returned.  If the run is not
over, it has done nothing but work.  If it is over, what was done last is to call its hook and
to tell that it is finished.  The hook is `onComplete` if the run has completed and `onError` if
it has failed.  It is told the final global state and the error, which is null unless the run has
failed.  Nothing becomes of what the hook returns: the state is the one that the hook was told.

A run that was left when the time was up of a call within which it was driven either never came
to its end, and has called no hook, or was not told to be finished any more when its hook
returned. -/
theorem Setup.hook_called_once (u : Setup) (depth : Nat) (requests : List Request) (r : Request)
    (id : ExecutionId)
    (lasts : (u.serve depth (requests ++ [r]) {}).trail.length < u.budget)
    (begun : id.number < (u.serve depth (requests ++ [r]) {}).started) :
    let e := u.serve depth (requests ++ [r]) {}
    (∃ p x hook earlier, x.id = id ∧
      (x.error = none ↔ x.status ≠ .failed) ∧
      (x.status = .completed → hook.map (·.tool) = p.onComplete.filter u.tools.knows) ∧
      (x.status = .failed → hook.map (·.tool) = p.onError.filter u.tools.knows) ∧
      (x.status.isOver = false → hook = none) ∧
      (∀ c ∈ hook, c.purpose = .hook id ∧ c.parameters = .ofEntries
        [("executionId", .str id.text), ("pipelineId", .str x.pipelineId),
          ("globalState", .ofTable x.globalState),
          ("error", match x.error with
            | none => .null
            | some error => error.toValue)]) ∧
      (∀ deed ∈ earlier, deed.IsWork id) ∧
      e.calls.countP (fun c => c.purpose = .hook id) = hook.toList.length ∧
      (id ∉ e.abandoned ∧ u.Finds depth requests r p x ∧
          e.deeds id =
            (if x.status.isOver then
              .told (.finished x.status) :: (hook.toList.map .called ++ earlier)
            else earlier) ∨
        id ∈ e.abandoned ∧ x.status.isOver = true ∧
          (∀ record ∈ e.records, record.state.id = id → record = ⟨p, x⟩) ∧
          e.deeds id = hook.toList.map .called ++ earlier)) ∨
    id ∈ e.abandoned ∧
      (∀ record ∈ e.records, record.state.id = id → record.state.status = .running) ∧
      (∀ deed ∈ e.deeds id, deed.IsWork id) ∧
      e.calls.countP (fun c => c.purpose = .hook id) = 0 := by
  intro e
  have counted : e.calls.countP (fun c => c.purpose = .hook id) = Deed.hookCalls id (e.deeds id) :=
    e.countP_calls id
  have calls {x : Execution} {p : Pipeline} {earlier : List Deed}
      (work : ∀ deed ∈ earlier, deed.IsWork x.id) :
      Deed.hookCalls x.id ((x.hook? u.tools.knows p).toList.map .called ++ earlier) =
        (x.hook? u.tools.knows p).toList.length := by
    rw [Deed.hookCalls_append, x.hookCalls_hook?, Deed.hookCalls_eq_zero work, Nat.add_zero]
  by_cases abandoned : id ∈ e.abandoned
  · obtain ⟨p, -, left⟩ := u.exists_left depth (requests ++ [r]) lasts abandoned
    cases left with
    | driving mine past short records =>
      -- what was done is a part of what a driven run does, and that is work
      obtain ⟨earlier, work, rfl⟩ := past.isWork
      have work : ∀ deed ∈ e.deeds id, deed.IsWork id := fun deed done =>
        mine ▸ work deed (short.subset done)
      refine .inr ⟨abandoned, fun record listed same => ?_, work, ?_⟩
      · exact (records record (Engine.mem_standing_iff.mpr ⟨listed, same⟩)).2
      · rw [counted]
        exact Deed.hookCalls_eq_zero work
    | @finishing d x mine past halted done records =>
      obtain ⟨_, work, rfl⟩ := past.isWork
      subst mine
      rw [hooked_eq] at done
      refine .inl ⟨p, x, x.hook? u.tools.knows p, d, rfl, past.accounts,
        map_tool_hook?_of_completed, map_tool_hook?_of_failed, hook?_of_going,
        fun _ => of_mem_hook?, work, ?_,
        .inr ⟨abandoned, halted, fun record listed same => ?_, done⟩⟩
      · rw [counted, show e.deeds x.id = _ from done]
        exact calls work
      · exact records record (Engine.mem_standing_iff.mpr ⟨listed, same⟩)
  · obtain ⟨p, x, rfl, finds, settled⟩ := u.exists_settled depth requests r lasts begun abandoned
    obtain ⟨earlier, work, done⟩ := settled.chronicle.isWork
    rw [Bool.true_and, hooked_eq] at done
    refine .inl ⟨p, x, x.hook? u.tools.knows p, earlier, rfl, settled.chronicle.accounts,
      map_tool_hook?_of_completed, map_tool_hook?_of_failed, hook?_of_going, fun _ => of_mem_hook?,
      work, ?_, .inl ⟨abandoned, finds, done⟩⟩
    rw [counted, show e.deeds x.id = _ from done]
    split
    · exact calls work
    · rename_i going
      rw [hook?_of_going (eq_false_of_ne_true going)]
      exact Deed.hookCalls_eq_zero work

/-- The hook of a small run is called once, after its person has approved: it is `onComplete`,
and there is no error. -/
theorem Setup.small_calls_hook :
    ∃ p x earlier, x.id = ⟨0⟩ ∧ Setup.small.Finds 0 [.begin] .approve p x ∧
      p = Definition.gated.toPipeline "p" ∧ p.onComplete = some "notify" ∧
      x.status = .completed ∧
      (Setup.small.serve 0 [.begin, .approve] {}).deeds ⟨0⟩ =
        .told (.finished .completed) ::
          .called ⟨.hook ⟨0⟩, "notify", .ofEntries
            [("executionId", .str (ExecutionId.text ⟨0⟩)), ("pipelineId", .str "p"),
              ("globalState", .ofTable x.globalState), ("error", .null)]⟩ :: earlier ∧
      (Setup.small.serve 0 [.begin, .approve] {}).calls.countP
        (fun c => c.purpose = .hook ⟨0⟩) = 1 := by
  obtain ⟨y, answered, same, completed, of⟩ : ∃ y, (Setup.small.answer (Setup.small.host 0) .approve
      (Setup.small.serve 0 [.begin] {})).1 = .state (some y) ∧ y.id = ⟨0⟩ ∧
        y.status = .completed ∧ y.pipelineId = "p" := ⟨_, rfl, rfl, rfl, rfl⟩
  have spared : (⟨0⟩ : ExecutionId) ∉ (Setup.small.serve 0 [.begin, .approve] {}).abandoned := by
    decide
  rcases Setup.small.hook_called_once 0 [.begin] .approve ⟨0⟩ (by decide) (by decide) with
    ⟨p, x, hook, earlier, mine, intact, ending, -, -, told, -, calls,
      ⟨-, finds, done⟩ | ⟨abandoned, -⟩⟩ | ⟨abandoned, -⟩
  · have declared : p = Definition.gated.toPipeline "p" :=
      finds.started [] [.approve] _ .empty rfl (by rw [mine]; rfl)
    obtain rfl := finds.answered y answered (same.trans mine.symm) (by rw [completed]; nofun)
    subst declared
    have succeeded : y.error = none := intact.mpr (by rw [completed]; nofun)
    obtain ⟨c, rfl, tool⟩ : ∃ c, hook = some c ∧ c.tool = "notify" :=
      Option.map_eq_some_iff.mp (ending completed)
    obtain ⟨purpose, parameters⟩ := told c rfl
    rw [succeeded, of] at parameters
    rw [completed] at done
    refine ⟨_, y, earlier, mine, finds, rfl, rfl, completed, ?_, calls⟩
    obtain ⟨_, _, _⟩ := c
    cases purpose
    cases tool
    cases parameters
    exact done
  · exact absurd abandoned spared
  · exact absurd abandoned spared

end StepFlow
