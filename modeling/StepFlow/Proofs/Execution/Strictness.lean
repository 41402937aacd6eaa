import Mathlib.Logic.Function.Iterate
import StepFlow.Proofs.Engine.Stability
import StepFlow.Proofs.Execution.Turns

/-!
# Strict and lenient settings

Settings say whether a failure that nothing routes ends a run.  This is all they say
about it: a strict run and a lenient one, on the same host and with the same people,
pass through the same states until a step fails and its route is the default
(`Host.strict_agrees`).  There both record the same result; the lenient run follows its
default, and the strict run is over, with its path as it was.

A run is **attended** by people who respond, one after another, whenever it waits
(`Attended`), and it goes on in turns (`Host.turn`), without a bound on their number.  The
turns are those of `Host.run` (`Host.exists_turns_eq_run`) and of a run that the engine
resumes (`Setup.exists_turns_eq_respond`).

What is load-bearing is `Host.advance_strict`: the settings are asked after the route is
chosen, and nowhere else.
-/

namespace StepFlow

/-- The settings that let no failure pass that nothing routes. -/
def Settings.strict (settings : Settings) : Settings :=
  { settings with failOnUnroutedError := true }

/-- The settings that let such failures pass. -/
def Settings.lenient (settings : Settings) : Settings :=
  { settings with failOnUnroutedError := false }

/-- **A run, its host, and the people who attend to it**: their responses, in order. -/
structure Attended (σ : Type) where
  run : Execution
  host : σ
  responses : List HumanResponse

open Execution

namespace Host

variable {σ : Type}

/-- **A turn of an attended run.**  A run that is running finds that it was cancelled, or
advances.  A run that waits is given the next response, if there is one.  Whatever is no
longer running is settled. -/
def turn (h : Host σ) (settings : Settings) (p : Pipeline) (a : Attended σ) : Attended σ :=
  match a.run.status with
  | .running =>
    if h.isCancelled a.run.id a.host then
      let y := (a.run.fail .cancelled).touch (h.now a.host)
      { a with run := y, host := h.settle settings p y a.host }
    else
      let (y, s) := h.advance settings p a.run a.host
      let y := y.touch (h.now s)
      { a with run := y, host := if y.isRunning then h.publish y s else h.settle settings p y s }
  | .waiting =>
    match a.responses with
    | [] => a
    | r :: rest =>
      let s := h.emit a.run.id (.humanReceived a.run.current r.approved)
        (h.publish { a.run with status := .running } a.host)
      let y := (a.run.respond settings.failOnUnroutedError p r (h.now s)).touch (h.now s)
      ⟨y, if y.isRunning then s else h.settle settings p y s, rest⟩
  | _ => a

variable {h : Host σ} {settings : Settings} {p : Pipeline} {x u : Execution} {s : Step} {t t' : σ}

/-! ### The turns of a run -/

theorem turn_of_isOver {a : Attended σ} (halted : a.run.status.isOver = true) :
    h.turn settings p a = a := by
  unfold turn
  cases status : a.run.status with
  | running => rw [status] at halted; cases halted
  | waiting => rw [status] at halted; cases halted
  | completed => rfl
  | failed => rfl

/-- **The turns of a run** that comes to a stop are what `Host.run` makes of it. -/
theorem exists_turns_eq_run {budget : Nat} (rest : List HumanResponse)
    (running : x.status = .running)
    (stopped : (h.run settings p budget x t).1.status ≠ .running) :
    ∃ n, (h.turn settings p)^[n] ⟨x, t, rest⟩ =
      ⟨(h.run settings p (budget + 1) x t).1, (h.run settings p (budget + 1) x t).2, rest⟩ := by
  induction budget generalizing x t with
  | zero => exact absurd running stopped
  | succ budget ih =>
    cases seen : h.isCancelled x.id t with
    | true =>
      refine ⟨1, ?_⟩
      rw [h.run_of_isCancelled settings p running seen]
      simp only [Function.iterate_one, turn, running, seen, if_true]
    | false =>
      rw [h.run_of_running settings p running seen] at stopped ⊢
      simp only at stopped ⊢
      generalize advanced : h.advance settings p x t = came at stopped ⊢
      obtain ⟨y, t'⟩ := came
      simp only at stopped ⊢
      -- one turn, and then those of the rest of the run
      have turned : h.turn settings p ⟨x, t, rest⟩ = ⟨y.touch (h.now t'),
          if (y.touch (h.now t')).isRunning then h.publish (y.touch (h.now t')) t'
          else h.settle settings p (y.touch (h.now t')) t', rest⟩ := by
        simp only [turn, running, seen, if_false, advanced, Bool.false_eq_true]
      by_cases goes : (y.touch (h.now t')).isRunning = true
      · rw [if_pos goes] at stopped turned ⊢
        obtain ⟨n, turns⟩ := ih (of_decide_eq_true goes) stopped
        refine ⟨n + 1, ?_⟩
        rw [Function.iterate_succ_apply, turned, turns]
      · rw [if_neg goes] at turned ⊢
        refine ⟨1, ?_⟩
        rw [Function.iterate_one, turned,
          h.run_of_halted settings p (of_decide_eq_false (Bool.eq_false_iff.mpr goes))]

/-- **The turns of a run that is resumed** begin with the response. -/
theorem exists_turns_eq_resumed {budget : Nat} (r : HumanResponse) (rest : List HumanResponse)
    (waiting : x.status = .waiting)
    (told : h.emit x.id (.humanReceived x.current r.approved)
      (h.publish { x with status := .running } t) = t')
    (responded : (x.respond settings.failOnUnroutedError p r (h.now t')).touch (h.now t') = u)
    (stopped : (h.run settings p budget u t').1.status ≠ .running) :
    ∃ n, (h.turn settings p)^[n] ⟨x, t, r :: rest⟩ =
      ⟨(h.run settings p (budget + 1) u t').1, (h.run settings p (budget + 1) u t').2, rest⟩ := by
  have turned : h.turn settings p ⟨x, t, r :: rest⟩ =
      ⟨u, if u.isRunning then t' else h.settle settings p u t', rest⟩ := by
    simp only [turn, waiting, told, responded]
  by_cases goes : u.isRunning = true
  · rw [if_pos goes] at turned
    obtain ⟨n, turns⟩ := exists_turns_eq_run rest (of_decide_eq_true goes) stopped
    refine ⟨n + 1, ?_⟩
    rw [Function.iterate_succ_apply, turned, turns]
  · rw [if_neg goes] at turned
    refine ⟨1, ?_⟩
    rw [Function.iterate_one, turned,
      h.run_of_halted settings p (of_decide_eq_false (Bool.eq_false_iff.mpr goes))]

/-! ### Failures that nothing routes -/

/-- **How a run comes to perform its step**: as `u`, once the loop of the step, if there is
one, has gone on. -/
def approach (h : Host σ) (s : Step) (x : Execution) (t : σ) : Option (Execution × σ) :=
  match s.loop with
  | none => some (x, t)
  | some l =>
    match x.decideLoop s.id l with
    | .ok (true, u) => some (u, h.emit x.id (.loopIteration s.id (u.iterationsOf s.id)) t)
    | _ => none

theorem advance_of_approach (hs : p.step? x.current = some s)
    (comes : h.approach s x t = some (u, t')) :
    h.advance settings p x t = h.enter settings s u t' := by
  unfold approach at comes
  unfold advance
  cases hl : s.loop with
  | none =>
    simp only [hl] at comes
    cases comes
    simp only [hs, hl]
  | some l =>
    simp only [hl] at comes
    split at comes
    · rename_i decided
      cases comes
      simp only [hs, hl, decided]
    · cases comes

theorem enters_of_approach (comes : h.approach s x t = some (u, t')) : Enters x s u := by
  unfold approach at comes
  cases hl : s.loop with
  | none =>
    simp only [hl] at comes
    cases comes
    exact .straight hl
  | some l =>
    simp only [hl] at comes
    split at comes
    · rename_i decided
      cases comes
      exact .again hl decided
    · cases comes

/-- **A failed result that nothing routes**: the run performs the step `s` as `u`, the
attempts come to `i` and leave the host as `t`, the last of them has failed, and the route
is the default, whether or not that leads anywhere. -/
structure FailsUnrouted (h : Host σ) (settings : Settings) (p : Pipeline) (a : Attended σ)
    (s : Step) (u : Execution) (i : Invocation) (t : σ) (target : Option String) : Prop where
  running : a.run.status = .running
  unasked : h.isCancelled a.run.id a.host = false
  declared : p.step? a.run.current = some s
  ungated : s.waitsForHuman = false
  performed : ∃ t', h.approach s a.run a.host = some (u, t') ∧ h.attempts settings s u t' = (i, t)
  uncut : i.cancelled = false
  failed : i.result.success = false
  unrouted : (u.record s.id i.result).chooseRoute s i.result.toOutcome = .ok (.default target)

end Host

/-- **A run that the engine resumes goes on in turns**, if there is time and it comes to a stop
within the budget. -/
theorem Setup.exists_turns_eq_respond (u : Setup) (depth : Nat) {e : Engine} {record : Record}
    (r : HumanResponse) (rest : List HumanResponse) (timely : e.expired = false)
    (known : e.record? record.state.id = some record) (waiting : record.state.status = .waiting)
    (stopped : ∀ x, (u.respond (u.host depth) record.state.id r e).1 = some x →
      x.status ≠ .running) :
    ∃ n x e', Setup.respond { u with budget := u.budget + 1 } (u.host depth) record.state.id r e =
        (some x, e') ∧
      ((u.host depth).turn u.settings record.pipeline)^[n] ⟨record.state, e, r :: rest⟩ =
        ⟨x, e', rest⟩ := by
  unfold Setup.respond at stopped ⊢
  simp only [known, waiting, if_true, Option.some.injEq, forall_eq'] at stopped ⊢
  have clock : (u.host depth).now = Engine.now := by cases depth <;> rfl
  have shows (x : Execution) : (u.host depth).publish x e = e.publish x := by
    rw [u.host_eq]
    exact Engine.attend_of_timely timely x.id fun e => e.publish x
  obtain ⟨n, turns⟩ := Host.exists_turns_eq_resumed r rest waiting (by rw [shows]) (by rw [clock])
    stopped
  exact ⟨n, _, _, rfl, turns⟩

namespace Execution

variable {x u : Execution} {s : Step} {r : ToolResult}

/-- **A step comes to the same** under strict settings and under lenient ones, unless it
has failed and its route is the default. -/
theorem conclude_strict
    (routed : ∀ target, r.success = false →
      (x.record s.id r).chooseRoute s r.toOutcome ≠ .ok (.default target)) :
    x.conclude true s r = x.conclude false s r := by
  unfold conclude
  cases chosen : (x.record s.id r).chooseRoute s r.toOutcome with
  | error f => simp only [chosen]
  | ok route =>
    have passes : isUnroutedFailure route r.toOutcome = false := by
      unfold isUnroutedFailure
      cases success : r.success with
      | true => rfl
      | false =>
        cases route with
        | default target => exact absurd chosen (routed target success)
        | shortcut => rfl
        | branch => rfl
    simp only [chosen, follow, passes, Bool.and_false]

/-- An approval is a success, and a rejection is no result, so **a response is taken in
alike** under strict settings and under lenient ones. -/
theorem respond_strict (p : Pipeline) (response : HumanResponse) (now : Instant) :
    x.respond true p response now = x.respond false p response now := by
  cases approved : response.approved with
  | false => rw [respond_of_not_approved approved, respond_of_not_approved approved]
  | true =>
    cases hs : p.step? x.current with
    | some s =>
      rw [respond_of_approved hs approved, respond_of_approved hs approved]
      rw [conclude_strict fun _ failed => Bool.noConfusion failed]
    | none =>
      -- a gate that is not declared is not passed
      unfold respond passGate
      simp only [approved, merge, hs]

end Execution

namespace Host

variable {σ : Type} {h : Host σ} {settings : Settings} {p : Pipeline} {x u : Execution} {s : Step}
  {i : Invocation} {target : Option String} {t : σ} {a : Attended σ}

/-- What becomes of the attempts at a step is the same, unless they have failed and nothing
routes the failure. -/
theorem handle_strict
    (routed : i.cancelled = false → ∀ target, i.result.success = false →
      (u.record s.id i.result).chooseRoute s i.result.toOutcome ≠ .ok (.default target)) :
    h.handle settings.strict s u (i, t) = h.handle settings.lenient s u (i, t) := by
  unfold handle
  cases cut : i.cancelled with
  | true => simp only [if_true]
  | false =>
    simp only [Bool.false_eq_true, if_false, Settings.strict, Settings.lenient]
    rw [conclude_strict (routed cut)]

/-- Entering a step is the same, unless it fails and nothing routes the failure. -/
theorem enter_strict
    (routed : s.waitsForHuman = false → ∀ i t', h.attempts settings.lenient s u t = (i, t') →
      i.cancelled = false → ∀ target, i.result.success = false →
        (u.record s.id i.result).chooseRoute s i.result.toOutcome ≠ .ok (.default target)) :
    h.enter settings.strict s u t = h.enter settings.lenient s u t := by
  unfold enter
  cases gate : s.waitsForHuman with
  | true => simp only [if_true]
  | false =>
    simp only [Bool.false_eq_true, if_false]
    rw [perform_eq, perform_eq]
    exact handle_strict (routed gate _ _ rfl)

/-- **An advance is the same under strict settings and under lenient ones**, unless the step
of the run fails and nothing routes the failure. -/
theorem advance_strict (running : a.run.status = .running)
    (unasked : h.isCancelled a.run.id a.host = false)
    (routed : ∀ s u i t target, ¬ h.FailsUnrouted settings.lenient p a s u i t target) :
    h.advance settings.strict p a.run a.host = h.advance settings.lenient p a.run a.host := by
  cases hs : p.step? a.run.current with
  | none => simp only [advance, hs]
  | some s =>
    cases comes : h.approach s a.run a.host with
    | some came =>
      obtain ⟨u, t'⟩ := came
      rw [advance_of_approach hs comes, advance_of_approach hs comes]
      refine enter_strict fun gate i t attempted uncut target failed unrouted => ?_
      exact routed s u i t target
        ⟨running, unasked, hs, gate, ⟨t', comes, attempted⟩, uncut, failed, unrouted⟩
    | none =>
      -- the loop of the step has ended or has no value
      unfold approach at comes
      unfold advance
      cases hl : s.loop with
      | none =>
        simp only [hl] at comes
        cases comes
      | some l =>
        simp only [hl] at comes
        cases decided : a.run.decideLoop s.id l with
        | error f => simp only [hs, hl, decided]
        | ok outcome =>
          obtain ⟨b, y⟩ := outcome
          cases b with
          | true => simp only [decided] at comes; cases comes
          | false => simp only [hs, hl, decided]

/-- **A turn is the same under strict settings and under lenient ones**, unless it meets a
failure that nothing routes. -/
theorem turn_strict
    (routed : ∀ s u i t target, ¬ h.FailsUnrouted settings.lenient p a s u i t target) :
    h.turn settings.strict p a = h.turn settings.lenient p a := by
  unfold turn
  cases status : a.run.status with
  | running =>
    simp only
    cases asked : h.isCancelled a.run.id a.host with
    | true => rfl
    | false =>
      simp only [Bool.false_eq_true, if_false]
      rw [advance_strict status asked routed]
      rfl
  | waiting =>
    simp only
    cases a.responses with
    | nil => rfl
    | cons r rest =>
      simp only [Settings.strict, Settings.lenient, respond_strict]
      rfl
  | completed => rfl
  | failed => rfl

/-! ### The first failure that nothing routes -/

/-- The state of the host after it was told that a step has failed. -/
def toldFailed (h : Host σ) (u : Execution) (s : Step) (i : Invocation) (t : σ) : σ :=
  h.emit u.id (.stepFailed s.id i.attempts i.result.errorMessage) t

namespace FailsUnrouted

section Settings

variable (fails : h.FailsUnrouted settings p a s u i t target)

include fails

/-- The result is recorded by whatever settings, and only then they are asked. -/
theorem advance (strict : Bool) :
    h.advance { settings with failOnUnroutedError := strict } p a.run a.host =
      ((u.record s.id i.result).follow strict s (.default target) i.result.toOutcome,
        h.toldFailed u s i t) := by
  obtain ⟨t', comes, attempted⟩ := fails.performed
  rw [advance_of_approach fails.declared comes]
  unfold enter
  rw [fails.ungated, if_neg Bool.false_ne_true, perform_eq]
  have same : h.attempts { settings with failOnUnroutedError := strict } s u t' = (i, t) :=
    attempted
  rw [same]
  unfold handle conclude
  simp only [fails.uncut, fails.unrouted, Bool.false_eq_true, if_false, emitOutcome,
    fails.failed]
  rfl

theorem path : (u.record s.id i.result).path = a.run.path := by
  obtain ⟨t', comes, -⟩ := fails.performed
  exact (enters_of_approach comes).path

theorem current : (u.record s.id i.result).current = a.run.current := by
  obtain ⟨t', comes, -⟩ := fails.performed
  exact (enters_of_approach comes).samePlace.current

end Settings

/-- A lenient run follows its default. -/
theorem turn_lenient (fails : h.FailsUnrouted settings.lenient p a s u i t target) :
    (h.turn settings.lenient p a).run =
      ((u.record s.id i.result).transition s (nextTarget s (.default target))).touch
        (h.now (h.toldFailed u s i t)) := by
  have advanced := fails.advance false
  unfold turn
  simp only [fails.running, fails.unasked, Bool.false_eq_true, if_false]
  rw [show h.advance settings.lenient p a.run a.host = _ from advanced]
  simp only [follow, Bool.false_and, Bool.false_eq_true, if_false]

/-- A strict run is over, and all that is left to do is to settle it. -/
theorem turn_strict (fails : h.FailsUnrouted settings.lenient p a s u i t target) :
    let y := ((u.record s.id i.result).fail (unroutedFault s i.result.toOutcome)).touch
      (h.now (h.toldFailed u s i t))
    h.turn settings.strict p a =
      ⟨y, h.settle settings.strict p y (h.toldFailed u s i t), a.responses⟩ := by
  have advanced := fails.advance true
  have refused : isUnroutedFailure (.default target) i.result.toOutcome = true := by
    unfold isUnroutedFailure
    rw [fails.failed]
    rfl
  unfold turn
  simp only [fails.running, fails.unasked, Bool.false_eq_true, if_false]
  rw [show h.advance settings.strict p a.run a.host = _ from advanced]
  simp only [follow, refused, Bool.and_self, if_true]
  rfl

end FailsUnrouted

/-- **Strict and lenient runs agree up to the first failure that nothing routes.**  Both are
driven on the same host, whose tools may answer by all that has happened so far, and
attended by the same people.

As long as the lenient run has met no failed result whose route is the default, the strict
run is in the same state after every turn.  Where the lenient run meets the first, both
record the same result.  The lenient run then follows its default.  The strict run has
failed with `TOOL_EXECUTION_ERROR` at that step, its path is as it was, it takes no more
turns, and the one tool that is still called is the hook of the pipeline. -/
theorem strict_agrees (h : Host σ) (settings : Settings) (p : Pipeline) (a : Attended σ) (n : Nat)
    (routed : ∀ m, m < n → ∀ s u i t target,
      ¬ h.FailsUnrouted settings.lenient p ((h.turn settings.lenient p)^[m] a) s u i t target) :
    (h.turn settings.strict p)^[n] a = (h.turn settings.lenient p)^[n] a ∧
      ∀ s u i t target,
        h.FailsUnrouted settings.lenient p ((h.turn settings.lenient p)^[n] a) s u i t target →
          let b := (h.turn settings.lenient p)^[n] a
          let recorded := u.record s.id i.result
          let told := h.toldFailed u s i t
          let y := (recorded.fail (unroutedFault s i.result.toOutcome)).touch (h.now told)
          ((h.turn settings.lenient p)^[n + 1] a).run =
              (recorded.transition s (nextTarget s (.default target))).touch (h.now told) ∧
            (∀ k, (h.turn settings.strict p)^[n + 1 + k] a =
              ⟨y, h.emit y.id (.finished .failed)
                (h.callHook settings.strict p y (h.publish y told)), b.responses⟩) ∧
            y.status = .failed ∧ y.path = b.run.path ∧ y.results = recorded.results ∧
            ∃ message, y.error = some ⟨"TOOL_EXECUTION_ERROR", message, some b.run.current⟩ := by
  have agree : (h.turn settings.strict p)^[n] a = (h.turn settings.lenient p)^[n] a := by
    induction n with
    | zero => rfl
    | succ n ih =>
      rw [Function.iterate_succ_apply', Function.iterate_succ_apply',
        ih fun m before => routed m (by omega)]
      exact Host.turn_strict (routed n (Nat.lt_succ_self n))
  refine ⟨agree, fun s u i t target fails => ⟨?_, fun k => ?_, rfl, fails.path, rfl, ?_⟩⟩
  · rw [Function.iterate_succ_apply', fails.turn_lenient]
  · -- a run that is over takes no turns
    have stopped := fails.turn_strict
    rw [← agree, ← Function.iterate_succ_apply' (h.turn settings.strict p)] at stopped
    rw [Nat.add_comm, Function.iterate_add_apply, stopped, Function.iterate_fixed
      (turn_of_isOver rfl), agree]
    rfl
  · exact ⟨_, congrArg (fun step => some (ExecutionError.mk _ _ (some step))) fails.current⟩

end Host

/-- A host whose tools fail, and which is otherwise agreeable. -/
def Host.refusing : Host Unit :=
  { Host.agreeable with
    call := fun _ _ _ => (⟨.failed ⟨"REFUSED", ""⟩, .instantaneous (.ofMilliseconds 0)⟩, ()) }

/-- Three steps in a row, of which only the first says what to do about a failure. -/
def Definition.relay : Definition where
  name := "relay"
  start := "draft"
  steps := .ofEntries
    [("draft", { id := "draft", tool := "write", onFailure := some "review" }),
      ("review", { id := "review", tool := "read", next.default := some "archive" }),
      ("archive", { id := "archive", tool := "store" })]

/-- The first failure of the relay is routed; the second is not, and a strict run has failed
there. -/
theorem exists_failed_at_second_step :
    let p := Definition.relay.toPipeline "p"
    let x := Execution.fresh p .empty ⟨0⟩ (.ofMilliseconds 0)
    let turn (settings : Settings) := Host.refusing.turn settings p
    ((turn (Settings.lenient {}))^[2] ⟨x, (), []⟩).run.current = "archive" ∧
      ∀ k, ((turn (Settings.strict {}))^[2 + k] ⟨x, (), []⟩).run.status = .failed ∧
        ((turn (Settings.strict {}))^[2 + k] ⟨x, (), []⟩).run.path = ["draft", "review"] := by
  intro p x turn
  have routed : ∀ m, m < 1 → ∀ s u i t target, ¬ Host.refusing.FailsUnrouted (Settings.lenient {}) p
      ((turn (Settings.lenient {}))^[m] ⟨x, (), []⟩) s u i t target := by
    intro m first s u i t target fails
    obtain rfl : m = 0 := by omega
    have draft : s.onFailure = some "review" := by
      have declared : p.step? "draft" = some s := fails.declared
      cases declared
      rfl
    have unrouted := fails.unrouted
    unfold Execution.chooseRoute at unrouted
    simp only [fails.failed, Bool.false_eq_true, if_false, draft] at unrouted
    cases unrouted
  obtain ⟨-, later⟩ := Host.strict_agrees Host.refusing {} p ⟨x, (), []⟩ 1 routed
  obtain ⟨follows, stopped, failed, path, -⟩ := later _ _ _ () (some "archive")
    ⟨rfl, rfl, rfl, rfl, ⟨(), rfl, rfl⟩, rfl, rfl, rfl⟩
  refine ⟨congrArg Execution.current follows, fun k => ?_⟩
  rw [show (turn (Settings.strict {}))^[2 + k] ⟨x, (), []⟩ = _ from stopped k]
  exact ⟨failed, path⟩

end StepFlow
