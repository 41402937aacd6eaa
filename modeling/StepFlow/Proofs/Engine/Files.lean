import StepFlow.Proofs.Engine.Standing
import StepFlow.Proofs.Execution.Simulation

/-!
# The file of a run

An engine keeps a **file** of every run: its record, and whether the run is to be cancelled.  The
file is all that requests on the run see of the engine, apart from the time.  Two engines that
have the same file of a run, up to times, **concur** in it (`Engine.Concurs`), whatever else
they keep.

A plain tool does not see the engine's history and asks the engine for nothing but a look.  So
its calls leave all files alone, and they come to the same on any engine that is not itself pressed
for time (`Engine.call_of_isPlain`).
-/

namespace StepFlow

open Execution

/-- **A request that changes nothing.** -/
def Request.OnlyLooks : Request → Prop
  | .get _ => True
  | .list => True
  | .malformed _ => True
  | _ => False

/-- **An activity comes to something after so many milliseconds**, whatever its requests are
answered, and they only look. -/
inductive Activity.ComesTo {α : Type} (a : α) : Nat → Activity α → Prop
  | done : ComesTo a 0 (.done a)
  | wait {ms rest : Nat} {next : Activity α} (h : ComesTo a rest next) :
    ComesTo a (ms + rest) (.wait ms next)
  | request {r : Request} {ms : Nat} {next : Answer → Activity α} (looks : r.OnlyLooks)
    (h : ∀ answer, ComesTo a ms (next answer)) : ComesTo a ms (.request r next)

/-- **An engine whose tools answer by what they are asked**: what a tool comes to does not depend
on the calls made before, as one that depends only on the name of the tool and on its parameters,
and it asks the engine for nothing but a look.  A tool that asked for more would act on runs that
the call is not about.  The same is so of the handler. -/
structure Setup.IsPlain (u : Setup) : Prop where
  tools : ∀ c, ∃ o ms, ∀ calls, (u.tools.reply calls c).ComesTo o ms
  handler : ∀ q, ∃ ms, ∀ calls, (u.handler calls q).ComesTo () ms

/-- **What an engine keeps of a run**: its record, and whether it is to be cancelled. -/
structure File where
  record : Option Record
  flagged : Bool

variable {timed : Prop} {id i : ExecutionId}

/-- Records that agree. -/
structure Record.Agrees (timed : Prop) (r r' : Record) : Prop where
  pipeline : r'.pipeline = r.pipeline
  state : r.state.Agrees timed r'.state

/-- **Files that agree**, in all but times. -/
structure File.Agrees (timed : Prop) (f f' : File) : Prop where
  record : Option.Rel (Record.Agrees timed) f.record f'.record
  flagged : f'.flagged = f.flagged

/-- **Answers that agree**, in all but times. -/
inductive Answer.Agrees (timed : Prop) : Answer → Answer → Prop
  | state {x y : Option Execution} (agree : Option.Rel (Execution.Agrees timed) x y) :
    Agrees timed (.state x) (.state y)
  | refl (a : Answer) : Agrees timed a a

theorem Record.Agrees.refl (r : Record) : r.Agrees timed r := ⟨rfl, .refl _⟩

theorem Record.Agrees.eq {r r' : Record} (h : r.Agrees True r') : r' = r := by
  obtain ⟨p, x⟩ := r
  obtain ⟨p', x'⟩ := r'
  cases h.pipeline
  cases h.state.exact trivial
  rfl

theorem File.Agrees.refl (f : File) : f.Agrees timed f := by
  refine ⟨?_, rfl⟩
  cases f.record with
  | none => exact .none
  | some r => exact .some (.refl r)

/-- Where nothing is left out of account, files that agree are the same. -/
theorem File.Agrees.eq {f f' : File} (h : f.Agrees True f') : f' = f := by
  obtain ⟨records, flagged⟩ := h
  obtain ⟨record, flag⟩ := f
  obtain ⟨record', flag'⟩ := f'
  cases flagged
  cases records with
  | none => rfl
  | some agree => rw [agree.eq]

/-- Where nothing is left out of account, answers that agree are the same. -/
theorem Answer.Agrees.eq {a a' : Answer} (h : a.Agrees True a') : a' = a := by
  cases h with
  | refl => rfl
  | state agree =>
    cases agree with
    | none => rfl
    | some agree => rw [agree.exact trivial]

namespace Engine

variable {e e' : Engine} {x y : Execution} {p : Pipeline}

/-- The file of a run. -/
def file (e : Engine) (id : ExecutionId) : File where
  record := e.record? id
  flagged := e.cancelled.contains id

/-- **The engine when a request is made**: at a time, which is not limited, and with an id for a
new run. -/
def given (e : Engine) (id : ExecutionId) (clock : Nat) : Engine :=
  { e with started := id.number, clock, limit := none, expired := false }

/-- **Two engines that serve a run alike**: they have the same file of it, and the same time if
times are to be the same.  Neither is pressed for time. -/
structure Concurs (timed : Prop) (id : ExecutionId) (e e' : Engine) : Prop where
  file : (e.file id).Agrees timed (e'.file id)
  clock : timed → e'.clock = e.clock
  free : e.Heeds none
  free' : e'.Heeds none

/-! ### Changes of files -/

theorem record?_eq_head? (e : Engine) (id : ExecutionId) :
    e.record? id = (e.standing id).records.head? := List.head?_filter.symm

theorem record?_publish (e : Engine) (x : Execution) :
    (e.publish x).record? x.id = (e.record? x.id).map fun r => { r with state := x } := by
  rw [record?_eq_head?, standing_publish rfl, List.head?_map, ← record?_eq_head?]

theorem file_publish_of_ne (other : x.id ≠ i) : (e.publish x).file i = e.file i := by
  have same : (e.publish x).record? i = e.record? i := by
    rw [record?_eq_head?, standing_publish_of_ne other, ← record?_eq_head?]
  exact congrArg (File.mk · _) same

theorem record?_enlist (e : Engine) (p : Pipeline) (x : Execution) :
    (e.enlist p x).record? i =
      (e.record? i).or (if x.id = i then some ⟨p, x⟩ else none) := by
  unfold record? enlist
  rw [List.find?_append]
  congr 1
  by_cases mine : x.id = i
  · simp [mine]
  · simp [mine]

theorem file_enlist_of_ne (other : x.id ≠ i) : (e.enlist p x).file i = e.file i := by
  have same : (e.enlist p x).record? i = e.record? i := by
    rw [record?_enlist, if_neg other, Option.or_none]
  exact congrArg (File.mk · _) same

theorem file_flag_of_ne (other : id ≠ i) : (e.flag id).file i = e.file i := by
  have same : (e.flag id).cancelled.contains i = e.cancelled.contains i := by
    show (id :: e.cancelled).contains i = _
    rw [List.contains_cons, beq_eq_false_iff_ne.mpr other.symm, Bool.false_or]
  exact congrArg (File.mk _) same

theorem record?_forget (e : Engine) : (e.forget id).record? id = none := by
  unfold record? forget
  rw [List.find?_eq_none]
  intro r listed
  simpa using (List.mem_filter.mp listed).2

theorem file_forget_of_ne (other : id ≠ i) : (e.forget id).file i = e.file i := by
  have same : (e.forget id).record? i = e.record? i := by
    unfold record? forget
    rw [List.find?_filter]
    congr 1
    funext r
    by_cases here : r.state.id = i
    · simp [here, other.symm]
    · simp [here]
  exact congrArg (File.mk · _) same

/-! ### Calls -/

section Plain

variable {α : Type} {answer : Request → Engine → Answer × Engine} {act : Activity α} {a : α}
  {ms : Nat}

/-- **An activity that comes to something** does so on every engine where there is time for it, and
leaves its traces in the trail. -/
theorem perform_of_comesTo (still : ∀ r e, r.OnlyLooks → (answer r e).2 = e)
    (comes : act.ComesTo a ms) (timely : e.expired = false)
    (inTime : ∀ t ≤ e.clock + ms, e.inTime t = true) :
    ∃ trail, e.perform answer act = (some a, { e with trail, clock := e.clock + ms }) := by
  induction comes generalizing e with
  | done => exact ⟨e.trail, rfl⟩
  | wait _ ih =>
    rw [perform_wait, elapse_of_inTime (inTime _ (by omega)), if_neg (by simp [timely]),
      ← Nat.add_assoc]
    exact ih timely fun t before => inTime t (by rw [← Nat.add_assoc]; exact before)
  | request looks _ ih =>
    rw [perform_request, still _ _ looks, if_neg (by simp [timely])]
    exact ih _ timely inTime

/-- **An activity that takes too long** comes to nothing, and the time is up. -/
theorem perform_of_comesTo_late {limit : Nat} (still : ∀ r e, r.OnlyLooks → (answer r e).2 = e)
    (comes : act.ComesTo a ms) (timely : e.expired = false) (limited : e.limit = some limit)
    (begun : e.clock ≤ limit) (late : limit < e.clock + ms) :
    ∃ trail, e.perform answer act = (none, { e with trail, clock := limit, expired := true }) := by
  induction comes generalizing e with
  | done => omega
  | @wait ms rest next _ ih =>
    rw [perform_wait]
    by_cases inTime : e.clock + ms ≤ limit
    · rw [elapse_of_inTime ((inTime_iff limited _).mpr inTime), if_neg (by simp [timely])]
      exact ih timely limited inTime (by rw [← Nat.add_assoc] at late; exact late)
    · rw [elapse_of_not_inTime (mt (inTime_iff limited _).mp inTime), if_pos rfl, limited]
      exact ⟨e.trail, rfl⟩
  | request looks _ ih =>
    rw [perform_request, still _ _ looks, if_neg (by simp [timely])]
    exact ih _ timely limited begun late

/-- The result of a call that took so many milliseconds. -/
theorem resultSince_eq {after : Engine} {ms : Nat} (later : after.clock = e.clock + ms)
    (o : Outcome) :
    after.resultSince e o = ⟨o, e.now, .ofMilliseconds (e.clock + ms), .ofNat ms⟩ := by
  unfold resultSince now
  rw [later, Nat.add_sub_cancel_left]

/-- **A call of a plain tool** comes to the same outcome after the same time on every engine that
is not pressed for time, of which it changes the trail and the time. -/
theorem call_of_isPlain {u : Setup} (plain : u.IsPlain)
    (still : ∀ r e, r.OnlyLooks → (answer r e).2 = e) (c : Call) (timeout : UInt64) :
    ∃ o ms, ∀ e : Engine, e.Heeds none → ∃ trail,
      e.call u.tools answer c timeout =
        (⟨o, e.now, .ofMilliseconds (e.clock + ms), .ofNat ms⟩,
          { e with trail, clock := e.clock + ms, limit := none, expired := false }) := by
  by_cases known : u.tools.knows c.tool = true
  · obtain ⟨o, ms, comes⟩ := plain.tools c
    by_cases late : timeout.toNat * 1000 < ms
    · refine ⟨.ofError (.timedOut timeout), timeout.toNat * 1000, fun e heeds => ?_⟩
      obtain ⟨trail, performed⟩ := perform_of_comesTo_late
        (e := e.consulting c (e.clock + timeout.toNat * 1000)) still (comes e.calls)
        (heeds.timely rfl) rfl (Nat.le_add_right _ _) (Nat.add_lt_add_left late _)
      refine ⟨trail, ?_⟩
      rw [call_of_heeds heeds known, performed]
      exact Prod.ext (resultSince_eq rfl _) rfl
    · refine ⟨o, ms, fun e heeds => ?_⟩
      obtain ⟨trail, performed⟩ := perform_of_comesTo
        (e := e.consulting c (e.clock + timeout.toNat * 1000)) still (comes e.calls)
        (heeds.timely rfl) fun t before => (inTime_iff rfl t).mpr
          (Nat.le_trans before (Nat.add_le_add_left (Nat.not_lt.mp late) _))
      refine ⟨trail, ?_⟩
      rw [call_of_heeds heeds known, performed]
      exact Prod.ext (resultSince_eq rfl _) rfl
  · refine ⟨.ofError (.notFound c.tool), 0, fun e heeds => ⟨e.trail, ?_⟩⟩
    unfold call
    rw [heeds.timely rfl, if_neg Bool.false_ne_true, if_neg known]
    exact Prod.ext (resultSince_eq rfl _) heeds.eq.symm

/-- **Asking a person** where the handler is plain changes the inbox, the trail and the time. -/
theorem ask_of_isPlain {u : Setup} (plain : u.IsPlain)
    (still : ∀ r e, r.OnlyLooks → (answer r e).2 = e) (q : HumanRequest) :
    ∃ ms, ∀ e : Engine, e.Heeds none → ∃ trail inbox,
      (u.hostAnswering answer).ask q e = { e with trail, inbox, clock := e.clock + ms } := by
  obtain ⟨ms, comes⟩ := plain.handler q
  refine ⟨ms, fun e heeds => ?_⟩
  have aside := (robust_heeds none).setAside u.listens q e heeds
  obtain ⟨trail, performed⟩ := perform_of_comesTo still (comes e.calls) (aside.timely rfl)
    fun t _ => inTime_of_limit_eq_none aside.same t
  refine ⟨trail, (e.setAside u.listens q).inbox, ?_⟩
  show (e.attend q.execution fun e =>
    (Engine.perform answer (u.handler e.calls q) (e.setAside u.listens q)).2) = _
  rw [attend_of_timely (heeds.timely rfl), performed]
  unfold setAside
  split <;> rfl

end Plain

/-! ### The same file -/

namespace Concurs

variable (related : e.Concurs timed id e')

include related

theorem now (h : timed) : e'.now = e.now := congrArg Instant.ofMilliseconds (related.clock h)

/-- The run is known to both engines, or to none of them. -/
theorem known_cases : (e.record? id = none ∧ e'.record? id = none) ∨
    ∃ r r', e.record? id = some r ∧ e'.record? id = some r' ∧ r.Agrees timed r' := by
  have records : Option.Rel (Record.Agrees timed) (e.record? id) (e'.record? id) :=
    related.file.record
  generalize e.record? id = a at records
  generalize e'.record? id = b at records
  cases records with
  | none => exact .inl ⟨rfl, rfl⟩
  | some agree => exact .inr ⟨_, _, rfl, rfl, agree⟩

/-- The same state is written into the same file. -/
theorem publish (mine : x.id = id) (agrees : x.Agrees timed y) :
    (e.publish x).Concurs timed id (e'.publish y) := by
  subst mine
  refine ⟨⟨?_, related.file.flagged⟩, related.clock, (robust_heeds none).publish _ _ related.free,
    (robust_heeds none).publish _ _ related.free'⟩
  have written : (e'.publish y).record? x.id =
      (e'.record? x.id).map fun r => { r with state := y } := by
    rw [← agrees.id]
    exact record?_publish e' y
  show Option.Rel _ ((e.publish x).record? x.id) ((e'.publish y).record? x.id)
  rw [record?_publish, written]
  rcases related.known_cases with ⟨unknown, unknown'⟩ | ⟨r, r', known, known', agree⟩
  · rw [unknown, unknown']
    exact .none
  · rw [known, known']
    exact .some ⟨agree.pipeline, agrees⟩

/-- The same record is added to the same file. -/
theorem enlist (p : Pipeline) (agrees : x.Agrees timed y) :
    (e.enlist p x).Concurs timed id (e'.enlist p y) := by
  refine ⟨⟨?_, related.file.flagged⟩, related.clock, (robust_heeds none).enlist _ _ _ related.free,
    (robust_heeds none).enlist _ _ _ related.free'⟩
  show Option.Rel _ ((e.enlist p x).record? id) ((e'.enlist p y).record? id)
  rw [record?_enlist, record?_enlist, agrees.id]
  rcases related.known_cases with ⟨unknown, unknown'⟩ | ⟨r, r', known, known', agree⟩
  · rw [unknown, unknown', Option.none_or, Option.none_or]
    split
    · exact .some ⟨rfl, agrees⟩
    · exact .none
  · rw [known, known']
    exact .some agree

theorem flag : (e.flag id).Concurs timed id (e'.flag id) := by
  refine ⟨⟨related.file.record, ?_⟩, related.clock, (robust_heeds none).flag _ _ related.free,
    (robust_heeds none).flag _ _ related.free'⟩
  show (id :: e'.cancelled).contains id = (id :: e.cancelled).contains id
  rw [List.contains_cons, List.contains_cons, BEq.rfl, Bool.true_or, Bool.true_or]

theorem forget : (e.forget id).Concurs timed id (e'.forget id) := by
  refine ⟨⟨?_, related.file.flagged⟩, related.clock,
    (robust_heeds none).forget _ _ trivial related.free,
    (robust_heeds none).forget _ _ trivial related.free'⟩
  show Option.Rel _ ((e.forget id).record? id) ((e'.forget id).record? id)
  rw [record?_forget, record?_forget]
  exact .none

/-- The state of the run is told alike. -/
theorem state : Option.Rel (Execution.Agrees timed) ((e.record? id).map (·.state))
    ((e'.record? id).map (·.state)) := by
  rcases related.known_cases with ⟨unknown, unknown'⟩ | ⟨r, r', known, known', agree⟩
  · rw [unknown, unknown']
    exact .none
  · rw [known, known']
    exact .some agree.state

end Concurs

end Engine

end StepFlow
