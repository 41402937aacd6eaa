import Mathlib.Logic.Relation
import StepFlow.Proofs.Engine.Custody
import StepFlow.Proofs.Execution.Calls

/-!
# Requests within requests

A request that is answered may begin with having a run driven or finished (`Setup.Begins`; if
it does not, it is answered without any call, `Setup.answer_eq_of_not_begins`).  The run calls
tools, and in the end it may have a person asked.  The tools make requests of their own, and so
does the handler of what people are asked, as long as there is time.  A **moment** is a request
together with the engine that it is made of, before it is answered.  While the request of one
moment is answered others come, each of them during one of the calls that are made for the run,
or while its question is handled (`Setup.Opens`, `Setup.During`).  A call that is out of time
has had its moments, too: those of the requests that the tool made before.

What a request can do to a run depends on where it is made.  Nobody else drives or finishes a
run that is held (`Setup.Calls.ne_of_held`).  So every moment either comes during a call of the
run, or only calls of other runs and questions led there (`Setup.away_or_during`).

What is load-bearing is `Setup.Passes`.  A property that survives whatever is done for one run
passes from the beginning of a request to the moments that come during its calls, and from the
end of each of these moments back to the end of the request.
-/

namespace StepFlow

open Relation

/-- **A moment**: a request, and the engine that it is made of.  The requests that tools make
meanwhile nest less than `depth` deep; at depth 0 the request is refused itself. -/
structure Moment where
  depth : Nat
  request : Request
  engine : Engine

namespace Engine

/-- The run that is started next. -/
def newRun (e : Engine) (p : Pipeline) (initial : Table Value) : Execution :=
  .fresh p initial ⟨e.started⟩ e.now

/-- The engine that has a new run, and was told so. -/
def launch (e : Engine) (p : Pipeline) (initial : Table Value) : Engine :=
  (e.enlist p (e.newRun p initial)).note (.happened ⟨e.started⟩ (.started p.id p.name))

end Engine

namespace Setup

/-- **What a request has done with a run**, and the engine that begins with it. -/
inductive Begins (u : Setup) : Request → Engine → Course → Engine → Prop
  | start (p : Pipeline) (initial : Table Value) (e : Engine) :
      Begins u (.start p initial) e (.drive p u.budget (e.newRun p initial)) (e.launch p initial)
  | respond {id : ExecutionId} {e : Engine} {record : Record} (r : HumanResponse)
      (known : e.record? id = some record) (waiting : record.state.status = .waiting) :
      Begins u (.respond id r) e
        (.drive record.pipeline u.budget ((record.state.respond u.settings.failOnUnroutedError
          record.pipeline r e.now).touch e.now))
        ((e.publish { record.state with status := .running }).note
          (.happened id (.humanReceived record.state.current r.approved)))
  | cancel {id : ExecutionId} {e : Engine} {record : Record}
      (known : e.record? id = some record) (waiting : record.state.status = .waiting) :
      Begins u (.cancel id) e
        (.finish record.pipeline ((record.state.fail .cancelled).touch e.now))
        ((e.flag id).publish ((record.state.fail .cancelled).touch e.now))

/-- **A request is answered** when what it began with has been done. -/
def complete (u : Setup) (h : Host Engine) : Course → Engine → Answer × Engine
  | .drive p budget x, e =>
    let came := h.run u.settings p budget x e
    (.state (some came.1), came.2)
  | .finish p x, e => (.verdict true, h.finish u.settings p x e)

/-- **A call is made while a request is answered.** -/
inductive Calls (u : Setup) : Moment → Made Engine → Prop
  | intro {depth : Nat} {r : Request} {e e' : Engine} {w : Course} {c : Made Engine}
      (begins : u.Begins r e w e') (made : c ∈ (u.host depth).calls u.settings w e') :
      Calls u ⟨depth + 1, r, e⟩ c

/-- **A person is asked while a request is answered**, for the run that was driven and waits. -/
inductive Inquires (u : Setup) : Moment → HumanRequest → Engine → Prop
  | intro {depth budget : Nat} {r : Request} {p : Pipeline} {x y : Execution} {e e' t : Engine}
      (begins : u.Begins r e (.drive p budget x) e')
      (stops : (u.host depth).stop? u.settings p budget x e' = some (y, t))
      (waiting : y.status = .waiting) :
      Inquires u ⟨depth + 1, r, e⟩ (y.inquiry p)
        ((u.host depth).emit y.id (.humanRequested y.current) ((u.host depth).publish y t))

/-- **The moments of an activity**: those of the requests that are made in it, while there is
time. -/
def moments (u : Setup) (depth : Nat) {α : Type} : Activity α → Engine → List Moment
  | .done _, _ => []
  | .wait ms next, e => if (e.elapse ms).expired then [] else u.moments depth next (e.elapse ms)
  | .request r next, e =>
    let (a, e') := u.answering depth r e
    ⟨depth, r, e⟩ ::
      if e'.expired then [] else u.moments depth (next a) (e'.note (.answered a))

/-- **The moments that a call opens**: those of the requests that the tool makes. -/
def opened (u : Setup) (depth : Nat) (c : Made Engine) : List Moment :=
  if c.state.expired then []
  else if u.tools.knows c.call.tool then
    u.moments depth (u.tools.reply c.state.calls c.call)
      ((c.state.note (.called c.call)).within (c.state.clock + c.timeout.toNat * 1000))
  else []

/-- **The moments that a question opens**: those of the requests that the handler makes. -/
def handled (u : Setup) (depth : Nat) (q : HumanRequest) (e : Engine) : List Moment :=
  if e.expired then [] else u.moments depth (u.handler e.calls q) (e.setAside u.listens q)

/-- **One moment opens another**, by a call or by a question. -/
inductive Opens (u : Setup) (outer inner : Moment) : Prop
  | call {c : Made Engine} (called : u.Calls outer c)
      (opened : inner ∈ u.opened (outer.depth - 1) c)
  | question {q : HumanRequest} {e : Engine} (inquires : u.Inquires outer q e)
      (handled : inner ∈ u.handled (outer.depth - 1) q e)

/-- One moment opens another by a call of another run, or by a question. -/
inductive OpensAway (u : Setup) (id : ExecutionId) (outer inner : Moment) : Prop
  | call {c : Made Engine} (called : u.Calls outer c) (other : c.call.purpose.execution ≠ id)
      (opened : inner ∈ u.opened (outer.depth - 1) c)
  | question {q : HumanRequest} {e : Engine} (inquires : u.Inquires outer q e)
      (handled : inner ∈ u.handled (outer.depth - 1) q e)

/-- **A moment comes during a call** that is made at another. -/
structure During (u : Setup) (outer : Moment) (c : Made Engine) (inner : Moment) : Prop where
  called : u.Calls outer c
  within : ∃ first ∈ u.opened (outer.depth - 1) c, ReflTransGen u.Opens first inner

/-- **A moment comes after some requests**, while the request `r` is answered. -/
def Reaches (u : Setup) (depth : Nat) (requests : List Request) (r : Request) : Moment → Prop :=
  ReflTransGen u.Opens ⟨depth + 1, r, u.serve depth requests {}⟩

/-- The engine when the request of a moment has been answered. -/
def after (u : Setup) (m : Moment) : Engine := (u.answering m.depth m.request m.engine).2

variable {α : Type} {u : Setup} {id : ExecutionId} {r : Request} {e e' t : Engine} {w : Course}
  {c : Made Engine} {q : HumanRequest} {m m' outer inner : Moment} {depth : Nat}
  {act : Activity α}

/-- The moments after a wait come if there is time left. -/
theorem mem_moments_wait {ms : Nat} {next : Activity α} :
    m ∈ u.moments depth (.wait ms next) e ↔
      (e.elapse ms).expired = false ∧ m ∈ u.moments depth next (e.elapse ms) := by
  rw [moments]
  cases (e.elapse ms).expired <;> simp

/-- The moment of a request is the first, and others come if there is time left. -/
theorem mem_moments_request {next : Answer → Activity α} :
    m ∈ u.moments depth (.request r next) e ↔
      m = ⟨depth, r, e⟩ ∨ (u.answering depth r e).2.expired = false ∧
        m ∈ u.moments depth (next (u.answering depth r e).1)
          ((u.answering depth r e).2.note (.answered (u.answering depth r e).1)) := by
  rw [moments, List.mem_cons]
  cases (u.answering depth r e).2.expired <;> simp

theorem mem_opened_iff : m ∈ u.opened depth c ↔
    c.state.expired = false ∧ u.tools.knows c.call.tool = true ∧
      m ∈ u.moments depth (u.tools.reply c.state.calls c.call)
        ((c.state.note (.called c.call)).within (c.state.clock + c.timeout.toNat * 1000)) := by
  unfold opened
  cases c.state.expired with
  | true => simp
  | false => cases u.tools.knows c.call.tool <;> simp

theorem mem_handled_iff : m ∈ u.handled depth q e ↔
    e.expired = false ∧ m ∈ u.moments depth (u.handler e.calls q) (e.setAside u.listens q) := by
  unfold handled
  cases e.expired <;> simp

/-- The calls of other runs are calls. -/
theorem opens_of_away (away : ReflTransGen (u.OpensAway id) m m') : ReflTransGen u.Opens m m' := by
  refine ReflTransGen.mono ?_ _ _ away
  intro m m' opens
  cases opens with
  | call called _ opened => exact .call called opened
  | question inquires handled => exact .question inquires handled

/-- A moment that comes during a call comes while the request is answered. -/
theorem During.opens (during : u.During outer c inner) : ReflTransGen u.Opens outer inner := by
  obtain ⟨called, first, opened, within⟩ := during
  exact within.head (.call called opened)

/-! ### What requests begin -/

namespace Begins

theorem answer_eq (begins : u.Begins r e w e') (timely : e.expired = false) (depth : Nat) :
    u.answer (u.host depth) r e = u.complete (u.host depth) w e' := by
  cases begins with
  | start p initial e =>
    unfold Engine.launch
    rw [← u.emit_host depth _ _ (e := e.enlist p (e.newRun p initial)) timely]
    rfl
  | @respond id e record r known waiting =>
    show (Answer.state (u.respond (u.host depth) _ r e).1, (u.respond (u.host depth) _ r e).2) = _
    rw [u.respond_of_waiting known waiting, u.emit_host depth _ _ (e := e.publish _) timely]
    rfl
  | cancel known waiting =>
    show (Answer.verdict (u.cancel (u.host depth) _ e).1, (u.cancel (u.host depth) _ e).2) = _
    rw [u.cancel_of_waiting known waiting]
    rfl

theorem answer_snd (begins : u.Begins r e w e') (timely : e.expired = false) (depth : Nat) :
    (u.answer (u.host depth) r e).2 = (u.host depth).pursue u.settings w e' := by
  rw [begins.answer_eq timely]
  cases w <;> rfl

/-- What is begun with for another run leaves the standing of a run as it is. -/
theorem standing_eq (begins : u.Begins r e w e') (other : w.run.id ≠ id) :
    e'.standing id = e.standing id := by
  cases begins with
  | start p initial e =>
    have other : (⟨e.started⟩ : ExecutionId) ≠ id := other
    unfold Engine.launch
    rw [Engine.standing_told_of_ne other]
    exact Engine.standing_enlist_of_ne rfl other
  | @respond id' e record r known waiting =>
    have found : record.state.id = id' := Engine.id_of_record? known
    have other : id' ≠ id := by
      rw [← found]
      rwa [← record.state.id_respond u.settings.failOnUnroutedError record.pipeline r e.now]
    rw [Engine.standing_told_of_ne other]
    exact Engine.standing_publish_of_ne (x := { record.state with status := .running })
      (found ▸ other)
  | cancel known waiting =>
    exact Engine.standing_publish_of_ne (e := e.flag _) other

/-- Nothing is begun with for a run that is held. -/
theorem ne_of_held {P : Record → Prop} {d : List Deed}
    (awake : ∀ r, P r → r.state.status ≠ .waiting) (held : (e.standing id).Held P d)
    (begins : u.Begins r e w e') : w.run.id ≠ id := by
  cases begins with
  | start p initial e =>
    rintro rfl
    exact absurd (show e.started < e.started from held.begun) (Nat.lt_irrefl _)
  | @respond id' e record r known waiting =>
    intro same
    have found : id' = id := by
      rw [← same, ← Engine.id_of_record? known]
      exact (record.state.id_respond u.settings.failOnUnroutedError record.pipeline r e.now).symm
    exact held.not_waits awake ⟨record, found ▸ known, waiting⟩
  | @cancel id' e record known waiting =>
    intro same
    have found : id' = id := (Engine.id_of_record? known).symm.trans same
    exact held.not_waits awake ⟨record, found ▸ known, waiting⟩

end Begins

/-- **A request that begins with no run is answered without any call**: it does not matter what
the host of the runs is. -/
theorem answer_eq_of_not_begins (idle : ∀ w e', ¬ u.Begins r e w e') (h h' : Host Engine) :
    u.answer h r e = u.answer h' r e := by
  cases r with
  | start p initial => exact absurd (.start p initial e) (idle _ _)
  | respond id r =>
    have awake : ¬ e.Waits id := fun ⟨_, known, waiting⟩ => idle _ _ (.respond r known waiting)
    show (Answer.state (u.respond h id r e).1, (u.respond h id r e).2) =
      (Answer.state (u.respond h' id r e).1, (u.respond h' id r e).2)
    rw [u.respond_of_not_waits r awake, u.respond_of_not_waits r awake]
  | cancel id =>
    have same : u.cancel h id e = u.cancel h' id e := by
      unfold cancel
      cases known : e.record? id with
      | none => rfl
      | some record =>
        simp only
        split
        · rfl
        · rw [if_neg fun waiting => idle _ _ (.cancel known waiting),
            if_neg fun waiting => idle _ _ (.cancel known waiting)]
    show (Answer.verdict (u.cancel h id e).1, (u.cancel h id e).2) = _
    rw [same]
    rfl
  | get | list | remove | cleanup | malformed => rfl

/-! ### Questions -/

namespace Inquires

/-- **Asking is the last thing that is done** for a run that waits. -/
theorem after_eq (inquires : u.Inquires m q t) (timely : m.engine.expired = false) :
    u.after m = (u.host (m.depth - 1)).ask q t := by
  obtain ⟨begins, stops, waiting⟩ := inquires
  show (u.answer (u.host _) _ _).2 = _
  rw [begins.answer_snd timely]
  show ((u.host _).run u.settings _ _ _ _).2 = _
  rw [Host.run_of_stop? u.settings _ stops]
  exact Host.settle_of_waiting u.settings _ waiting _

/-- The handler does what it does, and then the request is answered. -/
theorem after_eq_perform (inquires : u.Inquires m q t) (timely : m.engine.expired = false)
    (asked : t.expired = false) :
    u.after m = (Engine.perform (u.answering (m.depth - 1)) (u.handler t.calls q)
      (t.setAside u.listens q)).2 := by
  rw [inquires.after_eq timely, u.host_eq]
  exact Engine.attend_of_timely asked q.execution fun t =>
    (Engine.perform (u.answering (m.depth - 1)) (u.handler t.calls q)
      (t.setAside u.listens q)).2

/-- A person is asked for the run that was driven. -/
theorem exists_drive (inquires : u.Inquires m q t) :
    ∃ p x e', u.Begins m.request m.engine (.drive p u.budget x) e' ∧ x.id = q.execution ∧
      ∀ I, (u.host (m.depth - 1)).KeepsFor x.id I → I e' → I t := by
  obtain ⟨begins, stops, waiting⟩ := inquires
  rename_i depth budget r p x y e e' t
  have same : budget = u.budget := by cases begins <;> rfl
  subst same
  have still : y.id = x.id := Host.id_of_stop? u.settings p stops
  refine ⟨p, x, e', begins, still.symm, fun I keeps began => ?_⟩
  have stopped := keeps.stop? u.settings p rfl began stops
  show I ((u.host depth).emit y.id _ _)
  rw [still]
  exact keeps.emit _ _ (keeps.publish y t still stopped)

end Inquires

/-! ### What passes through moments -/

/-- **Requests keep a property of the engine**, when they are answered and when this is noted, and
so does time. -/
structure Keeps (u : Setup) (I : Engine → Prop) : Prop where
  answers : ∀ depth r {e}, e.expired = false → I e → I (u.answering depth r e).2
  notes : ∀ a {e}, I e → I (e.note (.answered a))
  timed : ∀ clock limit expired {e : Engine}, I e → I { e with clock, limit, expired }

/-- **A property passes through what is done for a run**: it is kept when a request begins with
the run, by all that is done for the run, and by the requests that are answered meanwhile. -/
structure Passes (u : Setup) (id : ExecutionId) (I : Engine → Prop) : Prop extends u.Keeps I where
  begins : ∀ {r e w e'}, u.Begins r e w e' → w.run.id = id → I e → I e'
  operates : ∀ depth, (u.host depth).KeepsFor id I
  calls : ∀ {c : Call} {e}, c.purpose.execution = id → I e → I (e.note (.called c))
  files : ∀ listens q {e : Engine}, I e → I (e.setAside listens q)

/-- What is known of a run is kept if it is kept by the answers. -/
theorem keeps_standing {J : Standing → Prop} (kept : ∀ depth, u.Preserves id J depth) :
    u.Keeps fun e => J (e.standing id) where
  answers depth r e timely before := kept depth r e timely before
  notes a e before := by
    rw [Engine.standing_note rfl]
    exact before
  timed _ _ _ _ before := before

/-- What every change keeps passes through everything. -/
theorem passes_of_stable (u : Setup) {I : Engine → Prop} (stable : Engine.Stable (fun _ => True) I)
    (id : ExecutionId) : u.Passes id I where
  begins begins _ before := by
    cases begins with
    | start => exact stable.note _ _ (stable.enlist _ _ _ before)
    | respond => exact stable.note _ _ (stable.publish _ _ before)
    | cancel => exact stable.publish _ _ (stable.flag _ _ before)
  operates depth :=
    (u.keeps_host_of_stable stable (u.asksOnly_of_forall fun _ => trivial) depth).keepsFor id
  calls _ before := stable.note _ _ before
  files listens q _ before := stable.setAside listens q _ before
  answers depth r _ _ before := u.keeps_answering_of_stable stable
    (u.asksOnly_of_forall fun _ => trivial) depth r _ trivial before
  notes _ _ before := stable.note _ _ before
  timed _ _ _ _ before := stable.timed _ _ _ _ before

/-- **What is known of one run passes through what is done for another**, if requests keep it. -/
theorem passes_of_ne {J : Standing → Prop} (kept : ∀ depth, u.Preserves id J depth)
    {id' : ExecutionId} (other : id' ≠ id) : u.Passes id' fun e => J (e.standing id) where
  begins begins mine before := by
    rw [begins.standing_eq (mine ▸ other)]
    exact before
  toKeeps := keeps_standing kept
  operates depth := u.keepsFor_host (kept depth) other
  calls mine before := by
    rw [Engine.standing_called_of_ne (mine ▸ other)]
    exact before
  files listens q e before := by
    rw [Engine.standing_setAside]
    exact before

namespace Keeps

variable {I : Engine → Prop} (keeps : u.Keeps I)

include keeps

theorem elapse (ms : Nat) (before : I e) : I (e.elapse ms) := by
  unfold Engine.elapse
  split
  · exact keeps.timed _ _ _ before
  · exact keeps.timed _ _ _ before

/-- **From the beginning of an activity to its moments.** -/
theorem of_mem_moments (mem : m ∈ u.moments depth act e) (timely : e.expired = false)
    (before : I e) : m.engine.expired = false ∧ I m.engine := by
  induction act generalizing e with
  | done a => cases mem
  | wait ms next ih =>
    obtain ⟨still, mem⟩ := mem_moments_wait.mp mem
    exact ih mem still (keeps.elapse ms before)
  | request r next ih =>
    rcases mem_moments_request.mp mem with rfl | ⟨still, later⟩
    · exact ⟨timely, before⟩
    · exact ih _ later still (keeps.notes _ (keeps.answers depth r timely before))

theorem perform (act : Activity α) (timely : e.expired = false) (before : I e) :
    I (e.perform (u.answering depth) act).2 :=
  Engine.keeps_perform (P := fun _ => True) (fun ms _ before => keeps.elapse ms before)
    (fun r _ _ timely before => keeps.answers depth r timely before)
    (fun a _ before => keeps.notes a before) (Activity.asks_of_forall (fun _ => trivial) act) timely
    before

/-- **From the end of a moment to the end of the activity** that it comes in. -/
theorem perform_of_mem (mem : m ∈ u.moments depth act e) (after : I (u.after m)) :
    I (e.perform (u.answering depth) act).2 := by
  induction act generalizing e with
  | done a => cases mem
  | wait ms next ih =>
    obtain ⟨still, mem⟩ := mem_moments_wait.mp mem
    rw [Engine.perform_wait, still, if_neg Bool.false_ne_true]
    exact ih mem
  | request r next ih =>
    rw [Engine.perform_request]
    rcases mem_moments_request.mp mem with rfl | ⟨still, later⟩
    · split
      · exact after
      · rename_i still
        exact keeps.perform _ (eq_false_of_ne_true still) (keeps.notes _ after)
    · rw [still, if_neg Bool.false_ne_true]
      exact ih _ later

/-- **From the end of a moment to the end of the call** that it comes during. -/
theorem after_call (opened : m ∈ u.opened depth c) (after : I (u.after m)) :
    I (c.after (u.host depth)) := by
  obtain ⟨timely, known, mem⟩ := mem_opened_iff.mp opened
  have performed := keeps.perform_of_mem mem after
  unfold Made.after
  rw [u.host_eq]
  show I (c.state.call u.tools (u.answering depth) c.call c.timeout).2
  rw [Engine.call_snd_eq, timely, if_neg Bool.false_ne_true, if_pos known]
  exact keeps.timed _ _ _ performed

/-- **From the end of a moment to the end of the request** during which a question opens it. -/
theorem after_question (inquires : u.Inquires m q t) (timely : m.engine.expired = false)
    (handled : m' ∈ u.handled (m.depth - 1) q t) (after : I (u.after m')) : I (u.after m) := by
  obtain ⟨asked, mem⟩ := mem_handled_iff.mp handled
  rw [inquires.after_eq_perform timely asked]
  exact keeps.perform_of_mem mem after

end Keeps

/-- **Requests are made only while there is time.** -/
theorem Opens.timely (opens : u.Opens m m') : m'.engine.expired = false := by
  have keeps : u.Keeps fun _ => True :=
    ⟨fun _ _ _ _ _ => trivial, fun _ _ _ => trivial, fun _ _ _ _ _ => trivial⟩
  cases opens with
  | call _ opened =>
    obtain ⟨timely, -, mem⟩ := mem_opened_iff.mp opened
    exact (keeps.of_mem_moments mem timely trivial).1
  | @question q t _ handled =>
    obtain ⟨timely, mem⟩ := mem_handled_iff.mp handled
    exact (keeps.of_mem_moments mem ((t.expired_setAside _ q).trans timely) trivial).1

theorem timely_of_opens (opens : ReflTransGen u.Opens m m') (timely : m.engine.expired = false) :
    m'.engine.expired = false := by
  cases opens with
  | refl => exact timely
  | tail _ opens => exact opens.timely

namespace Passes

variable {I : Engine → Prop} (passes : u.Passes id I)

include passes

/-- **From the beginning of a request to the moments** that come during its calls for a run. -/
theorem engine (called : u.Calls m c) (mine : c.call.purpose.execution = id)
    (opened : m' ∈ u.opened (m.depth - 1) c) (before : I m.engine) : I m'.engine := by
  obtain ⟨begins, made⟩ := called
  have same := (Host.execution_of_mem_calls made).symm.trans mine
  obtain ⟨timely, -, mem⟩ := mem_opened_iff.mp opened
  have began := passes.begins begins same before
  have called := (passes.operates _).state_of_mem_calls same began c made
  exact (passes.toKeeps.of_mem_moments mem timely
    (passes.timed _ _ _ (passes.calls mine called))).2

/-- **From the beginning of a request to the moments** that its question for a run opens. -/
theorem engine_of_question (inquires : u.Inquires m q t) (mine : q.execution = id)
    (handled : m' ∈ u.handled (m.depth - 1) q t) (before : I m.engine) : I m'.engine := by
  obtain ⟨p, x, e', begins, same, passed⟩ := inquires.exists_drive
  obtain ⟨timely, mem⟩ := mem_handled_iff.mp handled
  have same := same.trans mine
  have asked := passed I (same ▸ passes.operates _) (passes.begins begins same before)
  exact (passes.toKeeps.of_mem_moments mem ((t.expired_setAside _ q).trans timely)
    (passes.files _ q asked)).2

/-- **From the end of a moment to the end of the request** during whose call it comes. -/
theorem after (called : u.Calls m c) (mine : c.call.purpose.execution = id)
    (timely : m.engine.expired = false) (opened : m' ∈ u.opened (m.depth - 1) c)
    (after : I (u.after m')) : I (u.after m) := by
  obtain ⟨begins, made⟩ := called
  have same := (Host.execution_of_mem_calls made).symm.trans mine
  have ended := passes.toKeeps.after_call opened after
  show I (u.answer (u.host _) _ _).2
  rw [begins.answer_snd timely]
  exact (passes.operates _).pursue_of_after same made ended

end Passes

/-- What every change keeps passes to the end, through all calls. -/
theorem after_of_stable {I : Engine → Prop} (stable : Engine.Stable (fun _ => True) I)
    (opens : ReflTransGen u.Opens m m') (timely : m.engine.expired = false)
    (after : I (u.after m')) : I (u.after m) := by
  induction opens using ReflTransGen.head_induction_on with
  | refl => exact after
  | head opens _ ih =>
    have ended := ih opens.timely
    cases opens with
    | call called opened => exact (u.passes_of_stable stable _).after called rfl timely opened ended
    | @question q _ inquires handled =>
      exact (u.passes_of_stable stable q.execution).toKeeps.after_question inquires timely handled
        ended

/-- What every change keeps passes from a moment to the end of the call that it comes during. -/
theorem During.after_call_of_stable {I : Engine → Prop}
    (stable : Engine.Stable (fun _ => True) I) (during : u.During outer c inner)
    (after : I (u.after inner)) : I (c.after (u.host (outer.depth - 1))) := by
  obtain ⟨called, first, opened, opens⟩ := during
  have passes := u.passes_of_stable stable c.call.purpose.execution
  have timely := (Opens.call called opened).timely
  exact passes.toKeeps.after_call opened (after_of_stable stable opens timely after)

section Away

variable {J : Standing → Prop} (kept : ∀ depth, u.Preserves id J depth)

include kept

/-- **What is known of a run passes through the calls of others**, and through questions if its own
let it pass, to the moments they open. -/
theorem engine_of_away
    (own : ∀ {m q t}, u.Inquires m q t → q.execution = id → m.engine.expired = false →
      t.expired = false → J (m.engine.standing id) → J (t.standing id))
    (away : ReflTransGen (u.OpensAway id) m m') (timely : m.engine.expired = false)
    (before : J (m.engine.standing id)) : J (m'.engine.standing id) := by
  induction away with
  | refl => exact before
  | tail earlier opens ih =>
    cases opens with
    | call called other opened => exact (passes_of_ne kept other).engine called rfl opened ih
    | @question q t inquires handled =>
      by_cases mine : q.execution = id
      · obtain ⟨asked, mem⟩ := mem_handled_iff.mp handled
        have known := own inquires mine (timely_of_opens (opens_of_away earlier) timely) asked ih
        refine ((keeps_standing kept).of_mem_moments mem
          ((t.expired_setAside _ q).trans asked) ?_).2
        rw [Engine.standing_setAside]
        exact known
      · exact (passes_of_ne kept mine).engine_of_question inquires rfl handled ih

/-- What is known of a run passes through the calls of others and through questions, to their
end. -/
theorem after_of_away (away : ReflTransGen (u.OpensAway id) m m')
    (timely : m.engine.expired = false) (after : J ((u.after m').standing id)) :
    J ((u.after m).standing id) := by
  induction away using ReflTransGen.head_induction_on with
  | refl => exact after
  | head opens _ ih =>
    cases opens with
    | call called other opened =>
      exact (passes_of_ne kept other).after called rfl timely opened
        (ih (Opens.call called opened).timely)
    | question inquires handled =>
      exact (keeps_standing kept).after_question inquires timely handled
        (ih (Opens.question inquires handled).timely)

end Away

/-! ### Where a run is held -/

section Held

variable {P : Record → Prop} {d : List Deed} (awake : ∀ r, P r → r.state.status ≠ .waiting)

include awake

/-- No call is made for a run that is held. -/
theorem Calls.ne_of_held (held : (m.engine.standing id).Held P d) (called : u.Calls m c) :
    c.call.purpose.execution ≠ id := by
  obtain ⟨begins, made⟩ := called
  rw [Host.execution_of_mem_calls made]
  exact begins.ne_of_held awake held

/-- Nobody is asked for a run that is held. -/
theorem Inquires.ne_of_held (held : (m.engine.standing id).Held P d)
    (inquires : u.Inquires m q t) : q.execution ≠ id := by
  obtain ⟨p, x, e', begins, same, -⟩ := inquires.exists_drive
  rw [← same]
  exact begins.ne_of_held awake held

/-- **A run that is held is held at all moments** that come meanwhile. -/
theorem held_of_opens (opens : ReflTransGen u.Opens m m') (held : (m.engine.standing id).Held P d) :
    (m'.engine.standing id).Held P d := by
  induction opens with
  | refl => exact held
  | tail _ opens ih =>
    cases opens with
    | call called opened =>
      exact (passes_of_ne (u.keeps_held awake) (called.ne_of_held awake ih)).engine called rfl
        opened ih
    | question inquires handled =>
      exact (passes_of_ne (u.keeps_held awake) (inquires.ne_of_held awake ih)).engine_of_question
        inquires rfl handled ih

/-- **A run is held during a call** that is made for it, with that call done. -/
theorem During.held (during : u.During outer c inner) (mine : c.call.purpose.execution = id)
    (held : (c.state.standing id).Held P d) :
    (inner.engine.standing id).Held P (.called c.call :: d) := by
  obtain ⟨called, first, opened, opens⟩ := during
  obtain ⟨timely, -, mem⟩ := mem_opened_iff.mp opened
  refine held_of_opens awake opens
    ((keeps_standing (u.keeps_held awake)).of_mem_moments mem timely ?_).2
  show ((c.state.note (.called c.call)).standing id).Held P _
  rw [Engine.standing_called mine]
  exact { held with deeds := congrArg (.called c.call :: ·) held.deeds }

end Held

/-- **How a moment stands to a run**: it comes during a call of the run, or it was reached
through questions and the calls of others only. -/
theorem away_or_during (opens : ReflTransGen u.Opens m m') (id : ExecutionId) :
    ReflTransGen (u.OpensAway id) m m' ∨
      ∃ outer c, ReflTransGen (u.OpensAway id) m outer ∧ u.During outer c m' ∧
        c.call.purpose.execution = id := by
  induction opens with
  | refl => exact .inl .refl
  | @tail m' next _ opens ih =>
    rcases ih with away | ⟨outer, c', away, during, mine⟩
    · cases opens with
      | @call c called opened =>
        by_cases mine : c.call.purpose.execution = id
        · exact .inr ⟨m', c, away, ⟨called, next, opened, .refl⟩, mine⟩
        · exact .inl (away.tail (.call called mine opened))
      | question inquires handled => exact .inl (away.tail (.question inquires handled))
    · obtain ⟨called, first, opened, within⟩ := during
      exact .inr ⟨outer, c', away, ⟨called, first, opened, within.tail opens⟩, mine⟩

end Setup

/-! ### A meddled engine -/

/-- One step, whose tool has the first run cancelled. -/
def Definition.meddling : Definition where
  name := "meddling"
  start := "meddle"
  steps := .ofEntries [("meddle", { id := "meddle", tool := "meddle" })]

/-- A step that may be repeated, whose tool starts another run, and a step after it. -/
def Definition.delegating : Definition where
  name := "delegating"
  start := "delegate"
  steps := .ofEntries
    [("delegate",
        { id := "delegate", tool := "delegate", maxRetries := some 2, onFailure := some "work" }),
      ("work", { id := "work", tool := "work" })]
  onError := some "work"

/-- A run of the meddling step is started. -/
def Request.meddle : Request := .start (Definition.meddling.toPipeline "m") .empty

/-- A run of the delegating step is started. -/
def Request.delegate : Request := .start (Definition.delegating.toPipeline "d") .empty

namespace Setup

/-- An engine for short runs, whose tools meddle with them. -/
def meddled : Setup where
  tools :=
    { knows := fun _ => true
      reply := fun _ c =>
        if c.tool = "delegate" then
          .request .meddle fun _ => .done (.ofError (.internal "no luck"))
        else if c.tool = "meddle" then
          .request (.cancel ⟨0⟩) fun _ => .done (.succeeded none)
        else .done (.succeeded none) }
  budget := 20

/-- A step of the first run starts another run, whose step has the first run cancelled. -/
theorem meddled_during : ∃ c e, meddled.During ⟨3, .delegate, {}⟩ c ⟨1, .cancel ⟨0⟩, e⟩ ∧
    c.call.purpose = .attempt ⟨0⟩ "delegate" ∧ (e.record? ⟨0⟩).isSome = true ∧
    (meddled.answering 1 (.cancel ⟨0⟩) e).1 = .verdict true := by
  let p := Definition.delegating.toPipeline "d"
  let q := Definition.meddling.toPipeline "m"
  let made (depth : Nat) (p : Pipeline) (e : Engine) : List (Made Engine) :=
    (meddled.host depth).calls meddled.settings (.drive p meddled.budget (e.newRun p .empty))
      (e.launch p .empty)
  obtain ⟨hook, c, first, attempt, e, opened, c', second, e', opened', registered, granted⟩ :
      ∃ hook c, made 2 p {} = [hook, c] ∧ c.call.purpose = .attempt ⟨0⟩ "delegate" ∧
        ∃ e, meddled.opened 2 c = [⟨2, .meddle, e⟩] ∧
        ∃ c', made 1 q e = [c'] ∧
        ∃ e', meddled.opened 1 c' = [⟨1, .cancel ⟨0⟩, e'⟩] ∧ (e'.record? ⟨0⟩).isSome = true ∧
          (meddled.answering 1 (.cancel ⟨0⟩) e').1 = .verdict true :=
    ⟨_, _, rfl, rfl, _, rfl, _, rfl, _, rfl, rfl, rfl⟩
  have called : c ∈ made 2 p {} := first ▸ List.mem_cons_of_mem _ List.mem_cons_self
  have called' : c' ∈ made 1 q e := second ▸ List.mem_cons_self
  have within : meddled.Opens ⟨2, .meddle, e⟩ ⟨1, .cancel ⟨0⟩, e'⟩ :=
    
    .call (.intro (.start q .empty e) called') (opened' ▸ List.mem_cons_self)
  have during : meddled.During ⟨3, .delegate, {}⟩ c ⟨1, .cancel ⟨0⟩, e'⟩ :=
    ⟨.intro (.start p .empty {}) called, _, opened ▸ List.mem_cons_self, .single within⟩
  exact ⟨c, e', during, attempt, registered, granted⟩

/-- The step of the first run has that run itself cancelled. -/
theorem meddled_opens : ∃ e, meddled.Opens ⟨2, .meddle, {}⟩ ⟨1, .cancel ⟨0⟩, e⟩ ∧
    (meddled.answering 1 (.cancel ⟨0⟩) e).1 = .verdict true := by
  let q := Definition.meddling.toPipeline "m"
  let made : List (Made Engine) := (meddled.host 1).calls meddled.settings
    (.drive q meddled.budget (Engine.newRun {} q .empty)) (Engine.launch {} q .empty)
  obtain ⟨c, only, e, opened, granted⟩ :
      ∃ c, made = [c] ∧ ∃ e, meddled.opened 1 c = [⟨1, .cancel ⟨0⟩, e⟩] ∧
        (meddled.answering 1 (.cancel ⟨0⟩) e).1 = .verdict true := ⟨_, rfl, _, rfl, rfl⟩
  have called : c ∈ made := only ▸ List.mem_cons_self
  exact ⟨e, .call (.intro (.start q .empty {}) called) (opened ▸ List.mem_cons_self), granted⟩

end Setup

end StepFlow
