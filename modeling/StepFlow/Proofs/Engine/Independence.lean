import StepFlow.Proofs.Engine.Custody
import StepFlow.Proofs.Engine.Files

/-!
# Runs of one engine are independent

A request on one run reads and writes the file of this run only, if the tools and the handler are
plain.  So requests on different runs can be made in either order
(`Setup.performs_independently`).

Two facts are load-bearing.  What is done for one run leaves the files of the others alone
(`Setup.file_answering_of_ne`).  And on two engines that concur in a run, a request on it comes to
the same, and they concur in it afterwards (`Setup.agrees_answering`).

The id of a new run and the time are not the engine's own, and every request is made with its
own.  If the same request is made at another time, then the times that it leaves differ, and
nothing else does, as long as no condition reads times.

Both provisos are needed.  A condition that reads times can take a run another way, and a tool can
ask for another run to be changed, although what it answers depends on its name alone
(`Setup.not_forall_performs_independently`).
-/

namespace StepFlow

open Execution Engine

variable {timed : Prop} {id i : ExecutionId}

/-- **A request on one run.**  A run that is started has the id it is given. -/
def Request.Concerns (id : ExecutionId) : Request → Prop
  | .start _ _ => True
  | .respond i _ => i = id
  | .get i => i = id
  | .remove i => i = id
  | .cancel i => i = id
  | .list => False
  | .cleanup => False
  | .malformed _ => False

/-- No pipeline that a request drives reads times. -/
def Request.ReadsNoTimes (e : Engine) : Request → Prop
  | .start p _ => p.ReadsNoTimes
  | .respond id _ => ∀ record, e.record? id = some record → record.pipeline.ReadsNoTimes
  | _ => True

namespace Setup

variable (u : Setup) {e e' : Engine}

/-- **Makes a request on a run**, at a time.  A run that it starts is given the id. -/
def perform (depth : Nat) (id : ExecutionId) (r : Request) (clock : Nat) (e : Engine) :
    Answer × Engine :=
  u.answering depth r (e.given id clock)

/-- Requests that only look change nothing, at any depth of nesting. -/
theorem answering_of_onlyLooks (depth : Nat) {r : Request} (looks : r.OnlyLooks) (e : Engine) :
    (u.answering depth r e).2 = e := by
  cases depth with
  | zero => rfl
  | succ depth =>
    cases r with
    | get | list | malformed => rfl
    | start | respond | remove | cleanup | cancel => exact looks.elim

variable {u}

/-- A response comes to the same. -/
theorem agrees_respond {h : Host Engine} (like : h.Simulates timed id (Concurs timed id) h)
    (r : HumanResponse) (blind : timed ∨ (Request.respond id r).ReadsNoTimes e)
    (related : e.Concurs timed id e') :
    Option.Rel (Execution.Agrees timed) (u.respond h id r e).1 (u.respond h id r e').1 ∧
      (u.respond h id r e).2.Concurs timed id (u.respond h id r e').2 := by
  rcases related.known_cases with ⟨unknown, unknown'⟩ | ⟨record, record', known, known', agree⟩
  · unfold respond
    rw [unknown, unknown']
    exact ⟨.none, related⟩
  · have mine : record.state.id = id := id_of_record? known
    by_cases waiting : record.state.status = .waiting
    · have blind : timed ∨ record.pipeline.ReadsNoTimes :=
        blind.imp_right fun untimed => untimed record known
      have received := like.emit (.humanReceived record.state.current r.approved)
        (related.publish (x := { record.state with status := .running }) mine
          (agree.state.setStatus .running))
      have responded := (agree.state.respond u.settings.failOnUnroutedError blind r
        received.now).touch received.now
      have own (now later : Instant) : ((record.state.respond u.settings.failOnUnroutedError
          record.pipeline r now).touch later).id = id :=
        (Execution.id_respond record.state _ _ _ _).trans mine
      rw [u.respond_of_waiting known waiting,
        u.respond_of_waiting known' (agree.state.status.trans waiting), agree.pipeline,
        agree.state.current]
      obtain ⟨run, states⟩ :=
        like.run u.settings record.pipeline (own _ _) responded received blind u.budget
      exact ⟨.some run, states⟩
    · have awake (e : Engine) {r : Record} (known : e.record? id = some r)
          (status : r.state.status = record.state.status) : ¬ e.Waits id := by
        rintro ⟨_, known', waits⟩
        cases known.symm.trans known'
        exact waiting (status ▸ waits)
      rw [u.respond_of_not_waits r (awake e known rfl),
        u.respond_of_not_waits r (awake e' known' agree.state.status)]
      exact ⟨.none, related⟩

/-- Cancelling comes to the same. -/
theorem agrees_cancel {h : Host Engine} (like : h.Simulates timed id (Concurs timed id) h)
    (related : e.Concurs timed id e') :
    (u.cancel h id e').1 = (u.cancel h id e).1 ∧
      (u.cancel h id e).2.Concurs timed id (u.cancel h id e').2 := by
  rcases related.known_cases with ⟨unknown, unknown'⟩ | ⟨record, record', known, known', agree⟩
  · unfold cancel
    rw [unknown, unknown']
    exact ⟨rfl, related⟩
  · have mine : record.state.id = id := id_of_record? known
    have failed := (agree.state.fail .cancelled).touch related.now
    unfold cancel
    rw [known, known']
    dsimp only
    rw [agree.state.status, agree.pipeline]
    split
    · exact ⟨rfl, related⟩
    · split
      · exact ⟨rfl, like.finish u.settings record.pipeline mine failed
          (related.flag.publish mine failed)⟩
      · exact ⟨rfl, related.flag⟩

section Plain

variable (plain : u.IsPlain)

include plain

/-! ### Other runs -/

/-- **What is done for one run** leaves the files of the others alone. -/
theorem keepsFor_file (depth : Nat) (other : id ≠ i) (f : File) :
    (u.host depth).KeepsFor id fun e => e.Heeds none ∧ e.file i = f := by
  have heeds := (u.keeps_heeds depth none).keepsFor id
  have looks (r : Request) (e : Engine) (looks : r.OnlyLooks) : (u.answering depth r e).2 = e :=
    u.answering_of_onlyLooks depth looks e
  constructor
  case call =>
    intro c timeout e mine before
    refine ⟨heeds.call c timeout e mine before.1, ?_⟩
    obtain ⟨o, ms, called⟩ := call_of_isPlain plain looks c timeout
    obtain ⟨trail, called⟩ := called e before.1
    rw [u.host_eq]
    show (e.call u.tools (u.answering depth) c timeout).2.file i = f
    rw [called]
    exact before.2
  case emit =>
    intro event e before
    refine ⟨heeds.emit event e before.1, ?_⟩
    rw [u.emit_host depth id event (before.1.timely rfl)]
    exact before.2
  case pause =>
    intro ms e before
    refine ⟨heeds.pause ms e before.1, ?_⟩
    rw [u.pause_host depth ms before.1]
    exact before.2
  case publish =>
    intro x e mine before
    refine ⟨heeds.publish x e mine before.1, ?_⟩
    rw [u.publish_host depth x (before.1.timely rfl)]
    exact (file_publish_of_ne (mine ▸ other)).trans before.2
  case ask =>
    intro q e mine before
    refine ⟨heeds.ask q e mine before.1, ?_⟩
    obtain ⟨ms, asked⟩ := ask_of_isPlain plain looks q
    obtain ⟨trail, inbox, asked⟩ := asked e before.1
    rw [u.host_eq, asked]
    exact before.2

/-- **A request on one run** leaves the files of the others alone. -/
theorem file_answering_of_ne (depth : Nat) {r : Request} (concerns : r.Concerns id)
    (given : e.started = id.number) (free : e.Heeds none) (other : id ≠ i) :
    (u.answering depth r e).2.file i = e.file i := by
  cases depth with
  | zero => rfl
  | succ depth =>
    have kept := keepsFor_file plain depth other (e.file i)
    have robust := robust_heeds none
    cases r with
    | start p initial =>
      obtain rfl : id = ⟨e.started⟩ := by rw [given]
      exact (kept.run u.settings p rfl u.budget (kept.emit _ _
        ⟨robust.enlist _ _ _ free, file_enlist_of_ne other⟩)).2
    | respond id' response =>
      cases concerns
      show (u.respond (u.host depth) id response e).2.file i = e.file i
      by_cases waits : e.Waits id
      · obtain ⟨record, known, waiting⟩ := waits
        have mine : record.state.id = id := id_of_record? known
        rw [u.respond_of_waiting known waiting]
        refine (kept.run u.settings record.pipeline ?_ u.budget (kept.emit _ _ ⟨?_, ?_⟩)).2
        · exact (Execution.id_respond _ _ _ _ _).trans mine
        · exact robust.publish _ _ free
        · exact file_publish_of_ne (x := { record.state with status := .running }) (mine ▸ other)
      · rw [u.respond_of_not_waits response waits]
    | cancel id' =>
      cases concerns
      show (u.cancel (u.host depth) id e).2.file i = e.file i
      have flagged : (e.flag id).file i = e.file i := file_flag_of_ne other
      unfold cancel
      split
      · rfl
      · rename_i record known
        have mine : record.state.id = id := id_of_record? known
        split
        · rfl
        · split
          · refine (kept.finish u.settings record.pipeline
              (x := (record.state.fail .cancelled).touch e.now) mine
              ⟨robust.publish _ _ (robust.flag _ _ free), ?_⟩).2
            exact (file_publish_of_ne (x := (record.state.fail .cancelled).touch e.now)
              (mine ▸ other)).trans flagged
          · exact flagged
    | remove id' =>
      cases concerns
      exact file_forget_of_ne other
    | get => rfl
    | list | cleanup | malformed => exact concerns.elim

/-! ### The same run -/

/-- **A call comes to the same** wherever the engine has the same file of a run. -/
theorem concurs_call (depth : Nat) (c : Call) (timeout : UInt64)
    (related : e.Concurs timed id e') :
    ((u.host depth).call c timeout e).1.Agrees timed ((u.host depth).call c timeout e').1 ∧
      ((u.host depth).call c timeout e).2.Concurs timed id
        ((u.host depth).call c timeout e').2 := by
  have heeds := u.keeps_heeds depth none
  have after := heeds.call c timeout e related.free
  have after' := heeds.call c timeout e' related.free'
  obtain ⟨o, ms, called⟩ :=
    call_of_isPlain plain (fun _ e looks => u.answering_of_onlyLooks depth looks e) c timeout
  obtain ⟨trail, first⟩ := called e related.free
  obtain ⟨trail', second⟩ := called e' related.free'
  rw [u.host_eq] at after after' ⊢
  show (e.call u.tools _ c timeout).1.Agrees timed (e'.call u.tools _ c timeout).1 ∧
    (e.call u.tools _ c timeout).2.Concurs timed id (e'.call u.tools _ c timeout).2
  refine ⟨?_, ?_, ?_, after, after'⟩
  · rw [first, second]
    refine ⟨rfl, fun h => ?_⟩
    unfold now
    rw [related.clock h]
  · rw [first, second]
    exact related.file
  · intro h
    rw [first, second]
    exact congrArg (· + ms) (related.clock h)

/-- **Asking a person** takes as long wherever the engine has the same file of a run, if it is asked
at the same time. -/
theorem concurs_ask (depth : Nat) (step prompt : String) {x y : Execution}
    (agrees : x.Agrees timed y) (related : e.Concurs timed id e') :
    ((u.host depth).ask ⟨id, step, prompt, x⟩ e).Concurs timed id
      ((u.host depth).ask ⟨id, step, prompt, y⟩ e') := by
  have heeds := u.keeps_heeds depth none
  have after := heeds.ask ⟨id, step, prompt, x⟩ e related.free
  have after' := heeds.ask ⟨id, step, prompt, y⟩ e' related.free'
  have looks (r : Request) (e : Engine) (looks : r.OnlyLooks) : (u.answering depth r e).2 = e :=
    u.answering_of_onlyLooks depth looks e
  -- what is asked at the same time is the same, and takes as long
  obtain ⟨ms, ms', same, asked, asked'⟩ : ∃ ms ms', (timed → ms' = ms) ∧
      (∀ e : Engine, e.Heeds none → ∃ trail inbox, (u.host depth).ask ⟨id, step, prompt, x⟩ e =
        { e with trail, inbox, clock := e.clock + ms }) ∧
      ∀ e : Engine, e.Heeds none → ∃ trail inbox, (u.host depth).ask ⟨id, step, prompt, y⟩ e =
        { e with trail, inbox, clock := e.clock + ms' } := by
    rw [u.host_eq]
    obtain ⟨ms, asked⟩ := ask_of_isPlain plain looks ⟨id, step, prompt, x⟩
    obtain ⟨ms', asked'⟩ := ask_of_isPlain plain looks ⟨id, step, prompt, y⟩
    by_cases h : timed
    · cases agrees.exact h
      exact ⟨ms, ms, fun _ => rfl, asked, asked⟩
    · exact ⟨ms, ms', fun h' => absurd h' h, asked, asked'⟩
  obtain ⟨trail, inbox, first⟩ := asked e related.free
  obtain ⟨trail', inbox', second⟩ := asked' e' related.free'
  refine ⟨?_, ?_, after, after'⟩
  · rw [first, second]
    exact related.file
  · intro h
    rw [first, second, same h]
    exact congrArg (· + ms) (related.clock h)

/-- **An engine serves a run alike** wherever it has the same file of it. -/
theorem simulates_host (depth : Nat) :
    (u.host depth).Simulates timed id (Concurs timed id) (u.host depth) := by
  have heeds := u.keeps_heeds depth none
  constructor
  case now =>
    intro e e' related h
    rw [u.host_eq]
    exact congrArg Instant.ofMilliseconds (related.clock h)
  case isCancelled =>
    intro e e' related
    rw [u.host_eq]
    exact related.file.flagged
  case call => exact fun c timeout _ _ _ related => concurs_call plain depth c timeout related
  case emit =>
    intro event e e' related
    refine ⟨?_, ?_, heeds.emit _ _ _ related.free, heeds.emit _ _ _ related.free'⟩
    · rw [u.emit_host depth id event (related.free.timely rfl),
        u.emit_host depth id event (related.free'.timely rfl)]
      exact related.file
    · rw [u.emit_host depth id event (related.free.timely rfl),
        u.emit_host depth id event (related.free'.timely rfl)]
      exact related.clock
  case pause =>
    intro ms e e' related
    refine ⟨?_, ?_, heeds.pause _ _ related.free, heeds.pause _ _ related.free'⟩
    · rw [u.pause_host depth ms related.free, u.pause_host depth ms related.free']
      exact related.file
    · rw [u.pause_host depth ms related.free, u.pause_host depth ms related.free']
      exact fun h => congrArg (· + ms.toNat) (related.clock h)
  case publish =>
    intro x y e e' mine agrees related
    rw [u.publish_host depth x (related.free.timely rfl),
      u.publish_host depth y (related.free'.timely rfl)]
    exact related.publish mine agrees
  case ask => exact fun step prompt _ _ _ _ _ => concurs_ask plain depth step prompt

/-- **A request on one run** comes to the same wherever the engine has the same file of it, and
leaves the same file. -/
theorem agrees_answering (depth : Nat) {r : Request} (concerns : r.Concerns id)
    (given : e.started = id.number) (given' : e'.started = id.number)
    (blind : timed ∨ r.ReadsNoTimes e) (related : e.Concurs timed id e') :
    (u.answering depth r e).1.Agrees timed (u.answering depth r e').1 ∧
      (u.answering depth r e).2.Concurs timed id (u.answering depth r e').2 := by
  cases depth with
  | zero => exact ⟨.refl _, related⟩
  | succ depth =>
    have like : (u.host depth).Simulates timed id (Concurs timed id) (u.host depth) :=
      simulates_host plain depth
    cases r with
    | start p initial =>
      have agrees := Agrees.fresh p initial ⟨id.number⟩ related.now
      show Answer.Agrees timed (.state (some (u.start _ p initial e).1))
          (.state (some (u.start _ p initial e').1)) ∧
        (u.start _ p initial e).2.Concurs timed id (u.start _ p initial e').2
      unfold start
      rw [given, given']
      obtain ⟨run, states⟩ := like.run u.settings p rfl agrees
        (like.emit (.started p.id p.name) (related.enlist p agrees)) blind u.budget
      exact ⟨.state (.some run), states⟩
    | respond id' response =>
      cases concerns
      obtain ⟨told, after⟩ := agrees_respond like response blind related
      exact ⟨.state told, after⟩
    | cancel id' =>
      cases concerns
      obtain ⟨told, after⟩ := agrees_cancel like related
      refine ⟨?_, after⟩
      show Answer.Agrees timed (.verdict (u.cancel _ id e).1) (.verdict (u.cancel _ id e').1)
      rw [told]
      exact .refl _
    | remove id' =>
      cases concerns
      exact ⟨.state related.state, related.forget⟩
    | get id' =>
      cases concerns
      exact ⟨.state related.state, related⟩
    | list | cleanup | malformed => exact concerns.elim

/-! ### Either order -/

omit plain in
/-- What is done for other runs does not change which pipeline a request drives. -/
theorem readsNoTimes_of_file_eq {r : Request} (concerns : r.Concerns id)
    (same : e'.file id = e.file id) (untimed : r.ReadsNoTimes e) : r.ReadsNoTimes e' := by
  cases r with
  | start p initial => exact untimed
  | respond id' response =>
    cases concerns
    intro record known
    have found : e'.record? id = e.record? id := congrArg File.record same
    exact untimed record (found ▸ known)
  | get | list | remove | cleanup | cancel | malformed => trivial

/-- **A request on one run comes to the same** wherever the engine has the same file of it. -/
theorem agrees_perform (depth : Nat) {r : Request} (concerns : r.Concerns id)
    (same : e'.file id = e.file id) {a a' : Nat} (times : timed → a' = a)
    (blind : timed ∨ r.ReadsNoTimes e) :
    (u.perform depth id r a e).1.Agrees timed (u.perform depth id r a' e').1 ∧
      ((u.perform depth id r a e).2.file id).Agrees timed
        ((u.perform depth id r a' e').2.file id) := by
  have related : (e.given id a).Concurs timed id (e'.given id a') := by
    refine ⟨?_, times, ⟨rfl, fun _ => rfl⟩, ⟨rfl, fun _ => rfl⟩⟩
    show (e.file id).Agrees timed (e'.file id)
    rw [same]
    exact .refl _
  have driven : timed ∨ r.ReadsNoTimes (e.given id a) :=
    blind.imp_right (readsNoTimes_of_file_eq concerns rfl)
  obtain ⟨told, after⟩ := agrees_answering plain depth concerns rfl rfl driven related
  exact ⟨told, after.file⟩

/-- A request on one run leaves the files of the others alone. -/
theorem file_perform_of_ne (depth : Nat) {r : Request} (concerns : r.Concerns id) (clock : Nat)
    (e : Engine) (other : i ≠ id) : (u.perform depth id r clock e).2.file i = e.file i :=
  file_answering_of_ne plain depth concerns (e := e.given id clock) rfl ⟨rfl, fun _ => rfl⟩
    other.symm

/-- Requests on different runs agree in either order. -/
theorem agrees_perform_perform (different : id ≠ i) {r s : Request} (concerns : r.Concerns id)
    (concerns' : s.Concerns i) (depth : Nat) (e : Engine) {a a' b b' : Nat}
    (times : timed → a' = a ∧ b' = b) (blind : timed ∨ r.ReadsNoTimes e ∧ s.ReadsNoTimes e) :
    let first := u.perform depth id r a e
    let second := u.perform depth i s b first.2
    let first' := u.perform depth i s b' e
    let second' := u.perform depth id r a' first'.2
    first.1.Agrees timed second'.1 ∧ second.1.Agrees timed first'.1 ∧
      ∀ j, (second.2.file j).Agrees timed (second'.2.file j) := by
  intro first second first' second'
  -- each request finds the file of its run as it was before the other one
  have aside : first'.2.file id = e.file id :=
    file_perform_of_ne plain depth concerns' b' e different
  have aside' : first.2.file i = e.file i :=
    file_perform_of_ne plain depth concerns a e different.symm
  obtain ⟨told, files⟩ := agrees_perform plain depth concerns aside (fun h => (times h).1)
    (blind.imp_right And.left)
  obtain ⟨told', files'⟩ := agrees_perform plain depth concerns' aside'.symm
    (fun h => (times h).2)
    (blind.imp_right fun untimed => readsNoTimes_of_file_eq concerns' aside' untimed.2)
  refine ⟨told, told', fun j => ?_⟩
  by_cases mine : j = id
  · subst mine
    have kept : second.2.file j = first.2.file j :=
      file_perform_of_ne plain depth concerns' b first.2 different
    rw [kept]
    exact files
  · have kept : second'.2.file j = first'.2.file j :=
      file_perform_of_ne plain depth concerns a' first'.2 mine
    rw [kept]
    by_cases theirs : j = i
    · subst theirs
      exact files'
    · have before : second.2.file j = e.file j :=
        (file_perform_of_ne plain depth concerns' b first.2 theirs).trans
          (file_perform_of_ne plain depth concerns a e mine)
      have before' : first'.2.file j = e.file j :=
        file_perform_of_ne plain depth concerns' b' e theirs
      rw [before, before']
      exact .refl _

/-- **Requests on different runs are independent**, whatever the engine keeps and at whatever
times they are made.  Let a request on the run `id` be made before a request on the run `i`, and
after it.

* If each of them is made at the same time in either order, then they come to the same answers,
  and the engine ends with the same file of every run.
* If they are made at other times, then answers and files are the same apart from times, as long
  as no condition of the pipelines that are driven reads times.
* Each of them leaves the file of every other run as it was. -/
theorem performs_independently (different : id ≠ i) {r s : Request} (concerns : r.Concerns id)
    (concerns' : s.Concerns i) (depth : Nat) (e : Engine) (a b a' b' : Nat) :
    let first := u.perform depth id r a e
    let second := u.perform depth i s b first.2
    let first' := u.perform depth i s b' e
    let second' := u.perform depth id r a' first'.2
    (a' = a → b' = b →
        second'.1 = first.1 ∧ first'.1 = second.1 ∧ ∀ j, second'.2.file j = second.2.file j) ∧
      (r.ReadsNoTimes e → s.ReadsNoTimes e →
        first.1.Agrees False second'.1 ∧ second.1.Agrees False first'.1 ∧
          ∀ j, (second.2.file j).Agrees False (second'.2.file j)) ∧
      (∀ j, j ≠ id → first.2.file j = e.file j) ∧ ∀ j, j ≠ i → first'.2.file j = e.file j := by
  intro first second first' second'
  refine ⟨fun sameA sameB => ?_, fun untimed untimed' => ?_, fun j other => ?_, fun j other => ?_⟩
  · obtain ⟨told, told', files⟩ := agrees_perform_perform plain different concerns concerns' depth e
      (a := a) (b := b) (fun _ => ⟨sameA, sameB⟩) (.inl trivial)
    exact ⟨told.eq, told'.eq, fun j => (files j).eq⟩
  · exact agrees_perform_perform plain different concerns concerns' depth e False.elim
      (.inr ⟨untimed, untimed'⟩)
  · exact file_perform_of_ne plain depth concerns a e other
  · exact file_perform_of_ne plain depth concerns' b' e other

end Plain

/-- Tools that answer with their own name, after a while. -/
def echoing : Setup where
  tools :=
    { knows := fun _ => true
      reply := fun _ c => .wait 5 (.done (.succeeded (some (.str c.tool)))) }
  budget := 10

/-- An engine that keeps one run, which waits at its gate. -/
def echoed : Engine :=
  (echoing.perform 1 ⟨0⟩ (.start (Definition.reviewed.toPipeline "p") .empty) 0 {}).2

/-- A run that waits is responded to, and another one is started, in either order: at the same
times, and one after the other. -/
theorem performs_independently_echoing :
    let r := Request.respond ⟨0⟩ .approve
    let s := Request.start (Definition.reviewed.toPipeline "p") .empty
    let first := echoing.perform 1 ⟨0⟩ r 7 echoed
    let second := echoing.perform 1 ⟨1⟩ s 9 first.2
    let first' := echoing.perform 1 ⟨1⟩ s 9 echoed
    let second' := echoing.perform 1 ⟨0⟩ r 7 first'.2
    let after := echoing.perform 1 ⟨1⟩ s first.2.clock first.2
    let after' := echoing.perform 1 ⟨0⟩ r first'.2.clock first'.2
    echoed.Waits ⟨0⟩ ∧
      (second'.1 = first.1 ∧ first'.1 = second.1 ∧ ∀ j, second'.2.file j = second.2.file j) ∧
      (first.1.Agrees False after'.1 ∧ after.1.Agrees False first'.1 ∧
        ∀ j, (after.2.file j).Agrees False (after'.2.file j)) ∧
      (∀ j, j ≠ ⟨0⟩ → first.2.file j = echoed.file j) ∧
        ∀ j, j ≠ ⟨1⟩ → first'.2.file j = echoed.file j := by
  intro r s first second first' second' after after'
  have plain : echoing.IsPlain :=
    ⟨fun c => ⟨_, _, fun _ => .wait .done⟩, fun _ => ⟨_, fun _ => .done⟩⟩
  have different : (⟨0⟩ : ExecutionId) ≠ ⟨1⟩ := by decide
  have untimed := Definition.readsNoTimes_reviewed "p"
  obtain ⟨same, -, alone, alone'⟩ :=
    performs_independently plain different (r := r) (s := s) rfl trivial 1 echoed 7 9 7 9
  obtain ⟨-, agree, -⟩ :=
    performs_independently plain different (r := r) (s := s) rfl trivial 1 echoed 7 first.2.clock
      first'.2.clock 9
  refine ⟨⟨_, rfl, rfl⟩, same rfl rfl, agree ?_ untimed, alone, alone'⟩
  intro record known
  have driven : (echoed.record? ⟨0⟩).map (·.pipeline) =
      some (Definition.reviewed.toPipeline "p") := rfl
  rw [known] at driven
  have same : record.pipeline = Definition.reviewed.toPipeline "p" := Option.some.inj driven
  rw [same]
  exact untimed

end Setup

/-- A step, a gate, and a step that is taken if no time passes in between. -/
def Definition.punctual : Definition where
  name := "punctual"
  start := "work"
  steps := .ofEntries
    [("work", { id := "work", tool := "work", next.default := some "review" }),
      ("review",
        { id := "review", tool := "", waitsForHuman := true,
          next.branches :=
            [⟨none, "results.work.metrics.endTime == results.review.metrics.startTime", "late"⟩] }),
      ("late", { id := "late", tool := "work" })]

/-- The path of the run whose state is the answer. -/
def Answer.path? : Answer → Option (List String)
  | .state x => x.map (·.path)
  | _ => none

/-- Answers that agree tell of the same path. -/
theorem Answer.Agrees.path?_eq {a a' : Answer} (agrees : a.Agrees timed a') :
    a'.path? = a.path? := by
  cases agrees with
  | refl => rfl
  | state agree =>
    cases agree with
    | none => rfl
    | some agree => exact congrArg some agree.butTimes.path

namespace Setup

/-- Tools that have the second run cancelled, whatever they are called for. -/
def sweeping : Setup where
  tools :=
    { knows := fun _ => true
      reply := fun _ _ => .request (.cancel ⟨1⟩) fun _ => .done (.succeeded none) }
  budget := 10

/-- **Requests on different runs are not independent in general.**

* Where tools are plain, the answer to a request still depends on whether another was made
  before it, although each is made as soon as the one before it is answered: a condition can
  read times.
* Where all that a tool does depends on its name alone, a request on one run can still change
  another: the tool can ask for that. -/
theorem not_forall_performs_independently :
    (¬ ∀ (u : Setup) (id i : ExecutionId) (r s : Request) (depth : Nat) (e : Engine), u.IsPlain →
      id ≠ i → r.Concerns id → s.Concerns i →
        let other := (u.perform depth i s e.clock e).2
        (u.perform depth id r e.clock e).1.Agrees False
          (u.perform depth id r other.clock other).1) ∧
    ¬ ∀ (u : Setup) (id j : ExecutionId) (r : Request) (depth : Nat) (e : Engine),
      (∀ calls calls' c c', c.tool = c'.tool → u.tools.reply calls c = u.tools.reply calls' c') →
      r.Concerns id → j ≠ id → (u.perform depth id r e.clock e).2.file j = e.file j := by
  constructor
  · intro all
    let s := Request.start (Definition.punctual.toPipeline "p") .empty
    let e := (echoing.perform 1 ⟨0⟩ s 0 {}).2
    have plain : echoing.IsPlain :=
      ⟨fun c => ⟨_, _, fun _ => .wait .done⟩, fun _ => ⟨_, fun _ => .done⟩⟩
    have agrees := all echoing ⟨0⟩ ⟨1⟩ (.respond ⟨0⟩ .approve) s 1 e plain (by decide) rfl trivial
    have paths := agrees.path?_eq
    have soon : (echoing.perform 1 ⟨0⟩ (.respond ⟨0⟩ .approve) e.clock e).1.path? =
        some ["work", "review", "late"] := by decide +kernel
    have late : (echoing.perform 1 ⟨0⟩ (.respond ⟨0⟩ .approve)
        (echoing.perform 1 ⟨1⟩ s e.clock e).2.clock (echoing.perform 1 ⟨1⟩ s e.clock e).2).1.path? =
        some ["work", "review"] := by decide +kernel
    rw [soon, late] at paths
    cases paths
  · intro all
    let e := (sweeping.perform 1 ⟨1⟩ .begin 0 (sweeping.perform 1 ⟨0⟩ .begin 0 {}).2).2
    have same := all sweeping ⟨0⟩ ⟨1⟩ .approve 2 e (fun _ _ _ _ _ => rfl) rfl (by decide)
    have before : (e.file ⟨1⟩).record.map (·.state.status) = some .waiting := by decide +kernel
    have after : ((sweeping.perform 2 ⟨0⟩ .approve e.clock e).2.file ⟨1⟩).record.map
        (·.state.status) = some .failed := by decide +kernel
    rw [same, before] at after
    cases after

end Setup

end StepFlow
