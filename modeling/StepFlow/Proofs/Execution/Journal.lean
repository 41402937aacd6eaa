import StepFlow.Proofs.Execution.Turns

/-!
# Where the global state of a run comes from

The global state is seeded when a run begins.  After that there are two kinds of write and no
others (`Execution.Write`): a person changes entries with a response, approved or not, and the
data of a success is shown under one key.  So the global state is what a replay of these writes
makes of the seed (`Life.globalState_eq_replay`).

A life tells the turns of a run, but not what they recorded.  A **journal** is a life that is kept
with it (`Journal`): to each turn belongs the result that was recorded by it, if any, which is the
last result of the attempts at the current step (`Host.recorded`) or the input of an approval
(`Execution.recordedBy`).  Every life has a journal (`life_iff_exists_journal`).

What is load-bearing is that a turn books what it records and nothing else (`Notes.books`).
Failures, the bookkeeping of loops and moves are all changes of other fields, and where they come
before or after the record does not matter.
-/

namespace StepFlow

/-! ### What is recorded -/

/-- **A result that is recorded**, with the id of its step. -/
structure Recorded where
  step : String
  result : ToolResult

namespace Host

variable {σ : Type} (h : Host σ) (settings : Settings)

/-- What is recorded of a step that is entered: nothing of a gate, and otherwise the last result of
its attempts. -/
def recordedOn (step : Step) (x : Execution) (s : σ) : Option Recorded :=
  if step.waitsForHuman then none else some ⟨step.id, (h.attempts settings step x s).1.result⟩

/-- **What an advance records**, if it enters the current step. -/
def recorded (p : Pipeline) (x : Execution) (s : σ) : Option Recorded :=
  match p.step? x.current with
  | none => none
  | some step =>
    match step.loop with
    | none => h.recordedOn settings step x s
    | some l =>
      match x.decideLoop step.id l with
      | .ok (true, y) =>
        h.recordedOn settings step y
          (h.emit x.id (.loopIteration step.id (y.iterationsOf step.id)) s)
      | _ => none

end Host

namespace Execution

/-- **What a response records**: the input of an approval, as a success of the current step. -/
def recordedBy (x : Execution) (p : Pipeline) (r : HumanResponse) (now : Instant) :
    Option Recorded :=
  if r.approved then
    (p.step? x.current).map fun s => ⟨s.id, ⟨.succeeded r.input, .instantaneous now⟩⟩
  else none

/-- The run with a result that was recorded. -/
def booked (x : Execution) : Option Recorded → Execution
  | none => x
  | some o => x.record o.step o.result

/-- **A run has booked what was recorded**, and nothing else. -/
structure Books (x : Execution) (o : Option Recorded) (y : Execution) : Prop where
  results : y.results = (x.booked o).results
  globalState : y.globalState = (x.booked o).globalState

variable {x y z u : Execution} {s : Step} {o : Option Recorded}

theorem Books.refl (x : Execution) (o : Option Recorded) : Books x o (x.booked o) := ⟨rfl, rfl⟩

/-- What leaves the books alone may come before. -/
theorem Books.after (first : Books x none y) (later : Books y o z) : Books x o z := by
  have results : y.results = x.results := first.results
  have globalState : y.globalState = x.globalState := first.globalState
  cases o with
  | none => exact ⟨later.results.trans results, later.globalState.trans globalState⟩
  | some o =>
    refine ⟨later.results.trans ?_, later.globalState.trans ?_⟩
    · show y.results.insert _ _ = x.results.insert _ _
      rw [results]
    · show (y.record _ _).globalState = (x.record _ _).globalState
      unfold record
      rw [globalState]

/-- What leaves the books alone may come after. -/
theorem Books.before (first : Books x o y) (later : Books y none z) : Books x o z :=
  ⟨later.results.trans first.results, later.globalState.trans first.globalState⟩

/-- A loop that decides leaves the books alone. -/
theorem Decides.books {step : String} {l : Loop} {b : Bool} (h : Decides x step l b y) :
    Books x none y := by
  cases h <;> exact ⟨rfl, rfl⟩

theorem Enters.books (h : Enters x s y) : Books x none y := by
  cases h with
  | straight => exact .refl x none
  | again _ decided => exact (decides_decideLoop decided).books

/-- So does a transition. -/
theorem Transitions.books {next : Option String} (h : Transitions x s next y) :
    Books x none y := by
  cases h <;> exact ⟨rfl, rfl⟩

/-- **What a step comes to is booked**, whichever way the run goes. -/
theorem Concludes.books {strict : Bool} {r : ToolResult} (h : Concludes x strict s r y) :
    Books x (some ⟨s.id, r⟩) y := by
  cases h with
  | undecided => exact ⟨rfl, rfl⟩
  | unrouted => exact ⟨rfl, rfl⟩
  | routed => exact (Books.refl x (some ⟨s.id, r⟩)).before (transitions_transition _ s _).books

/-- **A response is booked** in the run that it resumes. -/
theorem books_respond (x : Execution) (strict : Bool) (p : Pipeline) (r : HumanResponse)
    (now : Instant) : Books (x.resume r) (x.recordedBy p r now) (x.respond strict p r now) := by
  unfold recordedBy
  cases approved : r.approved with
  | false =>
    rw [respond_of_not_approved approved, if_neg Bool.false_ne_true]
    exact ⟨rfl, rfl⟩
  | true =>
    rw [if_pos rfl]
    cases hs : p.step? x.current with
    | some s =>
      rw [respond_of_approved hs approved]
      exact (concludes_conclude _ strict s _).books
    | none =>
      rw [respond_of_undeclared hs approved]
      exact ⟨rfl, rfl⟩

end Execution

open Execution

namespace Host

variable {σ : Type} (h : Host σ) (settings : Settings)

theorem books_enter (step : Step) (x : Execution) (s : σ) :
    Books x (h.recordedOn settings step x s) (h.enter settings step x s).1 := by
  unfold enter recordedOn
  split
  · exact ⟨rfl, rfl⟩
  · rw [perform_eq, handle]
    split
    · exact ⟨rfl, rfl⟩
    · exact (concludes_conclude x settings.failOnUnroutedError step _).books

/-- **An advance books what it records**, and nothing else. -/
theorem books_advance (p : Pipeline) (x : Execution) (s : σ) :
    Books x (h.recorded settings p x s) (h.advance settings p x s).1 := by
  unfold advance recorded
  cases hs : p.step? x.current with
  | none => exact ⟨rfl, rfl⟩
  | some step =>
    cases hl : step.loop with
    | none =>
      simp only [hl]
      exact h.books_enter settings step x s
    | some l =>
      cases decided : x.decideLoop step.id l with
      | error f =>
        simp only [hl, decided]
        exact ⟨rfl, rfl⟩
      | ok outcome =>
        obtain ⟨b, y⟩ := outcome
        have before := (decides_decideLoop decided).books
        simp only [hl, decided]
        cases b with
        | true => exact before.after (h.books_enter settings step y _)
        | false =>
          have reset : Books y none (y.resetLoop step.id) := ⟨rfl, rfl⟩
          exact before.after (reset.before (transitions_transition _ step _).books)

/-- A run that is not running stays as it is, whatever is called when it is settled. -/
theorem run_of_not_running {p : Pipeline} {x : Execution} (halted : x.status ≠ .running)
    (budget : Nat) (s : σ) : (h.run settings p budget x s).1 = x := by
  cases budget with
  | zero => rfl
  | succ budget => rw [h.run_of_halted settings p halted]

end Host

/-! ### Journals -/

/-- **A turn, and what it recorded.** -/
structure Booking where
  turn : Turn
  recorded : Option Recorded

/-- **What a turn does**, after the turns of the `past`, and what it records. -/
inductive Notes (settings : Settings) (p : Pipeline) (past : List Turn) :
    Booking → Execution → Execution → Prop
  | advance {σ : Type} (h : Host σ) (s : σ) (now : Instant) {x : Execution}
      (running : x.status = .running)
      (flag : ∀ t, h.isCancelled x.id t = true → Turn.cancel ∈ past) :
      Notes settings p past ⟨.advance, h.recorded settings p x s⟩ x
        ((h.advance settings p x s).1.touch now)
  | stop (now : Instant) {x : Execution} (running : x.status = .running)
      (asked : Turn.cancel ∈ past) :
      Notes settings p past ⟨.stop, none⟩ x ((x.fail .cancelled).touch now)
  | response (r : HumanResponse) (start stop : Instant) {x : Execution}
      (waiting : x.status = .waiting) :
      Notes settings p past ⟨.response r, x.recordedBy p r start⟩ x
        ((x.respond settings.failOnUnroutedError p r start).touch stop)
  | cancelWaiting (now : Instant) {x : Execution} (waiting : x.status = .waiting) :
      Notes settings p past ⟨.cancel, none⟩ x ((x.fail .cancelled).touch now)
  | cancelRunning {x : Execution} (running : x.status = .running) :
      Notes settings p past ⟨.cancel, none⟩ x x

/-- **The journal of a run** that began with the initial state `initial`, the latest turn
first. -/
inductive Journal (settings : Settings) (p : Pipeline) (initial : Table Value) :
    List Booking → Execution → Prop
  | fresh (id : ExecutionId) (now : Instant) :
      Journal settings p initial [] (.fresh p initial id now)
  | turn {past : List Booking} {b : Booking} {x y : Execution}
      (journal : Journal settings p initial past x)
      (h : Notes settings p (past.map Booking.turn) b x y) :
      Journal settings p initial (b :: past) y

section Journal

variable {settings : Settings} {p : Pipeline} {past : List Turn} {t : Turn} {b : Booking}
  {bs : List Booking} {initial : Table Value} {x y : Execution}

theorem Notes.takes (h : Notes settings p past b x y) : Takes settings p past b.turn x y := by
  cases h with
  | advance h s now running flag => exact .advance h s now running flag
  | stop now running asked => exact .stop now running asked
  | response r start stop waiting => exact .response r start stop waiting
  | cancelWaiting now waiting => exact .cancelWaiting now waiting
  | cancelRunning running => exact .cancelRunning running

/-- Every turn records something, or nothing. -/
theorem Takes.exists_notes (h : Takes settings p past t x y) :
    ∃ o, Notes settings p past ⟨t, o⟩ x y := by
  cases h with
  | advance h s now running flag => exact ⟨_, .advance h s now running flag⟩
  | stop now running asked => exact ⟨_, .stop now running asked⟩
  | response r start stop waiting => exact ⟨_, .response r start stop waiting⟩
  | cancelWaiting now waiting => exact ⟨_, .cancelWaiting now waiting⟩
  | cancelRunning running => exact ⟨_, .cancelRunning running⟩

/-- **The lives of runs are those that journals tell.** -/
theorem life_iff_exists_journal : Life settings p past x ↔
    ∃ initial bs, Journal settings p initial bs x ∧ bs.map Booking.turn = past := by
  constructor
  · intro life
    induction life with
    | fresh initial id now => exact ⟨initial, [], .fresh id now, rfl⟩
    | turn _ h ih =>
      obtain ⟨initial, bs, journal, rfl⟩ := ih
      obtain ⟨o, noted⟩ := h.exists_notes
      exact ⟨initial, ⟨_, o⟩ :: bs, journal.turn noted, rfl⟩
  · rintro ⟨initial, bs, journal, rfl⟩
    induction journal with
    | fresh id now => exact .fresh initial id now
    | turn _ h ih => exact ih.turn h.takes

/-- **Driving a run extends its journal.** -/
theorem Journal.run {σ : Type} (journal : Journal settings p initial bs x) (h : Host σ)
    (budget : Nat) (s : σ) :
    ∃ later, Journal settings p initial (later ++ bs) (h.run settings p budget x s).1 := by
  -- on the budget; somebody may have asked to cancel the run, so the host may raise its flag
  induction budget generalizing x s bs with
  | zero => exact ⟨[], journal⟩
  | succ budget ih =>
    by_cases running : x.status = .running
    · have asked := journal.turn (.cancelRunning running)
      cases seen : h.isCancelled x.id s with
      | true =>
        have stopped := asked.turn (.stop (h.now s) running List.mem_cons_self)
        rw [h.run_of_isCancelled settings p running seen]
        exact ⟨[⟨.stop, none⟩, ⟨.cancel, none⟩], stopped⟩
      | false =>
        have next := asked.turn (.advance h s (h.now (h.advance settings p x s).2) running
          fun _ _ => List.mem_cons_self)
        rw [h.run_of_running settings p running seen]
        obtain ⟨later, driven⟩ := ih next _
        refine ⟨later ++ [⟨.advance, h.recorded settings p x s⟩, ⟨.cancel, none⟩], ?_⟩
        rw [List.append_assoc]
        exact driven
    · rw [h.run_of_not_running settings running]
      exact ⟨[], journal⟩

end Journal

/-! ### Writes -/

/-- **A write to the global state.** -/
inductive Execution.Write where
  /-- A response changes entries. -/
  | changes (entries : Table Value)
  /-- The data of a success is shown. -/
  | lastResult (data : Value)

/-- What a write makes of the global state. -/
def Execution.Write.on (g : Table Value) : Write → Table Value
  | changes entries => g.overlay entries
  | lastResult data => g.insert lastResultKey data

/-- **What writes make of the global state**, one after another. -/
def Execution.replay (g : Table Value) (ws : List Write) : Table Value := ws.foldl Write.on g

/-- The changes that a turn brings: those of a response, whether it approves or not. -/
def Turn.changes : Turn → Option (Table Value)
  | response r => r.modifications
  | _ => none

/-- **The run as a turn takes it up**: a response resumes it, with what the response brings. -/
def Turn.resumed : Turn → Execution → Execution
  | response r, x => x.resume r
  | _, x => x

/-- What a response brings are no results. -/
theorem Turn.results_resumed (t : Turn) (x : Execution) : (t.resumed x).results = x.results := by
  cases t <;> rfl

/-- The data that a result shows: a success shows what it has, a failure nothing. -/
def ToolResult.shown? (r : ToolResult) : Option Value := if r.success then r.data else none

/-- **The writes of a turn**: its changes first, then the data that was recorded. -/
def Booking.writes (b : Booking) : List Write :=
  (b.turn.changes.map Write.changes).toList ++
    ((b.recorded.bind fun o => o.result.shown?).map Write.lastResult).toList

/-- **The writes of a run**, the earliest first. -/
def Booking.allWrites (bs : List Booking) : List Write := bs.reverse.flatMap Booking.writes

/-- **What a run recorded**, the earliest first. -/
def Booking.allRecorded (bs : List Booking) : List Recorded := bs.reverse.filterMap Booking.recorded

/-- The table of results that were recorded: the last one of each step. -/
def Recorded.table (os : List Recorded) : Table ToolResult :=
  os.foldl (fun results o => results.insert o.step o.result) .empty

namespace Execution

theorem replay_append (g : Table Value) (ws ws' : List Write) :
    replay g (ws ++ ws') = replay (replay g ws) ws' := List.foldl_append

/-- Writes that spare a key leave what is under it. -/
theorem get?_replay {key : String} {ws : List Write} (other : key ≠ lastResultKey)
    (spared : ∀ entries, .changes entries ∈ ws → entries.get? key = none) (g : Table Value) :
    (replay g ws).get? key = g.get? key := by
  induction ws generalizing g with
  | nil => rfl
  | cons w ws ih =>
    have first : (w.on g).get? key = g.get? key := by
      cases w with
      | changes entries =>
        rw [Write.on, Table.get?_overlay, spared entries List.mem_cons_self, Option.none_or]
      | lastResult data => exact Table.get?_insert_of_ne g other.symm data
    have later := ih (fun entries listed => spared entries (List.mem_cons_of_mem _ listed)) (w.on g)
    exact later.trans first

/-- What is recorded is replayed. -/
theorem globalState_booked (x : Execution) (o : Option Recorded) :
    (x.booked o).globalState =
      replay x.globalState ((o.bind fun o => o.result.shown?).map Write.lastResult).toList := by
  cases o with
  | none => rfl
  | some o =>
    show (x.record o.step o.result).globalState = _
    rw [record, Option.bind_some, ToolResult.shown?]
    cases o.result.success with
    | false => rfl
    | true => cases o.result.data <;> rfl

/-- What a turn brings is replayed. -/
theorem globalState_resumed (x : Execution) (t : Turn) :
    (t.resumed x).globalState = replay x.globalState (t.changes.map Write.changes).toList := by
  cases t with
  | response r =>
    cases modified : r.modifications <;>
      simp only [Turn.resumed, Turn.changes, resume, merge, modified] <;> rfl
  | _ => rfl

end Execution

section Replay

variable {settings : Settings} {p : Pipeline} {past : List Turn} {b : Booking}
  {bs : List Booking} {initial : Table Value} {x y : Execution}

/-- **A turn books what it records**, in the run as it takes it up. -/
theorem Notes.books (h : Notes settings p past b x y) :
    Books (b.turn.resumed x) b.recorded y := by
  cases h with
  | advance h s now =>
    have booked := h.books_advance settings p x s
    exact ⟨booked.results, booked.globalState⟩
  | stop => exact ⟨rfl, rfl⟩
  | response r start stop =>
    have booked := x.books_respond settings.failOnUnroutedError p r start
    exact ⟨booked.results, booked.globalState⟩
  | cancelWaiting => exact ⟨rfl, rfl⟩
  | cancelRunning => exact ⟨rfl, rfl⟩

/-- **A turn changes the global state by its writes.** -/
theorem Notes.globalState_eq (h : Notes settings p past b x y) :
    y.globalState = replay x.globalState b.writes := by
  rw [h.books.globalState, globalState_booked, Booking.writes, replay_append,
    globalState_resumed]

/-- A turn that brings no changes and shows no data leaves the global state as it is. -/
theorem Notes.globalState_eq_self (h : Notes settings p past b x y)
    (unchanged : b.turn.changes = none)
    (hidden : ∀ o, b.recorded = some o → o.result.shown? = none) :
    y.globalState = x.globalState := by
  have silent : b.writes = [] := by
    have shown : (b.recorded.bind fun o => o.result.shown?) = none :=
      Option.bind_eq_none_iff.mpr hidden
    rw [Booking.writes, unchanged, shown]
    rfl
  rw [h.globalState_eq, silent]
  rfl

theorem Booking.allRecorded_cons (b : Booking) (bs : List Booking) :
    allRecorded (b :: bs) = allRecorded bs ++ b.recorded.toList := by
  unfold allRecorded
  rw [List.reverse_cons, List.filterMap_append]
  cases recorded : b.recorded <;> simp [recorded]

/-- **The results of a run are those it recorded.** -/
theorem Journal.results_eq (journal : Journal settings p initial bs x) :
    x.results = Recorded.table (Booking.allRecorded bs) := by
  induction journal with
  | fresh => rfl
  | @turn bs b x y _ h ih =>
    have before : (b.turn.resumed x).results = Recorded.table (Booking.allRecorded bs) :=
      (b.turn.results_resumed x).trans ih
    rw [h.books.results, Booking.allRecorded_cons]
    cases b.recorded with
    | none => exact before.trans (congrArg Recorded.table (List.append_nil _).symm)
    | some o =>
      show (b.turn.resumed x).results.insert o.step o.result = _
      rw [before, Option.toList_some]
      unfold Recorded.table
      rw [List.foldl_concat]

/-- **A run has replayed its writes.** -/
theorem Journal.globalState_eq (journal : Journal settings p initial bs x) :
    x.globalState = replay (p.globalState.overlay initial) (Booking.allWrites bs) := by
  induction journal with
  | fresh => rfl
  | turn _ h ih =>
    rw [h.globalState_eq, ih, ← replay_append]
    congr 1
    simp [Booking.allWrites]

/-- What stands in the writes of a run as changes came with one of the turns. -/
theorem Booking.exists_turn_of_changes {entries : Table Value}
    (written : .changes entries ∈ allWrites bs) : ∃ b ∈ bs, b.turn.changes = some entries := by
  obtain ⟨b, listed, written⟩ := List.mem_flatMap.mp written
  refine ⟨b, List.mem_reverse.mp listed, ?_⟩
  rcases List.mem_append.mp written with changed | shown
  · rw [Option.mem_toList, Option.map_eq_some_iff] at changed
    obtain ⟨entries', brought, same⟩ := changed
    cases same
    exact brought
  · rw [Option.mem_toList, Option.map_eq_some_iff] at shown
    obtain ⟨data, -, same⟩ := shown
    cases same

/-- **The global state of a run is its seed with the writes of its turns replayed.**  Every life
has a journal, and whatever a journal tells, the run is as it says: its results are those that
were recorded, and its global state comes from the changes of responses, approved or not, and the
data of successes, in the order of the turns.  So a key that no response changed keeps its seed,
unless it is the one that shows the last data.  A turn that brings no changes and records no success
with data writes nothing, and settling a run, with the call of its hook, leaves it as it is. -/
theorem Life.globalState_eq_replay (life : Life settings p past x) :
    (∃ initial bs, Journal settings p initial bs x ∧ bs.map Booking.turn = past) ∧
      ∀ initial bs, Journal settings p initial bs x →
        x.results = Recorded.table (Booking.allRecorded bs) ∧
        x.globalState = replay (p.globalState.overlay initial) (Booking.allWrites bs) ∧
        (∀ key, key ≠ lastResultKey →
          (∀ b ∈ bs, ∀ entries, b.turn.changes = some entries → entries.get? key = none) →
          x.globalState.get? key = (p.globalState.overlay initial).get? key) ∧
        (∀ b y, Notes settings p (bs.map Booking.turn) b x y → b.turn.changes = none →
          (∀ o, b.recorded = some o → o.result.success = false ∨ o.result.data = none) →
          y.globalState = x.globalState) ∧
        (x.status ≠ .running → ∀ {σ : Type} (h : Host σ) (budget : Nat) (s : σ),
          (h.run settings p budget x s).1 = x) := by
  refine ⟨life_iff_exists_journal.mp life, fun initial bs journal =>
    ⟨journal.results_eq, journal.globalState_eq, ?_, ?_, ?_⟩⟩
  · intro key other spared
    rw [journal.globalState_eq]
    refine get?_replay other (fun entries written => ?_) _
    obtain ⟨b, listed, brought⟩ := Booking.exists_turn_of_changes written
    exact spared b listed entries brought
  · intro b y noted unchanged hidden
    refine noted.globalState_eq_self unchanged fun o recorded => ?_
    unfold ToolResult.shown?
    rcases hidden o recorded with failed | empty
    · rw [failed, if_neg Bool.false_ne_true]
    · rw [empty, ite_self]
  · intro halted σ h budget s
    exact h.run_of_not_running settings halted budget s

/-- A gate that is approved with a change and an input: the input shows beside the change. -/
theorem Life.globalState_eq_replay_reviewed :
    ∃ past x, Life {} (Definition.reviewed.toPipeline "p") past x ∧
      x.globalState.get? "note" = some (.str "fine") ∧
      x.globalState.get? lastResultKey = some (.int 7) ∧
      ∃ initial bs, Journal {} (Definition.reviewed.toPipeline "p") initial bs x ∧
        bs.map Booking.turn = past ∧
        x.globalState =
          replay ((Definition.reviewed.toPipeline "p").globalState.overlay initial)
            (Booking.allWrites bs) := by
  obtain ⟨past, life⟩ := exists_life_reviewed
  have approved := life.turn (.response
    { approved := true, input := some (.int 7),
      modifications := some (.ofEntries [("note", .str "fine")]) }
    (.ofMilliseconds 1) (.ofMilliseconds 1) rfl)
  obtain ⟨⟨initial, bs, journal, turns⟩, told⟩ := approved.globalState_eq_replay
  exact ⟨_, _, approved, rfl, rfl, initial, bs, journal, turns, (told initial bs journal).2.1⟩

end Replay

end StepFlow
