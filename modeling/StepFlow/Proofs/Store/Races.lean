import StepFlow.Proofs.Store.Slots

/-!
# Races for one pipeline

An update is two calls of the backend, one that loads and one that saves, and other requests may
be served in between.  So two requests for one pipeline are a **race**: each is a task that makes
its calls one at a time, in an order that neither of them chooses.  A request that is left alone
does what it does at once (`Store.Task.step_step_loads`).

What is load-bearing is that a race for one id can be run in the slot under that id, by the calls
alone (`Store.Race.run_under`).  There an order of calls is run by computation.
-/

namespace StepFlow

namespace Store

section

variable {β : Type} [Backend β]

/-- **A request under way**, by the call that it makes next, or else by its answer. -/
inductive Task where
  | loads (id : String) (q : Patch)
  | saves (p : Pipeline)
  | deletes (id : String)
  | done (answer : Response)

/-- **Makes the next call of a request**: an update loads, and then it saves what it has made of
the pipeline; a deletion is a single call. -/
def Task.step : Task → β → Task × β
  | .loads id q, b =>
    match Backend.load id b with
    | .error c => (.done (.pipeline (.error c)), b)
    | .ok none => (.done (.pipeline (.ok none)), b)
    | .ok (some p) => (.saves (q.apply p), b)
  | .saves p, b => (.done (.pipeline (.ok (some p))), Backend.save p b)
  | .deletes id, b => (.done (.verdict (Backend.delete id b).1), (Backend.delete id b).2)
  | .done answer, b => (.done answer, b)

theorem Task.step_loads_of_error {id : String} {b : β} {c : Corrupt}
    (failed : Backend.load id b = .error c) (q : Patch) :
    (Task.loads id q).step b = (.done (.pipeline (.error c)), b) := by
  simp only [Task.step, failed]

theorem Task.step_loads_of_none {id : String} {b : β} (missing : Backend.load id b = .ok none)
    (q : Patch) : (Task.loads id q).step b = (.done (.pipeline (.ok none)), b) := by
  simp only [Task.step, missing]

theorem Task.step_loads_of_some {id : String} {b : β} {p : Pipeline}
    (found : Backend.load id b = .ok (some p)) (q : Patch) :
    (Task.loads id q).step b = (.saves (q.apply p), b) := by
  simp only [Task.step, found]

/-- **An update whose calls follow each other** is an update. -/
theorem Task.step_step_loads (id : String) (q : Patch) (b : β) :
    ((Task.loads id q).step b).1.step ((Task.loads id q).step b).2 =
      (.done (perform (.update id q) b).1, (perform (.update id q) b).2) := by
  rcases found : Backend.load id b with c | _ | p
  · rw [Task.step_loads_of_error found, perform, update_of_error found]
    rfl
  · rw [Task.step_loads_of_none found, perform, update_of_none found]
    rfl
  · rw [Task.step_loads_of_some found, perform, update_of_some found]
    rfl

/-- A deletion makes one call, and this is all that it does. -/
theorem Task.step_deletes (id : String) (b : β) :
    (Task.deletes id).step b = (.done (perform (.delete id) b).1, (perform (.delete id) b).2) :=
  rfl

/-- The two requests of a race. -/
inductive Party where
  | first | second
deriving DecidableEq

namespace Party

/-- The one that a party races. -/
def rival : Party → Party
  | first => second
  | second => first

@[simp] theorem rival_rival (party : Party) : party.rival.rival = party := by cases party <;> rfl

theorem eq_or_eq_rival (party other : Party) : other = party ∨ other = party.rival := by
  cases party <;> cases other <;> simp [rival]

end Party

/-- **A race**: two requests under way, and what is in the backend. -/
structure Race (β : Type) where
  task : Party → Task
  contents : β

/-- **What happens next**: one of the two makes a call, or some other operation is performed. -/
inductive Move where
  | call (by_ : Party)
  | other (op : Operation)

namespace Race

/-- A party makes its next call. -/
def call (r : Race β) (party : Party) : Race β where
  task other := if other = party then ((r.task party).step r.contents).1 else r.task other
  contents := ((r.task party).step r.contents).2

/-- Goes on by one move. -/
def move (r : Race β) : Move → Race β
  | .call party => r.call party
  | .other op => ⟨r.task, (perform op r.contents).2⟩

/-- **Runs a race.** -/
def run (r : Race β) (moves : List Move) : Race β := moves.foldl move r

/-- **Two updates** of the pipeline under an id. -/
def updates (id : String) (patch : Party → Patch) (b : β) : Race β where
  task party := .loads id (patch party)
  contents := b

/-- **An update and a deletion** of the pipeline under an id. -/
def deletion (id : String) (q : Patch) (b : β) : Race β where
  task
    | .first => .loads id q
    | .second => .deletes id
  contents := b

end Race

/-- The calls of the two parties, in order. -/
def calls (moves : List Move) : List Party :=
  moves.filterMap fun
    | .call party => some party
    | .other _ => none

/-! ### Races for one id -/

variable (β) in
/-- **A request is for one id**: it makes only pipelines `K` out of pipelines `K`, and they are
given back when it saves them. -/
def Task.For (id : String) (K : Pipeline → Prop) : Task → Prop
  | .loads i q => i = id ∧ ∀ p, K p → K (q.apply p) ∧ GivesBack β (q.apply p)
  | .saves p => p.id = id ∧ K p ∧ GivesBack β p
  | .deletes i => i = id
  | .done _ => True

variable {id : String} {K : Pipeline → Prop}

/-- **A call for one id is made in the slot.** -/
theorem Task.step_slot (apart : KeepsApart β) {t : Task} (mine : t.For β id K) {b : β}
    (only : ∀ p, Backend.load id b = .ok (some p) → K p) :
    t.step (slot id b) = ((t.step b).1, slot id (t.step b).2) ∧ (t.step b).1.For β id K ∧
      ∀ p, Backend.load id (t.step b).2 = .ok (some p) → K p := by
  cases t with
  | loads i q =>
    obtain ⟨rfl, keeps⟩ := mine
    rcases found : Backend.load i b with c | _ | p
    · rw [step_loads_of_error found, step_loads_of_error (b := slot i b) found]
      exact ⟨rfl, trivial, only⟩
    · rw [step_loads_of_none found, step_loads_of_none (b := slot i b) found]
      exact ⟨rfl, trivial, only⟩
    · obtain ⟨kept, back⟩ := keeps p (only p found)
      have named : (q.apply p).id = i := (apart.id_of_load found : p.id = i)
      rw [step_loads_of_some found, step_loads_of_some (b := slot i b) found]
      exact ⟨rfl, ⟨named, kept, back⟩, only⟩
  | saves p =>
    obtain ⟨rfl, kept, back⟩ := mine
    refine ⟨?_, trivial, fun x found => ?_⟩
    · show (_, _) = (_, slot p.id (Backend.save p b))
      rw [apart.slot_save back]
      rfl
    · obtain rfl : p = x := Option.some.inj (Except.ok.inj ((back b).symm.trans found))
      exact kept
  | deletes i =>
    obtain rfl : i = id := mine
    have gone := apart.slot_delete i b
    refine ⟨?_, trivial, fun x found => ?_⟩
    · show (_, _) = (_, slot i (Backend.delete i b).2)
      rw [gone]
      rfl
    · have none : Backend.load i (Backend.delete i b).2 = .ok none := congrArg Slot.pipeline gone
      cases none.symm.trans found
  | done answer => exact ⟨rfl, trivial, only⟩

namespace Race

/-- A race as it is run in the slot. -/
def under (id : String) (r : Race β) : Race Slot := ⟨r.task, slot id r.contents⟩

variable (β) in
/-- **A race is for one id.** -/
structure For (id : String) (K : Pipeline → Prop) (r : Race β) : Prop where
  task : ∀ party, (r.task party).For β id K
  only : ∀ p, Backend.load id r.contents = .ok (some p) → K p

variable {r : Race β}

theorem call_under (apart : KeepsApart β) (mine : r.For β id K) (party : Party) :
    (r.under id).call party = (r.call party).under id ∧ (r.call party).For β id K := by
  obtain ⟨same, for_, only⟩ := Task.step_slot apart (mine.task party) mine.only
  have same : ((r.under id).task party).step (r.under id).contents = _ := same
  refine ⟨?_, ⟨fun other => ?_, only⟩⟩
  · unfold call
    rw [same]
    rfl
  · show (if other = party then _ else r.task other).For β id K
    split
    · exact for_
    · exact mine.task other

/-- **A race for one id is run in the slot**, by the calls alone. -/
theorem run_under (apart : KeepsApart β) {moves : List Move}
    (spares : ∀ op, .other op ∈ moves → op.Spares id) (mine : r.For β id K) :
    (r.run moves).under id = (calls moves).foldl call (r.under id) := by
  induction moves generalizing r with
  | nil => rfl
  | cons m moves ih =>
    have later : ∀ op, .other op ∈ moves → op.Spares id :=
      fun op listed => spares op (List.mem_cons_of_mem _ listed)
    cases m with
    | call party =>
      obtain ⟨same, mine⟩ := call_under apart mine party
      show ((r.call party).run moves).under id = (calls moves).foldl call ((r.under id).call party)
      rw [same]
      exact ih later mine
    | other op =>
      have left := apart.slot_perform (spares op List.mem_cons_self) r.contents
      have same : (⟨r.task, (perform op r.contents).2⟩ : Race β).under id = r.under id := by
        unfold under
        rw [left]
      have only : ∀ p, Backend.load id (perform op r.contents).2 = .ok (some p) → K p := by
        intro p found
        exact mine.only p ((congrArg Slot.pipeline left).symm.trans found)
      show (run ⟨r.task, (perform op r.contents).2⟩ moves).under id = (calls moves).foldl call _
      rw [← same]
      exact ih later ⟨mine.task, only⟩

end Race

end

end Store

end StepFlow
