import StepFlow.Proofs.Pipeline.Patches
import StepFlow.Proofs.Store.Races

/-!
# Requests that overlap

What comes of a race is told by the order of its calls (`Store.interleaves`).  Updates that are
served one after the other both stay.  Updates that overlap have loaded the same pipeline, so the
one that saves last undoes the other, although both have answered with their patch in place.  And
an update that has loaded before a deletion and saves after it brings the pipeline back, although
the deletion has answered that it is gone.

There are few orders of two calls and two, or of two and one, and each is run in the slot
(`Store.settlesUpdates_slot`).  What is asked of the backend is that it gives back what the patches
make of the pipeline.  Disjoint patches make three pipelines out of one, in whichever order they
are applied and however often (`Store.Patched`).
-/

namespace StepFlow

namespace Store

section

variable {β : Type} [Backend β] {id : String}

/-! ### Two updates -/

/-- **What two patches make of a pipeline**, one of them or both. -/
inductive Patched (patch : Party → Patch) (p : Pipeline) : Pipeline → Prop
  | one (party : Party) : Patched patch p ((patch party).apply p)
  | both (party : Party) : Patched patch p ((patch party).apply ((patch party.rival).apply p))

variable {patch : Party → Patch} {p : Pipeline}

/-- No id is missing that was not missing before. -/
theorem Patched.filled {x : Pipeline} (made : Patched patch p x) (filled : p.toDefinition.Filled) :
    x.toDefinition.Filled := by
  cases made with
  | one party => exact (patch party).filled_apply filled
  | both party => exact (patch party).filled_apply ((patch party.rival).filled_apply filled)

theorem Party.disjoint_rival (disjoint : (patch .first).Disjoint (patch .second)) (party : Party) :
    (patch party).Disjoint (patch party.rival) := by
  cases party
  · exact disjoint
  · exact disjoint.symm

/-- Disjoint patches make nothing else, however often they are applied. -/
theorem Patched.apply (disjoint : (patch .first).Disjoint (patch .second))
    {x : Pipeline} (made : x = p ∨ Patched patch p x) (party : Party) :
    Patched patch p ((patch party).apply x) := by
  have again (y : Pipeline) : (patch party).apply ((patch party).apply y) = (patch party).apply y :=
    Patch.isIn_apply _ y
  rcases made with rfl | ⟨other⟩ | ⟨other⟩
  · exact .one party
  · rcases party.eq_or_eq_rival other with rfl | rfl
    · rw [again]
      exact .one other
    · exact .both party
  · rcases party.eq_or_eq_rival other with rfl | rfl
    · rw [again]
      exact .both other
    · rw [Party.rival_rival, Patch.apply_comm (party.disjoint_rival disjoint), again]
      have both : Patched patch p ((patch party.rival).apply ((patch party.rival.rival).apply p)) :=
        .both party.rival
      rwa [Party.rival_rival] at both

/-- A pipeline that both patches were applied to carries both. -/
theorem isIn_of_both (disjoint : (patch .first).Disjoint (patch .second)) (last party : Party)
    (p : Pipeline) : (patch party).IsIn ((patch last).apply ((patch last.rival).apply p)) := by
  rcases last.eq_or_eq_rival party with rfl | rfl
  · exact Patch.isIn_apply _ _
  · exact (Patch.isIn_apply _ _).apply (last.disjoint_rival disjoint).symm

theorem length_eq_count (cs : List Party) : cs.length = cs.count .first + cs.count .second := by
  induction cs with
  | nil => rfl
  | cons party cs ih =>
    rw [List.length_cons, ih]
    have differ : Party.first ≠ .second := nofun
    cases party
    · rw [List.count_cons_self, List.count_cons_of_ne differ]
      omega
    · rw [List.count_cons_self, List.count_cons_of_ne differ.symm]
      omega

/-- **In which order two updates call**: with regard to the one that saves last, the other is
served before it, or loads between its calls or before them. -/
theorem calls_of_two {cs : List Party} (each : ∀ party, cs.count party = 2) :
    ∃ last : Party, cs = [last.rival, last.rival, last, last] ∨
      cs = [last.rival, last, last.rival, last] ∨ cs = [last, last.rival, last.rival, last] := by
  match cs, (length_eq_count cs).trans (congrArg₂ (· + ·) (each .first) (each .second)) with
  | [a, b, c, d], _ =>
    have two : [a, b, c, d].count .first = 2 := each .first
    refine ⟨d, ?_⟩
    cases a <;> cases b <;> cases c <;> cases d <;> first | exact absurd two (by decide) | decide

/-- **What becomes of two updates** of the pipeline `p`, once both have made their calls. -/
structure SettlesUpdates (id : String) (p : Pipeline) (patch : Party → Patch) (cs : List Party)
    (ended : Race β) : Prop where
  /-- Each is answered with a pipeline that carries its patch. -/
  answered : ∀ party, ∃ x, ended.task party = .done (.pipeline (.ok (some x))) ∧
    (patch party).IsIn x
  /-- If one is served before the other, both are applied. -/
  served : ∀ last : Party, cs = [last.rival, last.rival, last, last] →
    get id ended.contents = .ok (some ((patch last).apply ((patch last.rival).apply p)))
  /-- If they overlap, the one that saves last undoes the other. -/
  undone : ∀ last : Party, cs.getLast? = some last → cs ≠ [last.rival, last.rival, last, last] →
    get id ended.contents = .ok (some ((patch last).apply p))

/-- Two updates in the slot. -/
theorem settlesUpdates_slot (patch : Party → Patch) (id : String) (taken : Bool) {cs : List Party}
    (each : ∀ party, cs.count party = 2) :
    SettlesUpdates id p patch cs
      (cs.foldl Race.call (Race.updates id patch (Slot.mk taken (.ok (some p))))) := by
  have carried (party : Party) (x : Pipeline) := Patch.isIn_apply (patch party) x
  obtain ⟨last, order⟩ := calls_of_two each
  -- the order is known now, so the calls can be made one by one
  constructor
  case answered =>
    intro party
    rcases order with rfl | rfl | rfl <;> cases last <;> cases party <;>
      exact ⟨_, rfl, carried _ _⟩
  case served =>
    rintro last rfl
    cases last <;> rfl
  case undone =>
    intro other ends differs
    obtain rfl : other = last := by
      rcases order with rfl | rfl | rfl <;> exact (Option.some.inj ends).symm
    rcases order with rfl | rfl | rfl
    · exact absurd rfl differs
    · cases other <;> rfl
    · cases other <;> rfl

/-- **Two updates of one pipeline settle** as the order of their calls says. -/
theorem KeepsApart.settlesUpdates (apart : KeepsApart β)
    (disjoint : (patch .first).Disjoint (patch .second)) {b : β}
    (stored : get id b = .ok (some p)) {moves : List Move}
    (each : ∀ party, (calls moves).count party = 2)
    (spares : ∀ op, .other op ∈ moves → op.Spares id)
    (back : ∀ x, Patched patch p x → GivesBack β x) :
    SettlesUpdates id p patch (calls moves) ((Race.updates id patch b).run moves) := by
  have mine : (Race.updates id patch b).For β id (fun x => x = p ∨ Patched patch p x) := by
    refine ⟨fun party => ⟨rfl, fun x made => ?_⟩, fun x found => ?_⟩
    · have made := Patched.apply disjoint made party
      exact ⟨.inr made, back _ made⟩
    · exact .inl (Option.some.inj (Except.ok.inj (found.symm.trans stored)))
  have run := Race.run_under apart spares mine
  have stored : Backend.load id b = .ok (some p) := stored
  have start : (Race.updates id patch b).under id =
      Race.updates id patch (Slot.mk (Backend.delete id b).1 (.ok (some p))) := by
    unfold Race.under slot Race.updates
    rw [stored]
  have settles := settlesUpdates_slot (p := p) patch id (Backend.delete id b).1 each
  rw [← start, ← run] at settles
  exact ⟨settles.answered, settles.served, settles.undone⟩

/-- **When both patches stay**: if one update was served before the other, or if there was nothing
to undo. -/
theorem SettlesUpdates.both_iff {cs : List Party} {ended : Race β}
    (settles : SettlesUpdates id p patch cs ended)
    (disjoint : (patch .first).Disjoint (patch .second)) {last : Party}
    (ends : cs.getLast? = some last) :
    (∃ x, get id ended.contents = .ok (some x) ∧ ∀ party, (patch party).IsIn x) ↔
      cs = [last.rival, last.rival, last, last] ∨ (patch last.rival).IsIn p := by
  by_cases serial : cs = [last.rival, last.rival, last, last]
  · have both (party : Party) := isIn_of_both disjoint last party p
    exact iff_of_true ⟨_, settles.served last serial, both⟩ (.inl serial)
  · have left := settles.undone last ends serial
    have apart := (last.disjoint_rival disjoint).symm
    constructor
    · rintro ⟨x, found, carried⟩
      obtain rfl := Option.some.inj (Except.ok.inj (found.symm.trans left))
      exact .inr ((carried last.rival).of_apply apart)
    · intro before
      have before := before.resolve_left serial
      refine ⟨_, left, fun party => ?_⟩
      rcases last.eq_or_eq_rival party with rfl | rfl
      · exact Patch.isIn_apply _ p
      · exact before.apply apart

/-! ### An update and a deletion -/

/-- **What becomes of an update and a deletion** of the pipeline `p`, once both have made their
calls. -/
structure SettlesDeletion (id : String) (p : Pipeline) (q : Patch) (cs : List Party)
    (ended : Race β) : Prop where
  /-- The deletion is answered with yes. -/
  answered : ended.task .second = .done (.verdict true)
  /-- The pipeline is back if the update has loaded before and saves afterwards, and else gone. -/
  stored : get id ended.contents =
    .ok (if cs = [.first, .second, .first] then some (q.apply p) else none)

/-- **In which order an update and a deletion call.** -/
theorem calls_of_update_of_deletion {cs : List Party} (two : cs.count .first = 2)
    (one : cs.count .second = 1) :
    cs = [.first, .first, .second] ∨ cs = [.first, .second, .first] ∨
      cs = [.second, .first, .first] := by
  match cs, (length_eq_count cs).trans (congrArg₂ (· + ·) two one) with
  | [a, b, c], _ =>
    cases a <;> cases b <;> cases c <;> first | exact absurd two (by decide) | decide

/-- **An update and a deletion of one pipeline settle** as the order of their calls says. -/
theorem KeepsApart.settlesDeletion (apart : KeepsApart β) {q : Patch} {b : β}
    (stored : get id b = .ok (some p)) {moves : List Move} (two : (calls moves).count .first = 2)
    (one : (calls moves).count .second = 1) (spares : ∀ op, .other op ∈ moves → op.Spares id)
    (back : GivesBack β (q.apply p)) :
    SettlesDeletion id p q (calls moves) ((Race.deletion id q b).run moves) := by
  have mine : (Race.deletion id q b).For β id (fun x => x = p ∨ x = q.apply p) := by
    constructor
    case task =>
      rintro (_ | _)
      · refine ⟨rfl, fun x made => ?_⟩
        have same : q.apply x = q.apply p := by
          rcases made with rfl | rfl
          · rfl
          · exact Patch.isIn_apply q p
        exact ⟨.inr same, same ▸ back⟩
      · rfl
    case only =>
      exact fun x found => .inl (Option.some.inj (Except.ok.inj (found.symm.trans stored)))
  have run := Race.run_under apart spares mine
  have stored : Backend.load id b = .ok (some p) := stored
  have start : (Race.deletion id q b).under id = 
      Race.deletion id q (Slot.mk true (.ok (some p))) := by
    unfold Race.under slot Race.deletion
    rw [stored, apart.taken_of_load stored]
  rw [start] at run
  have tasks := congrArg Race.task run
  have contents := congrArg (fun r : Race Slot => r.contents.pipeline) run
  constructor
  case answered =>
    refine (congrFun tasks .second).trans ?_
    rcases calls_of_update_of_deletion two one with order | order | order <;> rw [order] <;> rfl
  case stored =>
    refine contents.trans ?_
    rcases calls_of_update_of_deletion two one with order | order | order <;> rw [order] <;> rfl

/-! ### Both backends -/

/-- **How requests for the pipeline `p` settle when they overlap**, whatever else is served in
between. -/
structure Interleaves (id : String) (p : Pipeline) (patch : Party → Patch) (moves : List Move)
    (b : β) : Prop where
  /-- Two updates are both answered, and are both applied or the one is undone. -/
  updates : (∀ party, (calls moves).count party = 2) →
    SettlesUpdates id p patch (calls moves) ((Race.updates id patch b).run moves)
  /-- Both patches stay exactly if one update was served before the other, or if the patch that
  was undone had been in place before. -/
  both_iff : (∀ party, (calls moves).count party = 2) →
    ∀ last : Party, (calls moves).getLast? = some last →
      ((∃ x, get id ((Race.updates id patch b).run moves).contents = .ok (some x) ∧
          ∀ party, (patch party).IsIn x) ↔
        calls moves = [last.rival, last.rival, last, last] ∨ (patch last.rival).IsIn p)
  /-- A deletion is answered, and the pipeline is gone or is back. -/
  deletion : (calls moves).count .first = 2 → (calls moves).count .second = 1 →
    SettlesDeletion id p (patch .first) (calls moves)
      ((Race.deletion id (patch .first) b).run moves)

/-- Requests settle so in every backend that keeps ids apart and gives back what is made of the
pipeline. -/
theorem KeepsApart.settles (apart : KeepsApart β)
    (disjoint : (patch .first).Disjoint (patch .second)) {b : β}
    (stored : get id b = .ok (some p)) {moves : List Move}
    (spares : ∀ op, .other op ∈ moves → op.Spares id)
    (back : ∀ x, Patched patch p x → GivesBack β x) : Interleaves id p patch moves b where
  updates each := apart.settlesUpdates disjoint stored each spares back
  both_iff each _ ends :=
    (apart.settlesUpdates disjoint stored each spares back).both_iff disjoint ends
  deletion two one := apart.settlesDeletion stored two one spares (back _ (.one .first))

end

/-- **Requests that overlap.**  Two updates with disjoint patches are both answered with their
patch in place, and what is stored in the end depends on the order of their calls: both patches if
one update was served before the other, and otherwise only that of the update that saved last.  A
deletion is answered with yes, and the pipeline is gone unless an update has loaded it before and
saves it afterwards.  Other requests may be served at any time, as long as they spare the id.

So it is over a list, and over a table of rows where the texts of the patched definitions read
back. -/
theorem interleaves {id : String} {p : Pipeline} {patch : Party → Patch} {moves : List Move}
    (disjoint : (patch .first).Disjoint (patch .second))
    (spares : ∀ op, .other op ∈ moves → op.Spares id) :
    (∀ m : Memory, get id m = .ok (some p) → Interleaves id p patch moves m) ∧
      ∀ t : Rows, get id t = .ok (some p) → (∀ x, Patched patch p x → x.toDefinition.ReadsBack) →
        Interleaves id p patch moves t := by
  constructor
  · intro m stored
    exact keepsApart_memory.settles disjoint stored spares fun x _ => givesBack_memory x
  · intro t stored back
    have filled := filled_of_load_rows stored
    exact keepsApart_rows.settles disjoint stored spares fun x made =>
      givesBack_rows (made.filled filled) (back x made)

/-- Patches of the name and of the description. -/
def relabeling : Party → Patch
  | .first => { name := some "renamed" }
  | .second => { description := some "described" }

theorem disjoint_relabeling : (relabeling .first).Disjoint (relabeling .second) :=
  ⟨.inr rfl, .inl rfl, .inl rfl, .inl rfl, .inl rfl, .inl rfl, .inl rfl, .inl rfl⟩

/-- Both updates load, then the second saves and then the first. -/
def overlapping : List Move :=
  [.call .first, .call .second, .other (.create "2" lone), .call .second, .call .first]

theorem count_overlapping (party : Party) : (calls overlapping).count party = 2 := by
  cases party <;> rfl

theorem spares_overlapping : ∀ op, .other op ∈ overlapping → op.Spares "1" := by
  intro op listed
  obtain rfl : op = .create "2" lone := by simpa [overlapping] using listed
  show "2" ≠ "1"
  decide

/-- An update loads, the pipeline is deleted, and the update saves. -/
def restoring : List Move := [.call .first, .call .second, .call .first]

theorem spares_restoring : ∀ op, .other op ∈ restoring → op.Spares "1" := by simp [restoring]

theorem readsBack_relabeled {x : Pipeline} (made : Patched relabeling (lone.toPipeline "1") x) :
    x.toDefinition.ReadsBack := by
  unfold Definition.ReadsBack
  rcases made with (_ | _) | (_ | _) <;> cbv

theorem get_single_memory : get "1" (single Memory lone) = .ok (some (lone.toPipeline "1")) := rfl

theorem get_single_rows : get "1" (single Rows lone) = .ok (some (lone.toPipeline "1")) :=
  givesBack_rows (lone.filled_toPipeline "1") readsBack_lone Backend.empty

/-- **The second update is undone**, over both backends: the pipeline has its new name and no
description.  And a pipeline that was deleted is stored again. -/
theorem interleaves_overlapping :
    get "1" ((Race.updates "1" relabeling (single Memory lone)).run overlapping).contents =
        .ok (some ((relabeling .first).apply (lone.toPipeline "1"))) ∧
      get "1" ((Race.updates "1" relabeling (single Rows lone)).run overlapping).contents =
        .ok (some ((relabeling .first).apply (lone.toPipeline "1"))) ∧
      get "1" ((Race.deletion "1" (relabeling .first) (single Rows lone)).run restoring).contents =
        .ok (some ((relabeling .first).apply (lone.toPipeline "1"))) := by
  obtain ⟨memory, rows⟩ := interleaves disjoint_relabeling spares_overlapping
  obtain ⟨-, later⟩ := interleaves disjoint_relabeling spares_restoring
  have overMemory := (memory _ get_single_memory).updates count_overlapping
  have overRows := (rows _ get_single_rows fun _ => readsBack_relabeled).updates count_overlapping
  have restored := (later _ get_single_rows fun _ => readsBack_relabeled).deletion rfl rfl
  exact ⟨overMemory.undone .first rfl nofun, overRows.undone .first rfl nofun,
    restored.stored.trans (congrArg Except.ok (if_pos rfl))⟩

/-- Do updates with disjoint patches always leave both in place? -/
def KeepsBoth (β : Type) [Backend β] : Prop :=
  ∀ (id : String) (p : Pipeline) (b : β) (patch : Party → Patch) (moves : List Move),
    get id b = .ok (some p) → (patch .first).Disjoint (patch .second) →
    (∀ party, (calls moves).count party = 2) → (∀ op, .other op ∈ moves → op.Spares id) →
    ∃ x, get id ((Race.updates id patch b).run moves).contents = .ok (some x) ∧
      ∀ party, (patch party).IsIn x

/-- Is a pipeline always gone when its deletion was answered with yes? -/
def StaysDeleted (β : Type) [Backend β] : Prop :=
  ∀ (id : String) (p : Pipeline) (b : β) (q : Patch) (moves : List Move),
    get id b = .ok (some p) → (calls moves).count .first = 2 → (calls moves).count .second = 1 →
    (∀ op, .other op ∈ moves → op.Spares id) →
    ((Race.deletion id q b).run moves).task .second = .done (.verdict true) →
    get id ((Race.deletion id q b).run moves).contents = .ok none

section

variable {β : Type} [Backend β] (apart : KeepsApart β)
  (back : ∀ x, Patched relabeling (lone.toPipeline "1") x → GivesBack β x)
  (stored : get "1" (single β lone) = .ok (some (lone.toPipeline "1")))

include apart back stored

/-- An update is lost. -/
theorem KeepsApart.not_keepsBoth : ¬ KeepsBoth β := by
  intro keeps
  have kept := keeps "1" _ _ relabeling overlapping stored disjoint_relabeling count_overlapping
    spares_overlapping
  have settled := apart.settles disjoint_relabeling stored spares_overlapping back
  -- the description is not set before, and the updates overlap
  rcases (settled.both_iff count_overlapping .first rfl).mp kept with serial | before
  · cases serial
  · have described : "described" = lone.description := congrArg (·.description) before
    exact absurd described (by decide)

/-- A deleted pipeline comes back. -/
theorem KeepsApart.not_staysDeleted : ¬ StaysDeleted β := by
  intro stays
  have settled := (apart.settles disjoint_relabeling stored spares_restoring back).deletion
    rfl rfl
  have gone := stays "1" _ _ (relabeling .first) restoring stored rfl rfl spares_restoring
    settled.answered
  cases gone.symm.trans (settled.stored.trans (congrArg Except.ok (if_pos rfl)))

end

/-- **Updates that overlap are lost, and deleted pipelines come back**, over both backends. -/
theorem not_forall_interleavings :
    (¬ KeepsBoth Memory ∧ ¬ StaysDeleted Memory) ∧ ¬ KeepsBoth Rows ∧ ¬ StaysDeleted Rows := by
  have back : ∀ x, Patched relabeling (lone.toPipeline "1") x → GivesBack Rows x :=
    fun x made => givesBack_rows (made.filled (lone.filled_toPipeline "1"))
      (readsBack_relabeled made)
  exact ⟨⟨keepsApart_memory.not_keepsBoth (fun x _ => givesBack_memory x) get_single_memory,
      keepsApart_memory.not_staysDeleted (fun x _ => givesBack_memory x) get_single_memory⟩,
    keepsApart_rows.not_keepsBoth back get_single_rows,
    keepsApart_rows.not_staysDeleted back get_single_rows⟩

end Store

end StepFlow
