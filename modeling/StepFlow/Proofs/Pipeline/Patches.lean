import StepFlow.Pipeline.Patch

/-!
# Patches one after another

Patches compose: what two of them make of a pipeline, one after the other, is what a single one
makes of it, which takes each field from the later patch where that sets it (`Patch.andThen`,
`Patch.apply_apply`).  The same patch twice is the patch once, fields that are not set stay as they
were, and the steps that are set come under their keys (`Patch.overwrites`).

A pipeline **carries** a patch if it has the fields that the patch sets (`Patch.IsIn`).  A pipeline
that was patched does, and it goes on to carry the patch when other fields are patched, in
whichever order this is done (`Patch.apply_comm`, `Patch.IsIn.apply`).  So a pipeline does not come
to carry a patch by one that is disjoint from it (`Patch.IsIn.of_apply`).

Of all fields only the steps are not copied but changed on the way: each takes its key for an id.
The laws hold in spite of this because the change does not look at the pipeline.
-/

namespace StepFlow

namespace Patch

/-- **Patches are disjoint**: no field is set by both. -/
structure Disjoint (q r : Patch) : Prop where
  name : q.name = none ∨ r.name = none
  description : q.description = none ∨ r.description = none
  start : q.start = none ∨ r.start = none
  steps : q.steps = none ∨ r.steps = none
  globalState : q.globalState = none ∨ r.globalState = none
  onComplete : q.onComplete = none ∨ r.onComplete = none
  onError : q.onError = none ∨ r.onError = none
  metadata : q.metadata = none ∨ r.metadata = none

/-- **A pipeline carries a patch**: its fields are as the patch sets them. -/
def IsIn (q : Patch) (p : Pipeline) : Prop := q.apply p = p

theorem getD_getD {α : Type} (x : Option α) (a : α) : x.getD (x.getD a) = x.getD a := by
  cases x <;> rfl

theorem getD_comm {α : Type} {x y : Option α} (one : x = none ∨ y = none) (a : α) :
    x.getD (y.getD a) = y.getD (x.getD a) := by
  rcases one with rfl | rfl <;> rfl

theorem or_comm_of_none {α : Type} {x y : Option α} (one : x = none ∨ y = none) (z : Option α) :
    x.or (y.or z) = y.or (x.or z) := by
  rcases one with rfl | rfl <;> rfl

variable {q r : Patch}

/-- What was patched carries the patch. -/
theorem isIn_apply (q : Patch) (p : Pipeline) : q.IsIn (q.apply p) := by
  unfold IsIn apply
  simp only [getD_getD, ← Option.or_assoc, Option.or_self]

theorem Disjoint.symm (disjoint : q.Disjoint r) : r.Disjoint q where
  name := disjoint.name.symm
  description := disjoint.description.symm
  start := disjoint.start.symm
  steps := disjoint.steps.symm
  globalState := disjoint.globalState.symm
  onComplete := disjoint.onComplete.symm
  onError := disjoint.onError.symm
  metadata := disjoint.metadata.symm

/-- No steps are set by both, whatever ids they are given. -/
theorem Disjoint.map_steps (disjoint : q.Disjoint r) :
    q.steps.map alignIds = none ∨ r.steps.map alignIds = none :=
  disjoint.steps.imp (fun unset => by rw [unset]; rfl) (fun unset => by rw [unset]; rfl)

/-- Disjoint patches can be applied in either order. -/
theorem apply_comm (disjoint : q.Disjoint r) (p : Pipeline) :
    q.apply (r.apply p) = r.apply (q.apply p) := by
  have steps := disjoint.map_steps
  unfold apply
  simp only [getD_comm disjoint.name, getD_comm disjoint.description, getD_comm disjoint.start,
    getD_comm steps, getD_comm disjoint.globalState, or_comm_of_none disjoint.onComplete,
    or_comm_of_none disjoint.onError, getD_comm disjoint.metadata]

/-- **A disjoint patch leaves a patch in place.** -/
theorem IsIn.apply {p : Pipeline} (carried : q.IsIn p) (disjoint : q.Disjoint r) :
    q.IsIn (r.apply p) :=
  (apply_comm disjoint p).trans (congrArg r.apply carried)

theorem getD_eq_of_getD {α : Type} {x y : Option α} {a : α} (one : x = none ∨ y = none)
    (same : x.getD (y.getD a) = y.getD a) : x.getD a = a := by
  rcases one with rfl | rfl
  · rfl
  · exact same

theorem or_eq_of_or {α : Type} {x y z : Option α} (one : x = none ∨ y = none)
    (same : x.or (y.or z) = y.or z) : x.or z = z := by
  rcases one with rfl | rfl
  · rfl
  · exact same

/-- A disjoint patch puts no patch in place. -/
theorem IsIn.of_apply {p : Pipeline} (carried : q.IsIn (r.apply p)) (disjoint : q.Disjoint r) :
    q.IsIn p := by
  unfold IsIn Patch.apply at carried ⊢
  simp only [Pipeline.mk.injEq, Definition.mk.injEq] at carried
  obtain ⟨⟨name, description, start, steps, globalState, complete, error, metadata⟩, -⟩ := carried
  rw [getD_eq_of_getD disjoint.name name, getD_eq_of_getD disjoint.description description,
    getD_eq_of_getD disjoint.start start, getD_eq_of_getD disjoint.map_steps steps,
    getD_eq_of_getD disjoint.globalState globalState, or_eq_of_or disjoint.onComplete complete,
    or_eq_of_or disjoint.onError error, getD_eq_of_getD disjoint.metadata metadata]

/-! ### Composition -/

/-- **One patch after another** as a single patch: each field from `r` where `r` sets it, otherwise
from `q`. -/
def andThen (q r : Patch) : Patch where
  id := r.id.or q.id
  name := r.name.or q.name
  description := r.description.or q.description
  start := r.start.or q.start
  steps := r.steps.or q.steps
  globalState := r.globalState.or q.globalState
  onComplete := r.onComplete.or q.onComplete
  onError := r.onError.or q.onError
  metadata := r.metadata.or q.metadata

/-- Patching with one patch and then another is patching with both. -/
theorem apply_apply (q r : Patch) (p : Pipeline) : r.apply (q.apply p) = (q.andThen r).apply p := by
  unfold apply andThen
  -- the steps that are set take their keys for ids before or after the choice between them
  simp only [Option.map_or, Option.getD_or, Option.or_assoc]

/-! ### What a patch sets -/

theorem get?_alignIds (steps : Table Step) (key : String) :
    (alignIds steps).get? key = (steps.get? key).map fun s => { s with id := key } :=
  Table.get?_mapValues _ steps key

/-- The keys of the steps stay. -/
theorem keys_alignIds (steps : Table Step) : (alignIds steps).keys = steps.keys := by
  simp only [alignIds, Table.keys, Table.mapValues, Entries.mapValues, List.map_map,
    Function.comp_def]

/-- **A patch leaves alone** what it does not set, and the id in any case. -/
structure Spares (q : Patch) (before after : Pipeline) : Prop where
  id : after.id = before.id
  name : q.name = none → after.name = before.name
  description : q.description = none → after.description = before.description
  start : q.start = none → after.start = before.start
  steps : q.steps = none → after.steps = before.steps
  globalState : q.globalState = none → after.globalState = before.globalState
  onComplete : q.onComplete = none → after.onComplete = before.onComplete
  onError : q.onError = none → after.onError = before.onError
  metadata : q.metadata = none → after.metadata = before.metadata

/-- **A patch is carried out** if what it sets is there, and of the steps exactly those that it
sets, each as it is set but for its id, which is its key. -/
structure Sets (q : Patch) (after : Pipeline) : Prop where
  name : ∀ text, q.name = some text → after.name = text
  description : ∀ text, q.description = some text → after.description = text
  start : ∀ key, q.start = some key → after.start = key
  keys : ∀ steps, q.steps = some steps → after.steps.keys = steps.keys
  step : ∀ steps, q.steps = some steps → ∀ key,
    after.steps.get? key = (steps.get? key).map fun s => { s with id := key }
  globalState : ∀ state, q.globalState = some state → after.globalState = state
  onComplete : ∀ tool, q.onComplete = some tool → after.onComplete = some tool
  onError : ∀ tool, q.onError = some tool → after.onError = some tool
  metadata : ∀ data, q.metadata = some data → after.metadata = data

theorem spares_apply (q : Patch) (p : Pipeline) : q.Spares p (q.apply p) where
  id := rfl
  name unset := by simp only [apply, unset, Option.getD_none]
  description unset := by simp only [apply, unset, Option.getD_none]
  start unset := by simp only [apply, unset, Option.getD_none]
  steps unset := by simp only [apply, unset, Option.map_none, Option.getD_none]
  globalState unset := by simp only [apply, unset, Option.getD_none]
  onComplete unset := by simp only [apply, unset, Option.none_or]
  onError unset := by simp only [apply, unset, Option.none_or]
  metadata unset := by simp only [apply, unset, Option.getD_none]

theorem sets_apply (q : Patch) (p : Pipeline) : q.Sets (q.apply p) where
  name _ set := by simp only [apply, set, Option.getD_some]
  description _ set := by simp only [apply, set, Option.getD_some]
  start _ set := by simp only [apply, set, Option.getD_some]
  keys steps set := by
    simp only [apply, set, Option.map_some, Option.getD_some]
    exact keys_alignIds steps
  step steps set key := by
    simp only [apply, set, Option.map_some, Option.getD_some]
    exact get?_alignIds steps key
  globalState _ set := by simp only [apply, set, Option.getD_some]
  onComplete _ set := by simp only [apply, set, Option.some_or]
  onError _ set := by simp only [apply, set, Option.some_or]
  metadata _ set := by simp only [apply, set, Option.getD_some]

/-- **Patches overwrite.**  A patch applied twice is that patch applied once; one patch after
another is the patch of each field from the later one where that sets it and from the earlier one
otherwise; the id and what a patch does not set stay; and what it sets is there, of the steps
exactly those under the keys of the patch, each as it was set but for its id, which is its key. -/
theorem overwrites (q r : Patch) (p : Pipeline) :
    q.apply (q.apply p) = q.apply p ∧ r.apply (q.apply p) = (q.andThen r).apply p ∧
      q.Spares p (q.apply p) ∧ q.Sets (q.apply p) :=
  ⟨isIn_apply q p, apply_apply q r p, spares_apply q p, sets_apply q p⟩

end Patch

end StepFlow
