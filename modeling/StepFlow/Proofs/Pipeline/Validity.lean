import StepFlow.Pipeline.Validation

/-!
# What validation promises

`Definition.validate` looks for the first violation.  Here is what it promises
when there is none, first as a condition on a step and on a definition, and then
as what a run relies on: a pipeline made of a valid definition is **sound**
(`Definition.sound_toPipeline`).

What is load-bearing is that `Step.references` and `Step.conditions`, which
validation goes through, are preserved when steps take their keys for missing
ids.
-/

namespace StepFlow

/-- **Steps are declared under their ids.** -/
def Pipeline.Keyed (p : Pipeline) : Prop := ∀ key s, p.step? key = some s → s.id = key

/-- **The end of a loop leaves its step**: no step that loops leads to itself by
default. -/
def Pipeline.Exits (p : Pipeline) : Prop :=
  ∀ key s, p.step? key = some s → s.loop = none ∨ s.next.default ≠ some key

/-- **A sound pipeline**: what a run of it meets is declared and can be read. -/
structure Pipeline.Sound (p : Pipeline) : Prop where
  keyed : p.Keyed
  start : ∃ s, p.step? p.start = some s
  targets : ∀ key s, p.step? key = some s → ∀ m target, (m, target) ∈ s.references →
    target = endMarker ∨ ∃ s', p.step? target = some s'
  conditions : ∀ key s, p.step? key = some s → ∀ c ∈ s.conditions, ∃ e, Expression.parse c = .ok e

namespace Step

/-- **What validation promises of the step under `key`.** -/
structure IsValid (steps : Table Step) (key : String) (s : Step) : Prop where
  id : s.id = "" ∨ s.id = key
  tool : Unicode.isBlankText s.tool = false ∨ s.waitsForHuman = true
  targets : ∀ m target, (m, target) ∈ s.references →
    target = endMarker ∨ ∃ s', steps.get? target = some s'
  loop : s.loop = none ∨ s.next.default ≠ some key
  conditions : ∀ c ∈ s.conditions, ∃ e, Expression.parse c = .ok e

theorem isTarget_iff (steps : Table Step) (target : String) :
    isTarget steps target = true ↔ target = endMarker ∨ ∃ s, steps.get? target = some s := by
  simp [isTarget, Table.contains_iff]

theorem undeclaredTarget?_eq_none_iff (steps : Table Step) (s : Step) :
    s.undeclaredTarget? steps = none ↔ ∀ m target, (m, target) ∈ s.references →
      target = endMarker ∨ ∃ s', steps.get? target = some s' := by
  unfold undeclaredTarget?
  rw [List.find?_eq_none]
  constructor
  · intro all m target listed
    have declared := all (m, target) listed
    simpa [isTarget_iff] using declared
  · rintro all ⟨m, target⟩ listed
    simpa [isTarget_iff] using all m target listed

theorem badCondition?_eq_none_iff (cs : List String) :
    badCondition? cs = none ↔ ∀ c ∈ cs, ∃ e, Expression.parse c = .ok e := by
  induction cs with
  | nil => simp [badCondition?]
  | cons source rest ih =>
    rw [badCondition?, List.forall_mem_cons]
    cases read : Expression.parse source with
    | error e => simp
    | ok e => simp [ih]

/-- **A step has no violation exactly if it is valid.** -/
theorem violation?_eq_none_iff (steps : Table Step) (key : String) (s : Step) :
    s.violation? steps key = none ↔ IsValid steps key s := by
  unfold violation?
  -- the tests are Boolean and refuse; turned into what they ask for
  have id_iff : (!s.id.isEmpty && s.id ≠ key) = true ↔ ¬ (s.id = "" ∨ s.id = key) := by
    simp
  have tool_iff : (Unicode.isBlankText s.tool && !s.waitsForHuman) = true ↔
      ¬ (Unicode.isBlankText s.tool = false ∨ s.waitsForHuman = true) := by
    simp
  have loop_iff : (s.loop.isSome && s.next.default = some key) = true ↔
      ¬ (s.loop = none ∨ s.next.default ≠ some key) := by
    simp [Option.isSome_iff_ne_none]
  constructor
  · intro none
    split at none
    · cases none
    · rename_i id
      split at none
      · cases none
      · rename_i tool
        split at none
        · cases none
        · rename_i targets
          split at none
          · cases none
          · rename_i loop
            rw [Option.map_eq_none_iff, badCondition?_eq_none_iff] at none
            exact
              { id := Decidable.not_not.mp fun no => id (id_iff.mpr no)
                tool := Decidable.not_not.mp fun no => tool (tool_iff.mpr no)
                targets := (undeclaredTarget?_eq_none_iff steps s).mp targets
                loop := Decidable.not_not.mp fun no => loop (loop_iff.mpr no)
                conditions := none }
  · intro valid
    rw [if_neg fun no => id_iff.mp no valid.id, if_neg fun no => tool_iff.mp no valid.tool,
      (undeclaredTarget?_eq_none_iff steps s).mpr valid.targets]
    simp only
    rw [if_neg fun no => loop_iff.mp no valid.loop, Option.map_eq_none_iff,
      badCondition?_eq_none_iff]
    exact valid.conditions

end Step

namespace Definition

/-- **What validation promises of a definition.** -/
structure IsValid (d : Definition) : Prop where
  /-- The start is named. -/
  name : Unicode.isBlankText d.start = false
  start : ∃ s, d.steps.get? d.start = some s
  steps : ∀ key s, d.steps.get? key = some s → s.IsValid d.steps key

theorem violation?_eq_none_iff (d : Definition) : d.violation? = none ↔ d.IsValid := by
  have steps_iff : (d.steps.entries.findSome? fun e => e.2.violation? d.steps e.1) = none ↔
      ∀ key s, d.steps.get? key = some s → s.IsValid d.steps key := by
    rw [List.findSome?_eq_none_iff]
    constructor
    · intro all key s found
      exact (Step.violation?_eq_none_iff _ _ _).mp
        (all (key, s) ((d.steps.mem_entries_iff key s).mpr found))
    · rintro all ⟨key, s⟩ listed
      exact (Step.violation?_eq_none_iff _ _ _).mpr
        (all key s ((d.steps.mem_entries_iff key s).mp listed))
  unfold violation?
  constructor
  · intro none
    split at none
    · cases none
    · rename_i name
      split at none
      · cases none
      · split at none
        · cases none
        · rename_i start
          exact
            { name := Bool.eq_false_iff.mpr name
              start := by simpa [Table.contains_iff] using start
              steps := steps_iff.mp none }
  · intro valid
    have nonempty : d.steps.isEmpty = false := by
      obtain ⟨s, found⟩ := valid.start
      have listed := (d.steps.mem_entries_iff d.start s).mpr found
      unfold Table.isEmpty
      exact List.isEmpty_eq_false_iff.mpr (List.ne_nil_of_mem listed)
    have declared : d.steps.contains d.start = true :=
      (d.steps.contains_iff d.start).mpr valid.start
    simp only [valid.name, nonempty, declared, Bool.not_true, Bool.false_eq_true, if_false]
    exact steps_iff.mpr valid.steps

/-- **A definition is accepted exactly if it is valid.** -/
theorem validate_eq_ok (d : Definition) : d.validate = .ok () ↔ d.IsValid := by
  rw [← violation?_eq_none_iff]
  unfold validate
  cases d.violation? <;> simp

end Definition

/-! ### Steps that take their keys -/

@[simp] theorem Step.references_withDefaultId (s : Step) (key : String) :
    (s.withDefaultId key).references = s.references := by
  unfold withDefaultId
  split <;> rfl

@[simp] theorem Step.conditions_withDefaultId (s : Step) (key : String) :
    (s.withDefaultId key).conditions = s.conditions := by
  unfold withDefaultId
  split <;> rfl

@[simp] theorem Step.tool_withDefaultId (s : Step) (key : String) :
    (s.withDefaultId key).tool = s.tool := by
  unfold withDefaultId
  split <;> rfl

@[simp] theorem Step.next_withDefaultId (s : Step) (key : String) :
    (s.withDefaultId key).next = s.next := by
  unfold withDefaultId
  split <;> rfl

@[simp] theorem Step.waitsForHuman_withDefaultId (s : Step) (key : String) :
    (s.withDefaultId key).waitsForHuman = s.waitsForHuman := by
  unfold withDefaultId
  split <;> rfl

@[simp] theorem Step.loop_withDefaultId (s : Step) (key : String) :
    (s.withDefaultId key).loop = s.loop := by
  unfold withDefaultId
  split <;> rfl

theorem Step.id_withDefaultId {s : Step} {key : String} (h : s.id = "" ∨ s.id = key) :
    (s.withDefaultId key).id = key := by
  unfold withDefaultId
  by_cases missing : s.id.isEmpty = true
  · rw [if_pos missing]
  · rw [if_neg missing]
    refine h.resolve_left ?_
    rintro empty
    simp [empty] at missing

/-- The steps of a pipeline are those of its definition, with ids. -/
theorem Definition.step?_toPipeline (d : Definition) (id key : String) :
    (d.toPipeline id).step? key = (d.steps.get? key).map (·.withDefaultId key) :=
  d.get?_fillIds key

/-- **A valid definition makes a sound pipeline.** -/
theorem Definition.sound_toPipeline {d : Definition} (valid : d.validate = .ok ()) (id : String) :
    (d.toPipeline id).Sound := by
  have valid := d.validate_eq_ok.mp valid
  have declared {key : String} (found : ∃ s, d.steps.get? key = some s) :
      ∃ s, (d.toPipeline id).step? key = some s := by
    obtain ⟨s, found⟩ := found
    exact ⟨s.withDefaultId key, by rw [step?_toPipeline, found, Option.map_some]⟩
  have original {key : String} {s : Step} (found : (d.toPipeline id).step? key = some s) :
      ∃ s', d.steps.get? key = some s' ∧ s'.withDefaultId key = s := by
    rw [step?_toPipeline] at found
    exact Option.map_eq_some_iff.mp found
  refine ⟨?_, declared valid.start, ?_, ?_⟩
  · intro key s found
    obtain ⟨s', stored, rfl⟩ := original found
    exact Step.id_withDefaultId (valid.steps key s' stored).id
  · intro key s found m target listed
    obtain ⟨s', stored, rfl⟩ := original found
    rw [Step.references_withDefaultId] at listed
    exact ((valid.steps key s' stored).targets m target listed).imp_right declared
  · intro key s found c listed
    obtain ⟨s', stored, rfl⟩ := original found
    rw [Step.conditions_withDefaultId] at listed
    exact (valid.steps key s' stored).conditions c listed

/-- In the pipeline of a valid definition the end of a loop leaves its step. -/
theorem Definition.exits_toPipeline {d : Definition} (valid : d.validate = .ok ())
    (id : String) : (d.toPipeline id).Exits := by
  intro key s hs
  rw [step?_toPipeline] at hs
  obtain ⟨s', stored, rfl⟩ := Option.map_eq_some_iff.mp hs
  rw [Step.loop_withDefaultId, Step.next_withDefaultId]
  exact ((d.validate_eq_ok.mp valid).steps key s' stored).loop

/-! ### Definitions without missing ids -/

/-- No step lacks an id that it could take from its key. -/
def Definition.Filled (d : Definition) : Prop := d.fillIds = d

theorem Definition.filled_iff (d : Definition) :
    d.Filled ↔ ∀ key s, d.steps.get? key = some s → s.withDefaultId key = s := by
  unfold Filled
  constructor
  · intro filled key s found
    have looked := d.get?_fillIds key
    rw [filled, found, Option.map_some, Option.some.injEq] at looked
    exact looked.symm
  · intro filled
    have steps : d.fillIds.steps = d.steps := Table.ext_get? fun key => by
      rw [d.get?_fillIds]
      cases found : d.steps.get? key with
      | none => rfl
      | some s => rw [Option.map_some, filled key s found]
    calc d.fillIds = { d with steps := d.fillIds.steps } := rfl
      _ = { d with steps := d.steps } := by rw [steps]
      _ = d := rfl

/-- A stored definition has no missing ids. -/
theorem Definition.filled_toPipeline (d : Definition) (id : String) :
    (d.toPipeline id).toDefinition.Filled :=
  d.fillIds_fillIds

/-- A step under its key lacks no id. -/
theorem Step.withDefaultId_of_id_eq {s : Step} {key : String} (h : s.id = key) :
    s.withDefaultId key = s := by
  unfold withDefaultId
  split
  · rw [← h]
  · rfl

/-- A keyed pipeline has no missing ids. -/
theorem Pipeline.Keyed.filled {p : Pipeline} (keyed : p.Keyed) : p.toDefinition.Filled :=
  p.toDefinition.filled_iff.mpr fun key s found =>
    Step.withDefaultId_of_id_eq (keyed key s found)

end StepFlow
