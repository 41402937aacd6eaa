import StepFlow.Pipeline.Load
import StepFlow.Proofs.Pipeline.Validity

/-!
# Which definitions are accepted

`Step.IsValid` says what validation promises in the terms that a run needs: every reference is
declared, every condition can be read.  Here the same is said field by field (`WellFormed`), so
that nothing hangs on what `Step.references` and `Step.conditions` list.

A builder checks a definition and fills in the missing ids afterwards; a loader fills them in
first.  Both report the same (`Definition.accepts`): a step under its key for an id passes the
test of ids just as a step without one, no other test looks at ids, and the keys stay.  This holds
of the first violation itself and not only of acceptance, because the steps are gone through in
the same order before and after.
-/

namespace StepFlow

/-- **A well-formed step** under `key`, among steps of which `declared` tells the keys. -/
structure Step.WellFormed (declared : String → Prop) (key : String) (s : Step) : Prop where
  id : s.id = "" ∨ s.id = key
  /-- A tool is named, by more than blanks, or a person is waited for. -/
  tool : (∃ c ∈ s.tool.toList, Unicode.isBlank c = false) ∨ s.waitsForHuman = true
  next : ∀ target, s.next.default = some target → target = endMarker ∨ declared target
  branches : ∀ b ∈ s.next.branches, b.target = endMarker ∨ declared b.target
  onSuccess : ∀ target, s.onSuccess = some target → target = endMarker ∨ declared target
  onFailure : ∀ target, s.onFailure = some target → target = endMarker ∨ declared target
  /-- The end of a loop leaves the step. -/
  exit : s.loop ≠ none → s.next.default ≠ some key
  conditions : ∀ b ∈ s.next.branches, ∃ e, Expression.parse b.condition = .ok e
  loopCondition : ∀ l c, s.loop = some l → l.condition? = some c → ∃ e, Expression.parse c = .ok e

/-- **A well-formed definition.** -/
structure Definition.WellFormed (d : Definition) : Prop where
  name : ∃ c ∈ d.start.toList, Unicode.isBlank c = false
  start : ∃ s, d.steps.get? d.start = some s
  steps : ∀ key s, d.steps.get? key = some s →
    s.WellFormed (fun target => ∃ s', d.steps.get? target = some s') key

theorem Unicode.isBlankText_eq_false_iff (text : String) :
    isBlankText text = false ↔ ∃ c ∈ text.toList, isBlank c = false := by
  simp [isBlankText]

namespace Step

theorem mem_conditions_iff (s : Step) (c : String) :
    c ∈ s.conditions ↔
      (∃ b ∈ s.next.branches, b.condition = c) ∨ ∃ l, s.loop = some l ∧ l.condition? = some c := by
  simp only [conditions, List.mem_append, List.mem_map, Option.mem_toList, Option.bind_eq_some_iff]

/-- A step is valid exactly if it is well-formed. -/
theorem isValid_iff (steps : Table Step) (key : String) (s : Step) :
    IsValid steps key s ↔ s.WellFormed (fun target => ∃ s', steps.get? target = some s') key := by
  constructor
  · intro valid
    have target (m : Mention) (t : String) (listed : (m, t) ∈ s.references) :=
      valid.targets m t listed
    simp only [mem_references_iff] at target
    have reads (c : String) (listed : c ∈ s.conditions) := valid.conditions c listed
    simp only [mem_conditions_iff] at reads
    exact
      { id := valid.id
        tool := valid.tool.imp_left (Unicode.isBlankText_eq_false_iff _).mp
        next := fun t set => target .next t (.inl ⟨rfl, set⟩)
        branches := fun b listed => target .branchTarget _ (.inr (.inl ⟨rfl, b, listed, rfl⟩))
        onSuccess := fun t set => target .onSuccess t (.inr (.inr (.inl ⟨rfl, set⟩)))
        onFailure := fun t set => target .onFailure t (.inr (.inr (.inr ⟨rfl, set⟩)))
        exit := fun loops => valid.loop.resolve_left loops
        conditions := fun b listed => reads _ (.inl ⟨b, listed, rfl⟩)
        loopCondition := fun l c set stated => reads c (.inr ⟨l, set, stated⟩) }
  · intro formed
    refine
      { id := formed.id
        tool := formed.tool.imp_left (Unicode.isBlankText_eq_false_iff _).mpr
        targets := ?_
        loop := Classical.or_iff_not_imp_left.mpr formed.exit
        conditions := ?_ }
    · intro m t mentioned
      rcases (mem_references_iff s m t).mp mentioned with
        ⟨-, set⟩ | ⟨-, b, listed, rfl⟩ | ⟨-, set⟩ | ⟨-, set⟩
      · exact formed.next t set
      · exact formed.branches b listed
      · exact formed.onSuccess t set
      · exact formed.onFailure t set
    · intro c mentioned
      rcases (mem_conditions_iff s c).mp mentioned with ⟨b, listed, rfl⟩ | ⟨l, set, stated⟩
      · exact formed.conditions b listed
      · exact formed.loopCondition l c set stated

/-! ### Checking before and after ids are filled in -/

/-- A step is checked against the keys of the others, and nothing else of them. -/
theorem violation?_congr {steps steps' : Table Step}
    (same : ∀ target, steps.contains target = steps'.contains target) (key : String) (s : Step) :
    s.violation? steps key = s.violation? steps' key := by
  have targets : s.undeclaredTarget? steps = s.undeclaredTarget? steps' := by
    simp only [undeclaredTarget?, isTarget, same]
  simp only [violation?, targets]

/-- **A step that takes its key has the violation it had before.** -/
theorem violation?_withDefaultId (steps : Table Step) (key : String) (s : Step) :
    (s.withDefaultId key).violation? steps key = s.violation? steps key := by
  unfold withDefaultId
  by_cases missing : s.id.isEmpty = true
  · rw [if_pos missing]
    -- both pass the test of ids: the one has its key, the other has none
    have own : (!key.isEmpty && (key ≠ key : Bool)) = false := by simp
    have none : (!s.id.isEmpty && (s.id ≠ key : Bool)) = false := by simp [missing]
    unfold violation?
    rw [own, none]
    rfl
  · rw [if_neg missing]

end Step

namespace Definition

/-- A definition is accepted exactly if it is well-formed. -/
theorem validate_eq_ok_iff (d : Definition) : d.validate = .ok () ↔ d.WellFormed := by
  rw [validate_eq_ok]
  constructor
  · intro valid
    exact
      { name := (Unicode.isBlankText_eq_false_iff _).mp valid.name
        start := valid.start
        steps := fun key s found => (Step.isValid_iff _ key s).mp (valid.steps key s found) }
  · intro formed
    exact
      { name := (Unicode.isBlankText_eq_false_iff _).mpr formed.name
        start := formed.start
        steps := fun key s found => (Step.isValid_iff _ key s).mpr (formed.steps key s found) }

theorem contains_fillIds (d : Definition) (key : String) :
    d.fillIds.steps.contains key = d.steps.contains key := by
  unfold Table.contains
  rw [get?_fillIds, Option.isSome_map]

/-- **Filling in ids changes no first violation.** -/
theorem violation?_fillIds (d : Definition) : d.fillIds.violation? = d.violation? := by
  have empty : d.fillIds.steps.isEmpty = d.steps.isEmpty := List.isEmpty_map
  have steps : (d.fillIds.steps.entries.findSome? fun e => e.2.violation? d.fillIds.steps e.1) =
      d.steps.entries.findSome? fun e => e.2.violation? d.steps e.1 := by
    calc (d.fillIds.steps.entries.findSome? fun e => e.2.violation? d.fillIds.steps e.1)
        = d.steps.entries.findSome? fun e =>
            (e.2.withDefaultId e.1).violation? d.fillIds.steps e.1 := List.findSome?_map
      _ = d.steps.entries.findSome? fun e => e.2.violation? d.steps e.1 := by
          simp only [Step.violation?_withDefaultId, Step.violation?_congr d.contains_fillIds]
  unfold violation?
  rw [empty, contains_fillIds, steps]
  rfl

/-- **Which definitions are accepted**: exactly those that are well-formed.  It makes no difference
whether ids are filled in before or after: the verdict is the same, and so is the first violation.
So a definition that is loaded, and given its ids first, is accepted or refused as it stands. -/
theorem accepts (d : Definition) :
    (d.validate = .ok () ↔ d.WellFormed) ∧
      d.fillIds.validate = d.validate ∧
      d.checked = (d.validate.mapError LoadError.invalid).map fun _ => d.fillIds := by
  refine ⟨d.validate_eq_ok_iff, ?_, ?_⟩
  · unfold validate
    rw [violation?_fillIds]
  · unfold checked validate
    rw [violation?_fillIds]
    cases d.violation? <;> rfl

end Definition

end StepFlow
