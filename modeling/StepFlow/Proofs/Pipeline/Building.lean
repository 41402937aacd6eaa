import Mathlib.Data.List.Induction
import Mathlib.Data.List.Nodup
import StepFlow.Pipeline.Builder
import StepFlow.Proofs.Pipeline.Validity

/-!
# Pipelines that are built piece by piece

A builder takes its pieces in any order and reports what is wrong with them at the end.  Here is
what it comes to, told by the pieces alone (`Builder.collected`): of a field that was set more than
once the last value counts, and the tables have their entries from all pieces that add to them.

Steps are the exception, because two steps under one id are refused.  That a step id came twice is
noticed while the pieces come in, against the steps that are there already, and what is
load-bearing is that nothing else is looked at (`Builder.repeated_ofPieces_eq_nil_iff`).  So the
order of steps with distinct ids has no influence, neither on the pipeline nor on the violation that
is reported (`Builder.collected_eq_of_perm`).
-/

namespace StepFlow

namespace Entries

variable {α : Type} {a b : Entries α}

/-- Among distinct keys, what is found under a key is what is listed with it. -/
theorem get?_eq_some_iff (distinct : (a.map (·.1)).Nodup) (key : String) (v : α) :
    get? key a = some v ↔ (key, v) ∈ a := by
  constructor
  · exact mem_of_get?
  · intro listed
    induction a with
    | nil => cases listed
    | cons e rest ih =>
      obtain ⟨k, w⟩ := e
      rw [List.map_cons, List.nodup_cons] at distinct
      rw [get?_cons]
      rcases List.mem_cons.mp listed with here | later
      · cases here
        rw [if_pos rfl]
      · have other : k ≠ key := by
          rintro rfl
          exact distinct.1 (List.mem_map.mpr ⟨_, later, rfl⟩)
        rw [if_neg other, ih distinct.2 later]

end Entries

namespace Table

variable {α : Type} {a b : Entries α}

theorem get?_ofEntries_eq_some_iff (distinct : (a.map (·.1)).Nodup) (key : String) (v : α) :
    (ofEntries a).get? key = some v ↔ (key, v) ∈ a := by
  rw [ofEntries, get?_insertAll _ distinct, get?_empty, Option.or_none,
    Entries.get?_eq_some_iff distinct]

/-- **The order of entries with distinct keys does not count.** -/
theorem ofEntries_eq_of_perm (distinct : (a.map (·.1)).Nodup) (perm : a.Perm b) :
    ofEntries a = ofEntries b := by
  have distinct' : (b.map (·.1)).Nodup := (perm.map _).nodup distinct
  refine ext_get? fun key => Option.ext fun v => ?_
  rw [get?_ofEntries_eq_some_iff distinct, get?_ofEntries_eq_some_iff distinct', perm.mem_iff]

/-- The last entry is written last. -/
theorem ofEntries_concat (a : Entries α) (key : String) (v : α) :
    ofEntries (a ++ [(key, v)]) = (ofEntries a).insert key v := List.foldl_concat ..

/-- The keys of a table are those of the entries it is made of. -/
theorem contains_ofEntries_iff (a : Entries α) (key : String) :
    (ofEntries a).contains key = true ↔ key ∈ a.map (·.1) := by
  induction a using List.reverseRecOn with
  | nil => simp [ofEntries, insertAll, contains]
  | append_singleton a e ih =>
    obtain ⟨k, v⟩ := e
    unfold contains at ih ⊢
    rw [ofEntries_concat, get?_insert, List.map_append, List.mem_append, ← ih]
    split
    · rename_i here
      simp [here]
    · rename_i other
      simp [Ne.symm other]

end Table

/-- **A piece of a pipeline**, as it is given to a builder. -/
inductive Piece where
  | id (id : String)
  | description (text : String)
  | start (step : String)
  | step (s : Step)
  | globalState (key : String) (value : Value)
  | metadata (key : String) (value : Value)
  | onComplete (tool : String)
  | onError (tool : String)

namespace Piece

/-! ### What a piece sets or adds -/

def id? : Piece → Option String
  | id i => some i
  | _ => none

def description? : Piece → Option String
  | description text => some text
  | _ => none

def start? : Piece → Option String
  | start s => some s
  | _ => none

def step? : Piece → Option Step
  | step s => some s
  | _ => none

def globalState? : Piece → Option (String × Value)
  | globalState key value => some (key, value)
  | _ => none

def metadata? : Piece → Option (String × Value)
  | metadata key value => some (key, value)
  | _ => none

def onComplete? : Piece → Option String
  | onComplete tool => some tool
  | _ => none

def onError? : Piece → Option String
  | onError tool => some tool
  | _ => none

/-- **What pieces add** to a table, in their order. -/
def listed {α : Type} (field : Piece → Option α) (ps : List Piece) : List α := ps.filterMap field

/-- **The last value that pieces set** for a field. -/
def last {α : Type} (field : Piece → Option α) (ps : List Piece) : Option α :=
  (listed field ps).getLast?

/-- The ids of the steps among some pieces. -/
def stepIds (ps : List Piece) : List String := (listed step? ps).map (·.id)

/-- The pieces that are no steps. -/
def others (ps : List Piece) : List Piece := ps.filter fun p => p.step?.isNone

variable {α : Type} (field : Piece → Option α) (ps : List Piece) (p : Piece)

theorem listed_concat : listed field (ps ++ [p]) = listed field ps ++ (field p).toList := by
  unfold listed
  rw [List.filterMap_append]
  cases set : field p <;> simp [set]

/-- What steps do not set is set by the other pieces. -/
theorem listed_others (spared : ∀ s, field (.step s) = none) :
    listed field (others ps) = listed field ps := by
  unfold listed others
  rw [List.filterMap_filter]
  refine List.filterMap_congr fun p _ => ?_
  cases p with
  | step s => exact (spared s).symm
  | _ => rfl

theorem last_concat : last field (ps ++ [p]) = (field p).or (last field ps) := by
  rw [last, listed_concat, List.getLast?_append]
  cases field p <;> rfl

end Piece

namespace Builder

open Piece

/-- Adds a piece. -/
def add (b : Builder) : Piece → Builder
  | .id i => { b with id := some i }
  | .description text => { b with description := text }
  | .start s => { b with start := some s }
  | .step s => b.addStep s
  | .globalState key value => { b with globalState := b.globalState.insert key value }
  | .metadata key value => { b with metadata := b.metadata.insert key value }
  | .onComplete tool => { b with onComplete := some tool }
  | .onError tool => { b with onError := some tool }

/-- **A builder with its pieces**, which came one after another. -/
def ofPieces (name : String) (ps : List Piece) : Builder := ps.foldl add { name }

/-- **The definition that pieces make up**, once its start is known. -/
def collected (name : String) (ps : List Piece) (start : String) : Definition where
  name
  description := (last description? ps).getD ""
  start
  steps := .ofEntries ((listed step? ps).map fun s => (s.id, s))
  globalState := .ofEntries (listed globalState? ps)
  onComplete := last onComplete? ps
  onError := last onError? ps
  metadata := .ofEntries (listed metadata? ps)

/-- **A builder has the fields that its pieces set.** -/
structure Gathers (b : Builder) (name : String) (ps : List Piece) : Prop where
  id : b.id = last id? ps
  start : b.start = last start? ps
  definition : ∀ start, b.definition start = collected name ps start

/-- Every piece sets its field, or adds to its table. -/
theorem Gathers.add {b : Builder} {name : String} {ps : List Piece} (h : b.Gathers name ps)
    (p : Piece) : (b.add p).Gathers name (ps ++ [p]) := by
  have defined (start : String) := h.definition start
  simp only [Builder.definition, collected, Definition.mk.injEq] at defined
  constructor
  · cases p <;> simp [Builder.add, addStep, last_concat, id?, h.id]
  · cases p <;> simp [Builder.add, addStep, last_concat, start?, h.start]
  · intro start
    simp only [Builder.definition, collected, Definition.mk.injEq]
    cases p <;> simp [Builder.add, addStep, last_concat, listed_concat, Table.ofEntries_concat,
      description?, step?, globalState?, metadata?, onComplete?, onError?, defined start]

variable (name : String) (ps : List Piece)

theorem ofPieces_concat (p : Piece) : ofPieces name (ps ++ [p]) = (ofPieces name ps).add p :=
  List.foldl_concat ..

/-- **What a builder has collected is what its pieces make up.** -/
theorem gathers_ofPieces : (ofPieces name ps).Gathers name ps := by
  induction ps using List.reverseRecOn with
  | nil => exact ⟨rfl, rfl, fun _ => rfl⟩
  | append_singleton ps p ih =>
    rw [ofPieces_concat]
    exact ih.add p

/-- **An id is noted as repeated if a step had it before**, so none is if the ids are distinct. -/
theorem repeated_ofPieces_eq_nil_iff : (ofPieces name ps).repeated = [] ↔ (stepIds ps).Nodup := by
  induction ps using List.reverseRecOn with
  | nil => exact iff_of_true rfl List.nodup_nil
  | append_singleton ps p ih =>
    have gathered := (gathers_ofPieces name ps).definition ""
    have steps : (ofPieces name ps).steps = .ofEntries ((listed step? ps).map fun s => (s.id, s)) :=
      congrArg Definition.steps gathered
    rw [ofPieces_concat, stepIds, listed_concat]
    cases p with
    | step s =>
      have known : (ofPieces name ps).steps.contains s.id = true ↔ s.id ∈ stepIds ps := by
        rw [steps, Table.contains_ofEntries_iff, List.map_map]
        rfl
      show (if (ofPieces name ps).steps.contains s.id then (ofPieces name ps).repeated ++ [s.id]
        else (ofPieces name ps).repeated) = [] ↔ ((listed step? ps ++ [s]).map (·.id)).Nodup
      rw [List.map_append, List.map_singleton, List.nodup_append_comm, List.singleton_append,
        List.nodup_cons, ← stepIds, ← ih, ← known]
      split
      · rename_i again
        simp [again]
      · rename_i new
        simp [new]
    | _ =>
      rw [show (step? _).toList = [] from rfl, List.append_nil]
      exact ih

/-- A step id that came twice is what a builder reports first. -/
theorem build_of_not_nodup (again : ¬ (stepIds ps).Nodup) (fresh : String) :
    ∃ id, (ofPieces name ps).build fresh = .error (.duplicateStep id) := by
  rw [← repeated_ofPieces_eq_nil_iff name] at again
  unfold build
  cases repeated : (ofPieces name ps).repeated with
  | nil => exact absurd repeated again
  | cons id rest => exact ⟨id, rfl⟩

/-- It does not matter that there is no start. -/
example : (ofPieces "p" [.step (.calling "a" "t"), .step (.calling "a" "u")]).build "1" =
    .error (.duplicateStep "a") := rfl

/-- **What a builder comes to** if no step id came twice: a missing start is reported, or else the
first violation of the definition that was collected. -/
theorem build_of_nodup (distinct : (stepIds ps).Nodup) (fresh : String) :
    (ofPieces name ps).build fresh =
      match last start? ps with
      | none => .error .noStart
      | some start => (collected name ps start).validate.map fun _ =>
          (collected name ps start).toPipeline ((last id? ps).getD fresh) := by
  obtain ⟨id, start, definition⟩ := gathers_ofPieces name ps
  rw [← repeated_ofPieces_eq_nil_iff name] at distinct
  unfold build
  rw [distinct, id, start]
  simp only [definition]
  cases last start? ps with
  | none => rfl
  | some start => cases (collected name ps start).validate <;> rfl

/-- **When a builder succeeds**, and with which pipeline. -/
theorem build_eq_ok_iff (fresh : String) (q : Pipeline) :
    (ofPieces name ps).build fresh = .ok q ↔ (stepIds ps).Nodup ∧
      ∃ start, last start? ps = some start ∧ (collected name ps start).validate = .ok () ∧
        (collected name ps start).toPipeline ((last id? ps).getD fresh) = q := by
  by_cases distinct : (stepIds ps).Nodup
  · rw [build_of_nodup name ps distinct]
    cases last start? ps with
    | none => simp
    | some start =>
      cases valid : (collected name ps start).validate <;> simp [Except.map, valid, distinct]
  · obtain ⟨id, failed⟩ := build_of_not_nodup name ps distinct fresh
    rw [failed]
    exact ⟨nofun, fun built => absurd built.1 distinct⟩

/-- Steps with distinct ids are found under their ids. -/
theorem get?_steps_collected (distinct : (stepIds ps).Nodup) (start key : String) (s : Step) :
    (collected name ps start).steps.get? key = some s ↔ s ∈ listed step? ps ∧ s.id = key := by
  have keys : (((listed step? ps).map fun s => (s.id, s)).map (·.1)).Nodup := by
    rwa [List.map_map]
  refine (Table.get?_ofEntries_eq_some_iff keys key s).trans ?_
  rw [List.mem_map]
  constructor
  · rintro ⟨t, given, same⟩
    cases same
    exact ⟨given, rfl⟩
  · rintro ⟨given, rfl⟩
    exact ⟨s, given, rfl⟩

/-- So they lack no ids. -/
theorem filled_collected (distinct : (stepIds ps).Nodup) (start : String) :
    (collected name ps start).Filled := by
  rw [Definition.filled_iff]
  intro key s found
  have given := (get?_steps_collected name ps distinct start key s).mp found
  exact Step.withDefaultId_of_id_eq given.2

variable {ps} {qs : List Piece}

/-- **The order of steps with distinct ids does not count** in a definition. -/
theorem collected_eq_of_perm (distinct : (stepIds ps).Nodup) (same : others qs = others ps)
    (perm : (listed step? qs).Perm (listed step? ps)) (start : String) :
    collected name qs start = collected name ps start := by
  have fields {α : Type} (field : Piece → Option α) (spared : ∀ s, field (.step s) = none) :
      listed field qs = listed field ps := by
    rw [← listed_others field qs spared, same, listed_others field ps spared]
  have keys : (((listed step? ps).map fun s => (s.id, s)).map (·.1)).Nodup := by
    rwa [List.map_map]
  have steps := Table.ofEntries_eq_of_perm keys (perm.symm.map fun s => (s.id, s))
  unfold collected last
  rw [fields description? fun _ => rfl, fields globalState? fun _ => rfl,
    fields onComplete? fun _ => rfl, fields onError? fun _ => rfl, fields metadata? fun _ => rfl,
    steps]

/-- **What a builder comes to**, told by its pieces. -/
structure Builds (name : String) (ps : List Piece) : Prop where
  /-- Whatever start it has, it has collected the definition that its pieces make up. -/
  collects : ∀ start, (ofPieces name ps).definition start = collected name ps start
  /-- It succeeds exactly if no two steps have one id, a start was set, and the definition that was
  collected is valid. -/
  succeeds : ∀ fresh, (∃ q, (ofPieces name ps).build fresh = .ok q) ↔
    (stepIds ps).Nodup ∧ ∃ start, last start? ps = some start ∧
      (collected name ps start).validate = .ok ()
  /-- The pipeline is the definition that was collected, under the id that was set or a fresh one,
  and it has exactly the steps that were given, each under its own id. -/
  holds : ∀ fresh q, (ofPieces name ps).build fresh = .ok q →
    q.id = (last id? ps).getD fresh ∧ last start? ps = some q.start ∧
      q.toDefinition = collected name ps q.start ∧
      ∀ key s, q.steps.get? key = some s ↔ s ∈ listed step? ps ∧ s.id = key
  /-- The order of steps with distinct ids has no influence on what it comes to, but for a fresh
  id. -/
  reordered : ∀ qs, others qs = others ps → (listed step? qs).Perm (listed step? ps) →
    (stepIds ps).Nodup → ∀ fresh fresh',
      (ofPieces name qs).build fresh' = ((ofPieces name ps).build fresh).map fun q =>
        { q with id := (last id? ps).getD fresh' }

/-- **What builders come to**, whatever pieces they are given. -/
theorem builds (name : String) (ps : List Piece) : Builds name ps where
  collects := (gathers_ofPieces name ps).definition
  succeeds fresh := by
    simp only [build_eq_ok_iff]
    constructor
    · rintro ⟨q, distinct, start, set, valid, -⟩
      exact ⟨distinct, start, set, valid⟩
    · rintro ⟨distinct, start, set, valid⟩
      exact ⟨_, distinct, start, set, valid, rfl⟩
  holds fresh q built := by
    obtain ⟨distinct, start, set, -, rfl⟩ := (build_eq_ok_iff name ps fresh q).mp built
    have filled := filled_collected name ps distinct start
    refine ⟨rfl, set, filled, fun key s => ?_⟩
    rw [← get?_steps_collected name ps distinct start key s]
    show (collected name ps start).fillIds.steps.get? key = some s ↔ _
    rw [filled]
  reordered qs same perm distinct fresh fresh' := by
    have distinct' : (stepIds qs).Nodup := (perm.map _).nodup_iff.mpr distinct
    have fields {α : Type} (field : Piece → Option α) (spared : ∀ s, field (.step s) = none) :
        last field qs = last field ps := by
      unfold last
      rw [← listed_others field qs spared, same, listed_others field ps spared]
    rw [build_of_nodup name ps distinct, build_of_nodup name qs distinct',
      fields id? fun _ => rfl, fields start? fun _ => rfl]
    cases last start? ps with
    | none => rfl
    | some start =>
      simp only [collected_eq_of_perm name distinct same perm]
      cases (collected name ps start).validate <;> rfl

end Builder

end StepFlow
