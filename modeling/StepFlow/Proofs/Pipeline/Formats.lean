import Mathlib.Data.List.Permutation
import StepFlow.Pipeline.Load
import StepFlow.Pipeline.Patch
import StepFlow.Proofs.Document.Records
import StepFlow.Proofs.Pipeline.Validity

/-!
# What is written reads back

Definitions, pipelines, patches and their parts are written as values and read back
as they were (`formats_read_back`), whatever fields are there, and loading a valid
definition that was written gives it with the missing ids of its steps.

Writer and reader are separate conventions.  They meet field by field: each of the
equations below says that one field of what was written is read as it was, and a
record is read back because all its fields are.
-/

namespace StepFlow

open Document

/-! ### Steps -/

theorem Binding.read_toValue (b : Binding) : Binding.read b.toValue = some b := by
  cases b with
  | static v =>
    refine read_variant (by simp) fun content opens => ?_
    obtain ⟨f, opened, shows⟩ := opens ["value"] (by simp)
    have value : f.required value? "value" = some v := Fields.required_eq (shows "value" (by simp))
    simp only [opened, Option.bind_eq_bind, Option.bind_some, value]
    rfl
  | dynamic source path =>
    refine read_variant (by simp) fun content opens => ?_
    obtain ⟨f, opened, shows⟩ := opens ["sourceStepId", "outputPath"] (by simp)
    have source' : f.required text? "sourceStepId" = some source :=
      Fields.required_eq (shows "sourceStepId" (by simp))
    have path' : f.withDefault "" text? "outputPath" = some path :=
      Fields.withDefault_eq_read (shows "outputPath" (by simp))
    simp only [opened, Option.bind_eq_bind, Option.bind_some, source', path']
    rfl

theorem Branch.read_toValue (b : Branch) : Branch.read b.toValue = some b := by
  refine read_record (by simp) fun f shows => ?_
  have name : f.optional text? "name" = some b.name :=
    Fields.optional_text_eq (shows "name" (by simp))
  have condition : f.required text? "condition" = some b.condition :=
    Fields.required_eq (shows "condition" (by simp))
  have target : f.required text? "target" = some b.target :=
    Fields.required_eq (shows "target" (by simp))
  rw [name, condition, target]
  rfl

theorem Next.read_toValue (n : Next) : Next.read n.toValue = some n := by
  refine read_record (by simp) fun f shows => ?_
  have default : f.optional text? "default" = some n.default :=
    Fields.optional_text_eq (shows "default" (by simp))
  have branches : f.withDefault [] (list? Branch.read) "conditions" = some n.branches :=
    Fields.withDefault_eq (shows "conditions" (by simp))
      (fun _ => list?_ofList Branch.read_toValue n.branches) (by simp)
  rw [default, branches]
  rfl

/-- The content of a loop with a condition. -/
theorem Loop.read_conditional {content : Content Value} {condition : String} {limit : UInt32}
    (opens : ∀ names, "type" ∉ names → ∃ f : Fields Value, content.fields? names = some f ∧
      ∀ name ∈ names, f.get? name =
        (Entries.get? name [("condition", some (.str condition)),
          ("maxIterations", some (.ofNat limit.toNat))]).join)
    (make : String → UInt32 → Loop) :
    (do
      let f ← content.fields? ["condition", "maxIterations"]
      return make (← f.required text? "condition") (← f.required uint32? "maxIterations")) =
      some (make condition limit) := by
  obtain ⟨f, opened, shows⟩ := opens ["condition", "maxIterations"] (by simp)
  have condition' : f.required text? "condition" = some condition :=
    Fields.required_eq (shows "condition" (by simp))
  have limit' : f.required uint32? "maxIterations" = some limit :=
    (Fields.required_eq (shows "maxIterations" (by simp))).trans (uint32?_ofNat limit)
  simp only [opened, Option.bind_eq_bind, Option.bind_some, condition', limit']
  rfl

theorem Loop.read_toValue (l : Loop) : Loop.read l.toValue = some l := by
  cases l with
  | counting start increment limit =>
    refine read_variant (by simp) fun content opens => ?_
    obtain ⟨f, opened, shows⟩ := opens ["initialValue", "increment", "maxIterations"] (by simp)
    have start' : f.withDefault 0 int64? "initialValue" = some start :=
      (Fields.withDefault_eq_read (shows "initialValue" (by simp))).trans (int64?_int start)
    have increment' : f.withDefault 1 int64? "increment" = some increment :=
      (Fields.withDefault_eq_read (shows "increment" (by simp))).trans (int64?_int increment)
    have limit' : f.required uint32? "maxIterations" = some limit :=
      (Fields.required_eq (shows "maxIterations" (by simp))).trans (uint32?_ofNat limit)
    simp only [Loop.kind, opened, Option.bind_eq_bind, Option.bind_some, start', increment', limit']
    rfl
  | whileTrue condition limit =>
    exact read_variant (by simp) fun _ opens => Loop.read_conditional opens .whileTrue
  | untilTrue condition limit =>
    exact read_variant (by simp) fun _ opens => Loop.read_conditional opens .untilTrue

/-- A table that is left out is empty. -/
theorem Table.eq_empty_of_left_out {α : Type} {t : Table α} (left : (!t.isEmpty) = false) :
    t = .empty := by
  obtain ⟨entries, sorted⟩ := t
  simp only [Table.isEmpty, Bool.not_eq_false', List.isEmpty_iff] at left
  subst left
  rfl

theorem Step.read_toValue (s : Step) : Step.read s.toValue = some s := by
  refine read_record (by simp) fun f shows => ?_
  have id : f.withDefault "" text? "id" = some s.id :=
    Fields.withDefault_eq_read (shows "id" (by simp [fieldNames]))
  have tool : f.withDefault "" text? "toolName" = some s.tool :=
    Fields.withDefault_eq_read (shows "toolName" (by simp [fieldNames]))
  have parameters : f.withDefault .empty (table? Binding.read) "parameters" = some s.parameters :=
    Fields.withDefault_eq (shows "parameters" (by simp [fieldNames]))
      (fun _ => table?_ofTableWith Binding.read_toValue s.parameters) Table.eq_empty_of_left_out
  have next : f.withDefault {} Next.read "next" = some s.next :=
    (Fields.withDefault_eq_read (shows "next" (by simp [fieldNames]))).trans
      (Next.read_toValue s.next)
  have gate : f.withDefault false bool? "waitForHuman" = some s.waitsForHuman :=
    Fields.withDefault_eq (shows "waitForHuman" (by simp [fieldNames]))
      (fun present => by rw [present]; rfl) (fun absent => absent)
  have prompt : f.optional text? "humanPrompt" = some s.prompt :=
    Fields.optional_text_eq (shows "humanPrompt" (by simp [fieldNames]))
  have retries : f.optional uint32? "maxRetries" = some s.maxRetries :=
    Fields.optional_eq (shows "maxRetries" (by simp [fieldNames])) uint32?_ofNat (fun _ => rfl)
  have timeout : f.optional uint64? "timeoutSecs" = some s.timeout :=
    Fields.optional_eq (shows "timeoutSecs" (by simp [fieldNames])) uint64?_ofNat (fun _ => rfl)
  have loop : f.optional Loop.read "loopControl" = some s.loop :=
    Fields.optional_eq (shows "loopControl" (by simp [fieldNames])) Loop.read_toValue
      (fun l => by cases l <;> rfl)
  have success : f.optional text? "onSuccess" = some s.onSuccess :=
    Fields.optional_text_eq (shows "onSuccess" (by simp [fieldNames]))
  have failure : f.optional text? "onFailure" = some s.onFailure :=
    Fields.optional_text_eq (shows "onFailure" (by simp [fieldNames]))
  rw [id, tool, parameters, next, gate, prompt, retries, timeout, loop, success, failure]
  rfl

/-- The id in the value of a step is the id of the step. -/
theorem Step.field?_id_toValue (s : Step) : s.toValue.field? "id" = some (.str s.id) := by
  rw [toValue, Document.field?_record (by simp)]
  rfl

/-! ### Pipelines -/

namespace Definition

/-- **A definition is made from the fields it is written with**, whatever record they
are found in. -/
theorem ofFields_eq {d : Definition} {f : Fields Value}
    (shows : ∀ name ∈ fieldNames, f.get? name = (Entries.get? name d.toFields).join) :
    ofFields f = some d := by
  have name : f.required text? "name" = some d.name :=
    Fields.required_eq (shows "name" (by simp [fieldNames]))
  have description : f.withDefault "" text? "description" = some d.description :=
    Fields.withDefault_eq_read (shows "description" (by simp [fieldNames]))
  have start : f.required text? "startStepId" = some d.start :=
    Fields.required_eq (shows "startStepId" (by simp [fieldNames]))
  have steps : f.required (table? Step.read) "steps" = some d.steps :=
    (Fields.required_eq (shows "steps" (by simp [fieldNames]))).trans
      (table?_ofTableWith Step.read_toValue d.steps)
  have globalState : f.withDefault .empty (table? value?) "globalState" = some d.globalState :=
    (Fields.withDefault_eq_read (shows "globalState" (by simp [fieldNames]))).trans
      (table?_ofTable d.globalState)
  have onComplete : f.optional text? "onComplete" = some d.onComplete :=
    Fields.optional_text_eq (shows "onComplete" (by simp [fieldNames]))
  have onError : f.optional text? "onError" = some d.onError :=
    Fields.optional_text_eq (shows "onError" (by simp [fieldNames]))
  have metadata : f.withDefault .empty (table? value?) "metadata" = some d.metadata :=
    Fields.withDefault_eq (shows "metadata" (by simp [fieldNames]))
      (fun _ => table?_ofTable d.metadata) Table.eq_empty_of_left_out
  unfold ofFields
  rw [name, description, start, steps, globalState, onComplete, onError, metadata]
  rfl

theorem read_toValue (d : Definition) : Definition.read d.toValue = some d :=
  read_record (by simp [toFields]) fun _ shows => ofFields_eq shows

end Definition

theorem Pipeline.read_toValue (p : Pipeline) : Pipeline.read p.toValue = some p := by
  refine read_record (by simp [Definition.toFields]) fun f shows => ?_
  have id : f.required text? "id" = some p.id := Fields.required_eq (shows "id" (by simp))
  have definition : Definition.ofFields f = some p.toDefinition := by
    refine Definition.ofFields_eq fun name known => ?_
    have other : "id" ≠ name := by
      rintro rfl
      simp [Definition.fieldNames] at known
    rw [shows name (List.mem_cons_of_mem _ known), Entries.get?_cons, if_neg other]
  rw [id, definition]
  rfl

theorem Patch.read_toValue (q : Patch) : Patch.read q.toValue = some q := by
  refine read_record (by simp) fun f shows => ?_
  have id : f.optional text? "id" = some q.id := Fields.optional_text_eq (shows "id" (by simp))
  have name : f.optional text? "name" = some q.name :=
    Fields.optional_text_eq (shows "name" (by simp [Definition.fieldNames]))
  have description : f.optional text? "description" = some q.description :=
    Fields.optional_text_eq (shows "description" (by simp [Definition.fieldNames]))
  have start : f.optional text? "startStepId" = some q.start :=
    Fields.optional_text_eq (shows "startStepId" (by simp [Definition.fieldNames]))
  have steps : f.optional (table? Step.read) "steps" = some q.steps :=
    Fields.optional_eq (shows "steps" (by simp [Definition.fieldNames]))
      (table?_ofTableWith Step.read_toValue) (fun _ => rfl)
  have globalState : f.optional (table? value?) "globalState" = some q.globalState :=
    Fields.optional_eq (shows "globalState" (by simp [Definition.fieldNames])) table?_ofTable
      (fun _ => rfl)
  have onComplete : f.optional text? "onComplete" = some q.onComplete :=
    Fields.optional_text_eq (shows "onComplete" (by simp [Definition.fieldNames]))
  have onError : f.optional text? "onError" = some q.onError :=
    Fields.optional_text_eq (shows "onError" (by simp [Definition.fieldNames]))
  have metadata : f.optional (table? value?) "metadata" = some q.metadata :=
    Fields.optional_eq (shows "metadata" (by simp [Definition.fieldNames])) table?_ofTable
      (fun _ => rfl)
  rw [id, name, description, start, steps, globalState, onComplete, onError, metadata]
  rfl

/-! ### Loading -/

/-- A valid definition stays valid when its steps take their keys for missing ids. -/
theorem Definition.IsValid.fillIds {d : Definition} (valid : d.IsValid) : d.fillIds.IsValid := by
  have declared {key : String} (found : ∃ s, d.steps.get? key = some s) :
      ∃ s, d.fillIds.steps.get? key = some s := by
    obtain ⟨s, found⟩ := found
    exact ⟨s.withDefaultId key, by rw [d.get?_fillIds, found, Option.map_some]⟩
  refine ⟨valid.name, declared valid.start, ?_⟩
  intro key s found
  rw [d.get?_fillIds] at found
  obtain ⟨s', stored, rfl⟩ := Option.map_eq_some_iff.mp found
  have step := valid.steps key s' stored
  exact
    { id := .inr (Step.id_withDefaultId step.id)
      tool := by simpa using step.tool
      targets := by
        intro m target listed
        rw [Step.references_withDefaultId] at listed
        exact (step.targets m target listed).imp_right declared
      loop := by simpa using step.loop
      conditions := by simpa using step.conditions }

/-- A valid definition passes the check that follows reading. -/
theorem Definition.checked_eq_ok {d : Definition} (valid : d.validate = .ok ()) :
    d.checked = .ok d.fillIds := by
  have filled := ((d.validate_eq_ok.mp valid).fillIds)
  rw [← Definition.violation?_eq_none_iff] at filled
  rw [Definition.checked, filled]

/-- **In a valid definition, every step has its key for an id** once missing ids are filled in,
and nothing else of it is changed. -/
theorem Definition.get?_fillIds_of_valid {d : Definition} (valid : d.validate = .ok ())
    (key : String) :
    d.fillIds.steps.get? key = (d.steps.get? key).map fun s => { s with id := key } := by
  rw [d.get?_fillIds]
  cases found : d.steps.get? key with
  | none => rfl
  | some s =>
    have stated := ((d.validate_eq_ok.mp valid).steps key s found).id
    have same : s.withDefaultId key = { s with id := (s.withDefaultId key).id } := by
      unfold Step.withDefaultId
      split <;> rfl
    rw [Step.id_withDefaultId stated] at same
    exact congrArg some same

/-- **What is written reads back.**  Every value of each type is read from the value it
is written as, exactly.  A valid definition that was written is accepted when it is
read, given its missing ids and checked again, and comes out with those ids; so it does
from any text that it can be read from.  With its missing ids, the definition is the same but
that every step has its key for an id. -/
theorem formats_read_back :
    (∀ d : Definition, Definition.read d.toValue = some d) ∧
      (∀ p : Pipeline, Pipeline.read p.toValue = some p) ∧
      (∀ s : Step, Step.read s.toValue = some s) ∧
      (∀ b : Binding, Binding.read b.toValue = some b) ∧
      (∀ l : Loop, Loop.read l.toValue = some l) ∧
      (∀ n : Next, Next.read n.toValue = some n) ∧
      (∀ b : Branch, Branch.read b.toValue = some b) ∧
      (∀ q : Patch, Patch.read q.toValue = some q) ∧
      ∀ d : Definition, d.validate = .ok () →
        (Definition.read d.toValue).map Definition.checked = some (.ok d.fillIds) ∧
          (∀ format text, Definition.ofText? format text = some d →
            Definition.load format text = .ok d.fillIds) ∧
          d.fillIds = { d with steps := d.fillIds.steps } ∧
          ∀ key, d.fillIds.steps.get? key =
            (d.steps.get? key).map fun s => { s with id := key } := by
  refine ⟨Definition.read_toValue, Pipeline.read_toValue, Step.read_toValue, Binding.read_toValue,
    Loop.read_toValue, Next.read_toValue, Branch.read_toValue, Patch.read_toValue, ?_⟩
  intro d valid
  refine ⟨?_, fun format text held => ?_, rfl, Definition.get?_fillIds_of_valid valid⟩
  · rw [d.read_toValue, Option.map_some, Definition.checked_eq_ok valid]
  · rw [Definition.load, held]
    exact Definition.checked_eq_ok valid

/-- A definition with every kind of binding and loop, a gate, and a step that takes its
key for an id. -/
def Definition.thorough : Definition where
  name := "thorough"
  start := "fetch"
  steps := .ofEntries
    [("ask",
        { id := "ask", tool := "", waitsForHuman := true, prompt := some "Go on?",
          onSuccess := some "fetch" }),
      ("drain", { id := "drain", tool := "take", loop := some (.whileTrue "state.left > 0" 9) }),
      ("fetch",
        { id := "", tool := "get", maxRetries := some 3, timeout := some 5,
          parameters := .ofEntries [("body", .static .null), ("token", .dynamic "ask" "token")],
          next := { default := some "poll", branches := [⟨some "refused", "!success", "end"⟩] },
          loop := some (.counting (-1) 2 4), onFailure := some "ask" }),
      ("poll",
        { id := "poll", tool := "look", next.default := some "drain",
          loop := some (.untilTrue "state.ready" 10) })]
  globalState := .ofEntries [("batch", .int 10)]
  onError := some "notify"
  metadata := .ofEntries [("tags", .arr [.str "a", .null])]

/-- A definition of one step that states its tool only. -/
def Definition.brief : Definition where
  name := "n"
  start := "a"
  steps := .ofEntries [("a", { id := "", tool := "t" })]

/-- A definition that comes back from its value, and one that comes from a text. -/
theorem formats_read_back_thorough :
    (Definition.thorough.validate = .ok () ∧
      (Definition.read Definition.thorough.toValue).map Definition.checked =
        some (.ok Definition.thorough.fillIds)) ∧
      ∃ text, Definition.brief.validate = .ok () ∧
        Definition.ofText? .json text = some Definition.brief ∧
        Definition.load .json text = .ok Definition.brief.fillIds := by
  obtain ⟨-, -, -, -, -, -, -, -, loaded⟩ := formats_read_back
  have thorough : Definition.thorough.validate = .ok () := by rfl
  have brief : Definition.brief.validate = .ok () := by rfl
  have held : Definition.ofText? .json
      ("\x7b\"name\":\"n\",\"startStepId\":\"a\"," ++
        "\"steps\":\x7b\"a\":\x7b\"toolName\":\"t\"\x7d\x7d\x7d") =
      some Definition.brief := by cbv
  exact ⟨⟨thorough, (loaded _ thorough).1⟩, _, brief, held, (loaded _ brief).2.1 _ _ held⟩

end StepFlow
