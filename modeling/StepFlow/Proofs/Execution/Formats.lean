import StepFlow.Execution.Format
import StepFlow.Human
import StepFlow.Proofs.Document.Records

/-!
# What is read back of a run

Executions, results and responses are written as values and read back.  Each of them can hold data
of any kind in a field that need not be there: the data of a result, what a person gave as input.
Null in such a field is written as null, and is read as a field that is not there.  So what comes
back is not always what was written, but a normal form of it (`ToolResult.reread`,
`Execution.reread`, `HumanResponse.reread`), in which everything else is kept, however many results
there are.

A normal form comes back as it is.  So whatever is written and read over and over is the same from
the second writing on (`rewritten_succ`).

Ids and times are written as texts.  That they are read from these texts is a property of the id
and of the time (`ExecutionId.ReadsBack`, `Instant.ReadsBack`), and what is said here of executions
and results is said of those whose ids and times have it.
-/

namespace StepFlow

open Document

/-! ### Coming back -/

section ComesBack

variable {α : Type} {read : Value → Option α} {write : α → Value}

/-- **What `a` is written as** after it was written and read back `n` times. -/
def rewritten (read : Value → Option α) (write : α → Value) (a : α) : (n : Nat) → Option Value
  | 0 => some (write a)
  | n + 1 => (rewritten read write a n).bind fun v => (read v).map write

/-- **What is written as `a` comes back as `b`.** -/
structure ComesBackAs (read : Value → Option α) (write : α → Value) (a b : α) : Prop where
  /-- The first reading succeeds, and gives `b`. -/
  first : read (write a) = some b
  /-- So does every later one. -/
  again : read (write b) = some b
  /-- From the second writing on it is the value that `b` is written as. -/
  stable : ∀ n, rewritten read write a (n + 1) = some (write b)

/-- **From the second writing on nothing changes**, if what was read comes back as it is. -/
theorem rewritten_succ {a b : α} (first : read (write a) = some b)
    (again : read (write b) = some b) (n : Nat) :
    rewritten read write a (n + 1) = some (write b) := by
  induction n with
  | zero => rw [rewritten, rewritten, Option.bind_some, first, Option.map_some]
  | succ n ih => rw [rewritten, ih, Option.bind_some, again, Option.map_some]

/-- What is read as a normal form comes back as that form. -/
theorem ComesBackAs.of_normal {fit : α → Prop} {normal : α → α}
    (reads : ∀ a, fit a → read (write a) = some (normal a)) (keeps : ∀ a, fit a → fit (normal a))
    (idem : ∀ a, normal (normal a) = normal a) (a : α) (h : fit a) :
    ComesBackAs read write a (normal a) := by
  have again : read (write (normal a)) = some (normal a) := by rw [reads _ (keeps a h), idem]
  exact ⟨reads a h, again, rewritten_succ (reads a h) again⟩

end ComesBack

/-- **Data as it is read back**: null is no data. -/
def Value.reread : Option Value → Option Value
  | some .null => none
  | v => v

theorem Value.reread_reread (v : Option Value) : reread (reread v) = reread v := by
  rcases v with _ | v
  · rfl
  · cases v <;> rfl

/-- A field of any data is read as it comes back. -/
theorem Document.Fields.optional_value_eq {f : Fields Value} {name : String} {v : Option Value}
    (found : f.get? name = v) : f.optional value? name = some (Value.reread v) := by
  unfold Fields.optional
  rw [found]
  rcases v with _ | v
  · rfl
  · cases v <;> rfl

/-! ### Ids and times -/

/-- An instant that is read from its text. -/
def Instant.ReadsBack (t : Instant) : Prop := Instant.read? t.text = some t

/-- An id that is read from its text. -/
def ExecutionId.ReadsBack (i : ExecutionId) : Prop := ExecutionId.read? i.text = some i

instance (t : Instant) : Decidable t.ReadsBack := by unfold Instant.ReadsBack; infer_instance

instance (i : ExecutionId) : Decidable i.ReadsBack := by
  unfold ExecutionId.ReadsBack; infer_instance

theorem Instant.read_text {t : Instant} (h : t.ReadsBack) :
    Instant.read (.str t.text : Value) = some t := by
  have text : text? (.str t.text : Value) = some t.text := rfl
  rw [Instant.read, text, Option.bind_some, h]

theorem ExecutionId.read_text {i : ExecutionId} (h : i.ReadsBack) :
    ExecutionId.read (.str i.text : Value) = some i := by
  have text : text? (.str i.text : Value) = some i.text := rfl
  rw [ExecutionId.read, text, Option.bind_some, h]

/-- The times of a call that are read from their texts. -/
structure Metrics.ReadsBack (m : Metrics) : Prop where
  start : m.start.ReadsBack
  stop : m.stop.ReadsBack

/-- **An execution whose id and times are read from their texts**, those of its results included. -/
structure Execution.ReadsBack (x : Execution) : Prop where
  id : x.id.ReadsBack
  started : x.started.ReadsBack
  updated : x.updated.ReadsBack
  results : ∀ e ∈ x.results.entries, e.2.metrics.ReadsBack

theorem Metrics.read_toValue {m : Metrics} (h : m.ReadsBack) : Metrics.read m.toValue = some m := by
  refine read_record (by simp) fun f shows => ?_
  have start : f.required Instant.read "startTime" = some m.start :=
    (Fields.required_eq (shows "startTime" (by simp))).trans (Instant.read_text h.start)
  have stop : f.required Instant.read "endTime" = some m.stop :=
    (Fields.required_eq (shows "endTime" (by simp))).trans (Instant.read_text h.stop)
  have latency : f.required uint64? "latencyMs" = some m.latency :=
    (Fields.required_eq (shows "latencyMs" (by simp))).trans (uint64?_ofNat m.latency)
  rw [start, stop, latency]
  rfl

/-! ### Results -/

/-- **A result as it is read back**: data that is null is not there. -/
def ToolResult.reread (r : ToolResult) : ToolResult := { r with data := Value.reread r.data }

theorem ErrorReport.read_toValue (r : ErrorReport) : ErrorReport.read r.toValue = some r := by
  refine read_record (by simp) fun f shows => ?_
  have code : f.required text? "code" = some r.code := Fields.required_eq (shows "code" (by simp))
  have message : f.required text? "message" = some r.message :=
    Fields.required_eq (shows "message" (by simp))
  rw [code, message]
  rfl

theorem ToolResult.read_toValue (r : ToolResult) (h : r.metrics.ReadsBack) :
    ToolResult.read r.toValue = some r.reread := by
  refine read_record (by simp [Outcome.toFields]) fun f shows => ?_
  have success : f.required bool? "success" = some r.success :=
    Fields.required_eq (shows "success" (by simp))
  have data : f.optional value? "data" = some (Value.reread r.data) :=
    Fields.optional_value_eq (shows "data" (by simp))
  have error : f.optional ErrorReport.read "error" = some r.error :=
    Fields.optional_eq (shows "error" (by simp)) ErrorReport.read_toValue (fun _ => rfl)
  have metrics : f.required Metrics.read "metrics" = some r.metrics :=
    (Fields.required_eq (shows "metrics" (by simp))).trans (Metrics.read_toValue h)
  rw [success, data, error, metrics]
  rfl

theorem ToolResult.reread_reread (r : ToolResult) : r.reread.reread = r.reread := by
  simp only [reread, Value.reread_reread]

/-! ### Executions -/

/-- **An execution as it is read back**: data of its results and input that are null are not
there. -/
def Execution.reread (x : Execution) : Execution :=
  { x with
    results := x.results.mapValues fun _ r => r.reread
    humanInput := Value.reread x.humanInput }

theorem Status.read_word (s : Status) : Status.read (.str s.word : Value) = some s := by
  cases s <;> rfl

theorem ExecutionError.read_toValue (e : ExecutionError) :
    ExecutionError.read e.toValue = some e := by
  refine read_record (by simp) fun f shows => ?_
  have code : f.required text? "code" = some e.code := Fields.required_eq (shows "code" (by simp))
  have message : f.required text? "message" = some e.message :=
    Fields.required_eq (shows "message" (by simp))
  have step : f.optional text? "stepId" = some e.step :=
    Fields.optional_text_eq (shows "stepId" (by simp))
  rw [code, message, step]
  rfl

namespace Execution

theorem read_toValue (x : Execution) (h : x.ReadsBack) : read x.toValue = some x.reread := by
  refine read_record (by simp [stableFields]) fun f shows => ?_
  have pipelineId : f.required text? "pipelineId" = some x.pipelineId :=
    Fields.required_eq (shows "pipelineId" (by simp))
  have id : f.required ExecutionId.read "executionId" = some x.id :=
    (Fields.required_eq (shows "executionId" (by simp))).trans (ExecutionId.read_text h.id)
  have current : f.required text? "currentStepId" = some x.current :=
    Fields.required_eq (shows "currentStepId" (by simp))
  have status : f.required Status.read "status" = some x.status :=
    (Fields.required_eq (shows "status" (by simp))).trans x.status.read_word
  have results : f.required (table? ToolResult.read) "results" =
      some (x.results.mapValues fun _ r => r.reread) :=
    (Fields.required_eq (shows "results" (by simp))).trans
      (table?_written fun e listed => e.2.read_toValue (h.results e listed))
  have globalState : f.required (table? value?) "globalState" = some x.globalState :=
    (Fields.required_eq (shows "globalState" (by simp))).trans (table?_ofTable x.globalState)
  have counters : f.required (table? int64?) "loopCounters" = some x.counters :=
    (Fields.required_eq (shows "loopCounters" (by simp))).trans
      (table?_ofTableWith int64?_int x.counters)
  have iterations : f.withDefault .empty (table? uint32?) "loopIterations" = some x.iterations :=
    (Fields.withDefault_eq_read (shows "loopIterations" (by simp))).trans
      (table?_ofTableWith uint32?_ofNat x.iterations)
  have text (s : String) : text? (.str s : Value) = some s := rfl
  have path : f.required (list? text?) "executionPath" = some x.path :=
    (Fields.required_eq (shows "executionPath" (by simp))).trans (list?_ofList text x.path)
  have started : f.required Instant.read "startTime" = some x.started :=
    (Fields.required_eq (shows "startTime" (by simp))).trans (Instant.read_text h.started)
  have updated : f.required Instant.read "lastUpdateTime" = some x.updated :=
    (Fields.required_eq (shows "lastUpdateTime" (by simp))).trans (Instant.read_text h.updated)
  have error : f.optional ExecutionError.read "error" = some x.error :=
    Fields.optional_eq (shows "error" (by simp)) ExecutionError.read_toValue (fun _ => rfl)
  have humanInput : f.optional value? "humanInput" = some (Value.reread x.humanInput) :=
    Fields.optional_value_eq (shows "humanInput" (by simp))
  rw [pipelineId, id, current, status, results, globalState, counters, iterations, path, started,
    updated, error, humanInput]
  rfl

theorem reread_reread (x : Execution) : x.reread.reread = x.reread := by
  have results : (x.reread.results.mapValues fun _ r => r.reread) = x.reread.results :=
    Table.ext_get? fun key => by
      simp only [reread, Table.get?_mapValues, Option.map_map, Function.comp_def,
        ToolResult.reread_reread]
  rw [reread, results]
  simp only [reread, Value.reread_reread]

/-- What is read back has the same id and the same times. -/
theorem ReadsBack.reread (x : Execution) (h : x.ReadsBack) : x.reread.ReadsBack where
  id := h.id
  started := h.started
  updated := h.updated
  results e listed := by
    obtain ⟨e', stored, rfl⟩ := List.mem_map.mp listed
    exact h.results e' stored

end Execution

/-! ### Responses -/

/-- **A response as it is read back**: input that is null is not there. -/
def HumanResponse.reread (r : HumanResponse) : HumanResponse :=
  { r with input := Value.reread r.input }

theorem HumanResponse.read_toValue (r : HumanResponse) :
    HumanResponse.read r.toValue = some r.reread := by
  refine read_record (by simp) fun f shows => ?_
  have approved : f.required bool? "approved" = some r.approved :=
    Fields.required_eq (shows "approved" (by simp))
  have input : f.optional value? "input" = some (Value.reread r.input) :=
    Fields.optional_value_eq (shows "input" (by simp))
  have modifications : f.optional (table? value?) "modifications" = some r.modifications :=
    Fields.optional_eq (shows "modifications" (by simp)) table?_ofTable (fun _ => rfl)
  have notes : f.optional text? "notes" = some r.notes :=
    Fields.optional_text_eq (shows "notes" (by simp))
  rw [approved, input, modifications, notes]
  rfl

theorem HumanResponse.reread_reread (r : HumanResponse) : r.reread.reread = r.reread := by
  simp only [reread, Value.reread_reread]

/-! ### All three -/

/-- **What is written of a run comes back, but for data that is null.**  Every result, execution
and response is read from the value it is written as, and comes back with the same fields, except
that data and input which are there but null are not there any more.  What has come back once comes
back as it is, so that from the second writing on the value is always the same. -/
theorem records_come_back :
    (∀ r : ToolResult, r.metrics.ReadsBack →
      ComesBackAs ToolResult.read ToolResult.toValue r r.reread) ∧
    (∀ x : Execution, x.ReadsBack → ComesBackAs Execution.read Execution.toValue x x.reread) ∧
    ∀ r : HumanResponse, ComesBackAs HumanResponse.read HumanResponse.toValue r r.reread := by
  refine ⟨?results, ?executions, fun r => ?response⟩
  case results =>
    exact .of_normal ToolResult.read_toValue (fun _ times => times) ToolResult.reread_reread
  case executions =>
    exact .of_normal Execution.read_toValue Execution.ReadsBack.reread Execution.reread_reread
  case response =>
    exact .of_normal (fun r (_ : True) => r.read_toValue) (fun _ _ => trivial)
      HumanResponse.reread_reread r trivial

/-- Five in the morning of a leap day, and some. -/
def Instant.leapDay : Instant := ⟨19782, 18000, 250000000⟩

/-- A success that came to null. -/
def ToolResult.voided : ToolResult where
  success := true
  data := some .null
  metrics := .instantaneous .leapDay

/-- A run whose first step failed and whose gate was passed with null for an input. -/
def Execution.voided : Execution where
  pipelineId := "p"
  id := ⟨0x0123456789abcdef0123456789abcdef⟩
  current := "ask"
  status := .completed
  results := .ofEntries
    [("ask", .voided),
      ("fetch",
        { success := false, error := some ⟨"E", "none there"⟩,
          metrics := ⟨.ofMilliseconds 0, .leapDay, 7⟩ })]
  globalState := .ofEntries [("lastResult", .null)]
  counters := .ofEntries [("ask", -3)]
  iterations := .ofEntries [("ask", 2)]
  path := ["fetch", "ask"]
  started := .ofMilliseconds 0
  updated := .leapDay
  humanInput := some .null

/-- That run comes back without the null that its gate came to, and without the null that was given
as input. -/
theorem records_come_back_voided :
    (ToolResult.voided.metrics.ReadsBack ∧
      ComesBackAs ToolResult.read ToolResult.toValue ToolResult.voided ToolResult.voided.reread ∧
      ToolResult.voided.data.isSome = true ∧ ToolResult.voided.reread.data.isSome = false) ∧
    Execution.voided.ReadsBack ∧
      ComesBackAs Execution.read Execution.toValue Execution.voided Execution.voided.reread ∧
      Execution.voided.humanInput.isSome = true ∧ Execution.voided.reread.humanInput = none ∧
      (Execution.voided.reread.results.get? "ask").map (·.data.isSome) = some false := by
  have leapDay : Instant.leapDay.ReadsBack := by decide +kernel
  have dawn : (Instant.ofMilliseconds 0).ReadsBack := by decide +kernel
  have listed : Execution.voided.results.entries.map (·.2.metrics) =
      [ToolResult.voided.metrics, ⟨.ofMilliseconds 0, .leapDay, 7⟩] := by decide +kernel
  have calls : ∀ m ∈ Execution.voided.results.entries.map (·.2.metrics), m.ReadsBack := by
    rw [listed, List.forall_mem_cons, List.forall_mem_singleton]
    exact ⟨⟨leapDay, leapDay⟩, ⟨dawn, leapDay⟩⟩
  have times : Execution.voided.ReadsBack :=
    ⟨by decide +kernel, dawn, leapDay, fun _ mem => calls _ (List.mem_map_of_mem mem)⟩
  exact
    ⟨⟨⟨leapDay, leapDay⟩, records_come_back.1 _ ⟨leapDay, leapDay⟩, rfl, rfl⟩, times,
      records_come_back.2.1 _ times, rfl, rfl, by decide +kernel⟩

end StepFlow
