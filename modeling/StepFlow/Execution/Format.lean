import StepFlow.Execution

/-!
# The format of executions

The id of an execution is written as 32 hexadecimal digits in groups of 8, 4, 4,
4 and 12.  It is read with or without its hyphens, in capitals or not, in braces
or as a URN.
-/

namespace StepFlow

open Document

/-! ### Ids -/

namespace ExecutionId

/-- A hexadecimal digit. -/
def digit (n : Nat) : Char := (Nat.toDigits 16 (n % 16)).headD '0'

/-- The last `count` hexadecimal digits of a number. -/
def hexDigits : (count : Nat) → Nat → List Char
  | 0, _ => []
  | count + 1, n => hexDigits count (n / 16) ++ [digit n]

/-- Cuts the groups that hyphens separate. -/
def groups : List Nat → List Char → List Char
  | [], cs => cs
  | n :: rest, cs => cs.take n ++ '-' :: groups rest (cs.drop n)

/-- **The text of an id.** -/
def text (i : ExecutionId) : String :=
  String.ofList (groups [8, 4, 4, 4] (hexDigits 32 i.number))

/-- The value of a hexadecimal digit. -/
def digitValue? (c : Char) : Option Nat :=
  if c.isDigit then some (c.toNat - 48)
  else if 'a' ≤ c.toLower ∧ c.toLower ≤ 'f' then some (c.toLower.toNat - 87)
  else none

/-- The number that 32 hexadecimal digits denote. -/
def ofDigits? (cs : List Char) : Option ExecutionId :=
  if cs.length = 32 then
    (cs.foldlM (fun n c => (digitValue? c).map (16 * n + ·)) 0).map ExecutionId.mk
  else none

/-- Takes the hyphens out from between the groups. -/
def ungroup? : List Nat → List Char → Option (List Char)
  | [], cs => some cs
  | n :: rest, cs =>
    match cs.drop n with
    | '-' :: after => (ungroup? rest after).map (cs.take n ++ ·)
    | _ => none

/-- The braces or the scheme around an id, taken off. -/
def unwrap (cs : List Char) : List Char :=
  let scheme := ['u', 'r', 'n', ':', 'u', 'u', 'i', 'd', ':']
  if cs.length = 38 ∧ cs.head? = some '\x7b' ∧ cs.getLast? = some '\x7d' then cs.tail.dropLast
  else if cs.length = 45 ∧ scheme.isPrefixOf cs then cs.drop scheme.length
  else cs

/-- **Reads an id.** -/
def read? (s : String) : Option ExecutionId :=
  let cs := s.toList
  if cs.length = 32 then ofDigits? cs
  else (ungroup? [8, 4, 4, 4] (unwrap cs)).bind ofDigits?

end ExecutionId

variable {δ : Type} [Document δ]

/-- Reads the id of an execution. -/
def ExecutionId.read (d : δ) : Option ExecutionId := (text? d).bind ExecutionId.read?

/-! ### Status -/

/-- The status that a word stands for. -/
def Status.ofWord? (w : String) : Option Status :=
  [Status.running, .waiting, .completed, .failed].find? fun s => s.word = w

/-- Reads a status: its word, or a map from the word to null. -/
def Status.read (d : δ) : Option Status :=
  match text? d with
  | some w => ofWord? w
  | none =>
    match entries? d with
    | some [(some w, v)] => if isNull v then ofWord? w else none
    | _ => none

/-! ### Executions -/

namespace Execution

/-- **Reads an execution.** -/
def read (d : δ) : Option Execution := do
  let f ← fields?
    ["pipelineId", "executionId", "currentStepId", "status", "results", "globalState",
      "loopCounters", "loopIterations", "executionPath", "startTime", "lastUpdateTime", "error",
      "humanInput"] d
  return { pipelineId := ← f.required text? "pipelineId"
           id := ← f.required ExecutionId.read "executionId"
           current := ← f.required text? "currentStepId"
           status := ← f.required Status.read "status"
           results := ← f.required (table? ToolResult.read) "results"
           globalState := ← f.required (table? value?) "globalState"
           counters := ← f.required (table? int64?) "loopCounters"
           iterations := ← f.withDefault .empty (table? uint32?) "loopIterations"
           path := ← f.required (list? text?) "executionPath"
           started := ← f.required Instant.read "startTime"
           updated := ← f.required Instant.read "lastUpdateTime"
           error := ← f.optional ExecutionError.read "error"
           humanInput := ← f.optional value? "humanInput" }

/-- What the steps came to, as conditions see it. -/
def resultsValue (x : Execution) : Value := .ofTableWith ToolResult.toValue x.results

/-- The fields that an execution is written with, apart from its id, its times and
its results. -/
def stableFields (x : Execution) : List (String × Option Value) :=
  [("pipelineId", some (.str x.pipelineId)),
    ("currentStepId", some (.str x.current)),
    ("status", some (.str x.status.word)),
    ("globalState", some (.ofTable x.globalState)),
    ("loopCounters", some (.ofTableWith (fun n : Int64 => .int n.toInt) x.counters)),
    ("loopIterations", some (.ofTableWith (fun n : UInt32 => .ofNat n.toNat) x.iterations)),
    ("executionPath", some (.ofList .str x.path)),
    ("error", x.error.map ExecutionError.toValue),
    ("humanInput", x.humanInput)]

/-- **Writes an execution.** -/
def toValue (x : Execution) : Value :=
  .record
    (x.stableFields ++
      [("executionId", some (.str x.id.text)),
        ("results", some x.resultsValue),
        ("startTime", some (.str x.started.text)),
        ("lastUpdateTime", some (.str x.updated.text))])

/-- An execution without what differs from run to run: its id and all times. -/
def summary (x : Execution) : Value :=
  .record
    (x.stableFields ++
      [("results", some (.ofTableWith (fun r : ToolResult => r.toOutcome.toValue) x.results))])

end Execution

end StepFlow
