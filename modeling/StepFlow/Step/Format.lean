import StepFlow.Document
import StepFlow.Step
import StepFlow.Value.Record

/-!
# The format of steps

How steps and their parts are read from documents and written as values.  What
a writer leaves out is what the reader fills in: `none` for an optional field,
the default for the others.
-/

namespace StepFlow

open Document

variable {δ : Type} [Document δ]

/-- Reads a binding. -/
def Binding.read (d : δ) : Option Binding := do
  let (kind, content) ← variant? d
  match kind with
  | "static" =>
    let f ← content.fields? ["value"]
    return .static (← f.required value? "value")
  | "dynamic" =>
    let f ← content.fields? ["sourceStepId", "outputPath"]
    return .dynamic (← f.required text? "sourceStepId") (← f.withDefault "" text? "outputPath")
  | _ => none

/-- Writes a binding. -/
def Binding.toValue : Binding → Value
  | .static v => .record [("type", some (.str "static")), ("value", some v)]
  | .dynamic source path => .record
      [("type", some (.str "dynamic")), ("sourceStepId", some (.str source)),
        ("outputPath", some (.str path))]

/-- Reads a branch. -/
def Branch.read (d : δ) : Option Branch := do
  let f ← fields? ["name", "condition", "target"] d
  return { name := ← f.optional text? "name"
           condition := ← f.required text? "condition"
           target := ← f.required text? "target" }

/-- Writes a branch. -/
def Branch.toValue (b : Branch) : Value :=
  .record [("name", b.name.map .str), ("condition", some (.str b.condition)),
    ("target", some (.str b.target))]

/-- Reads where a step leads. -/
def Next.read (d : δ) : Option Next := do
  let f ← fields? ["default", "conditions"] d
  return { default := ← f.optional text? "default"
           branches := ← f.withDefault [] (list? Branch.read) "conditions" }

/-- Writes where a step leads. -/
def Next.toValue (n : Next) : Value :=
  .record [("default", n.default.map .str),
    ("conditions", Value.writtenIf (!n.branches.isEmpty) (.ofList Branch.toValue n.branches))]

/-- Reads a loop. -/
def Loop.read (d : δ) : Option Loop := do
  let (kind, content) ← variant? d
  match kind with
  | "for" =>
    let f ← content.fields? ["initialValue", "increment", "maxIterations"]
    return .counting (← f.withDefault 0 int64? "initialValue")
      (← f.withDefault 1 int64? "increment") (← f.required uint32? "maxIterations")
  | "while" =>
    let f ← content.fields? ["condition", "maxIterations"]
    return .whileTrue (← f.required text? "condition") (← f.required uint32? "maxIterations")
  | "until" =>
    let f ← content.fields? ["condition", "maxIterations"]
    return .untilTrue (← f.required text? "condition") (← f.required uint32? "maxIterations")
  | _ => none

/-- Writes a loop. -/
def Loop.toValue (l : Loop) : Value :=
  let type := ("type", some (.str l.kind))
  let limit := ("maxIterations", some (.ofNat l.limit.toNat))
  match l with
  | .counting start increment _ => .record
      [type, ("initialValue", some (.int start.toInt)), ("increment", some (.int increment.toInt)),
        limit]
  | .whileTrue c _ => .record [type, ("condition", some (.str c)), limit]
  | .untilTrue c _ => .record [type, ("condition", some (.str c)), limit]

namespace Step

/-- The fields of a step in their order. -/
def fieldNames : List String :=
  ["id", "toolName", "parameters", "next", "waitForHuman", "humanPrompt", "maxRetries",
    "timeoutSecs", "loopControl", "onSuccess", "onFailure"]

/-- **Reads a step.**  No field is required. -/
def read (d : δ) : Option Step := do
  let f ← fields? fieldNames d
  return { id := ← f.withDefault "" text? "id"
           tool := ← f.withDefault "" text? "toolName"
           parameters := ← f.withDefault .empty (table? Binding.read) "parameters"
           next := ← f.withDefault {} Next.read "next"
           waitsForHuman := ← f.withDefault false bool? "waitForHuman"
           prompt := ← f.optional text? "humanPrompt"
           maxRetries := ← f.optional uint32? "maxRetries"
           timeout := ← f.optional uint64? "timeoutSecs"
           loop := ← f.optional Loop.read "loopControl"
           onSuccess := ← f.optional text? "onSuccess"
           onFailure := ← f.optional text? "onFailure" }

/-- **Writes a step.** -/
def toValue (s : Step) : Value :=
  .record
    [("id", some (.str s.id)),
      ("toolName", some (.str s.tool)),
      ("parameters",
        Value.writtenIf (!s.parameters.isEmpty) (.ofTableWith Binding.toValue s.parameters)),
      ("next", some s.next.toValue),
      ("waitForHuman", Value.writtenIf s.waitsForHuman (.bool true)),
      ("humanPrompt", s.prompt.map .str),
      ("maxRetries", s.maxRetries.map fun n => .ofNat n.toNat),
      ("timeoutSecs", s.timeout.map fun n => .ofNat n.toNat),
      ("loopControl", s.loop.map Loop.toValue),
      ("onSuccess", s.onSuccess.map .str),
      ("onFailure", s.onFailure.map .str)]

end Step

end StepFlow
