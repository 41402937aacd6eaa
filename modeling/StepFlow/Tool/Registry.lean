import StepFlow.Text.Quoted
import StepFlow.Tool

/-!
# A registry of tools

Tools under their names.  A later tool takes the place of an earlier one of the
same name.  Calling a name that no tool has is an error of the registry; a tool
that errs itself has an outcome like any other, a failure.
-/

namespace StepFlow

/-- **A tool**: what it is for, and its answer to parameters. -/
structure Tool where
  description : String := ""
  answer : Table Value → Except ToolError Value

/-- **A registry.** -/
abbrev Registry := Table Tool

namespace Registry

/-- Registers a tool. -/
def register (r : Registry) (name : String) (tool : Tool) : Registry := r.insert name tool

/-- The names of the tools, ascending. -/
def names (r : Registry) : List String := r.keys

/-- How a message shows the registry. -/
def display (r : Registry) : String :=
  "ToolRegistry \x7b tools: [" ++ ", ".intercalate (r.names.map Text.quoted) ++ "] \x7d"

/-- **Calls a tool.** -/
def call (r : Registry) (name : String) (parameters : Table Value) : Except ToolError Outcome :=
  match r.get? name with
  | none => .error (.notFound name)
  | some tool => .ok (.ofAnswer (tool.answer parameters))

end Registry

end StepFlow
