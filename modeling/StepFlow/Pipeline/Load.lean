import StepFlow.Document.Yaml.Parser
import StepFlow.Pipeline.Format
import StepFlow.Pipeline.Validation
import StepFlow.Settings

/-!
# Loading definitions and settings

A definition is loaded from a JSON text or a YAML text: it is read, steps take
their keys for missing ids, and the definition is checked.  A file is JSON if
its name ends in `.json`, and YAML otherwise.
-/

namespace StepFlow

/-- **The format of a text.** -/
inductive TextFormat where
  | json | yaml
deriving Repr, DecidableEq

/-- What follows the last dot of a file name, if a name comes before it. -/
def fileExtension (name : String) : Option String :=
  let backwards := name.toList.reverse
  let ending := backwards.takeWhile (· ≠ '.')
  if 1 < backwards.length - ending.length then some (String.ofList ending.reverse) else none

/-- The format of a file. -/
def TextFormat.ofFileName (name : String) : TextFormat :=
  if fileExtension name = some "json" then .json else .yaml

/-- Why a definition cannot be loaded. -/
inductive LoadError where
  | unreadable
  | invalid (v : Violation)
deriving Repr, DecidableEq

namespace Definition

/-- The definition that a text holds. -/
def ofText? : TextFormat → String → Option Definition
  | .json, text => (JsonText.parse text).bind read
  | .yaml, text => (Yaml.parse text).bind read

/-- Fills in ids and checks the definition. -/
def checked (d : Definition) : Except LoadError Definition :=
  match d.fillIds.violation? with
  | some v => .error (.invalid v)
  | none => .ok d.fillIds

/-- **Loads a definition from a text.** -/
def load (format : TextFormat) (text : String) : Except LoadError Definition :=
  match ofText? format text with
  | none => .error .unreadable
  | some d => d.checked

end Definition

/-- The settings that a YAML text holds. -/
def Settings.ofYaml? (text : String) : Option Settings := (Yaml.parse text).bind Settings.read

end StepFlow
