import StepFlow.Document.Json
import StepFlow.Store
import StepFlow.Value.Text

/-!
# Pipelines in a table of rows

A backend that keeps each definition as a text, in a row with a number of its
own.  Rows are listed by their numbers, and no number is used twice, so a
pipeline that was deleted and saved again comes last.  The id is not part of
the text; steps without an id take their key again whenever a row is read.

A row can hold a text that is not read back, for a text is written without the limits that hold
for reading.  Its pipeline is not missing: to load it is an error, and so is to list the table.
-/

namespace StepFlow

/-- **A row.** -/
structure Row where
  number : Nat
  id : String
  name : String
  description : String
  /-- The definition in JSON. -/
  definition : String
deriving Repr, DecidableEq

/-- **A table of rows**, by ascending number. -/
structure Rows where
  rows : List Row := []
  /-- The number of the next new row. -/
  next : Nat := 1
deriving Repr, DecidableEq

/-- The row of a pipeline. -/
def Row.ofPipeline (number : Nat) (p : Pipeline) : Row where
  number
  id := p.id
  name := p.name
  description := p.description
  definition := p.toDefinition.toValue.compact

/-- The pipeline in a row, if its text can be read. -/
def Row.pipeline? (r : Row) : Option Pipeline :=
  (JsonText.parse r.definition).bind fun t => (Definition.read t).map fun d => d.toPipeline r.id

/-- **Reads a row.** -/
def Row.read (r : Row) : Except Corrupt Pipeline :=
  match r.pipeline? with
  | some p => .ok p
  | none => .error ⟨r.id⟩

theorem Row.read_eq_ok_iff {r : Row} {p : Pipeline} : r.read = .ok p ↔ r.pipeline? = some p := by
  unfold Row.read
  split
  · rename_i q held
    rw [held, Except.ok.injEq, Option.some.injEq]
  · rename_i held
    rw [held]
    constructor <;> nofun

theorem Row.read_eq_error_iff {r : Row} {c : Corrupt} :
    r.read = .error c ↔ r.pipeline? = none ∧ c = ⟨r.id⟩ := by
  unfold Row.read
  split
  · rename_i q held
    rw [held]
    constructor <;> nofun
  · rename_i held
    rw [held, Except.error.injEq, eq_comm]
    exact (and_iff_right rfl).symm

namespace Rows

/-- Saves a pipeline: its row is replaced under the same number, or a new row is
added. -/
def save (p : Pipeline) (t : Rows) : Rows :=
  if t.rows.any fun r => r.id = p.id then
    { t with rows := t.rows.map fun r => if r.id = p.id then .ofPipeline r.number p else r }
  else { rows := t.rows ++ [.ofPipeline t.next p], next := t.next + 1 }

/-- The pipeline under an id. -/
def load (id : String) (t : Rows) : Except Corrupt (Option Pipeline) :=
  match t.rows.find? fun r => r.id = id with
  | some r => r.read.map some
  | none => .ok none

/-- Deletes a row. -/
def delete (id : String) (t : Rows) : Bool × Rows :=
  (t.rows.any fun r => r.id = id, { t with rows := t.rows.filter fun r => r.id ≠ id })

theorem load_of_find? {id : String} {t : Rows} {r : Row}
    (found : t.rows.find? (fun r => r.id = id) = some r) : t.load id = r.read.map some := by
  simp only [load, found]

theorem load_of_find?_eq_none {id : String} {t : Rows}
    (missing : t.rows.find? (fun r => r.id = id) = none) : t.load id = .ok none := by
  simp only [load, missing]

/-- Loading looks at the row under the id and at nothing else. -/
theorem load_congr {id : String} {t t' : Rows}
    (same : t'.rows.find? (fun r => r.id = id) = t.rows.find? fun r => r.id = id) :
    t'.load id = t.load id := by
  simp only [load, same]

/-- A pipeline is loaded from the row under its id. -/
theorem load_eq_ok_some_iff {id : String} {t : Rows} {p : Pipeline} :
    t.load id = .ok (some p) ↔
      ∃ r, t.rows.find? (fun r => r.id = id) = some r ∧ r.pipeline? = some p := by
  cases found : t.rows.find? fun r => r.id = id with
  | none => simp [load_of_find?_eq_none found]
  | some r =>
    simp only [load_of_find? found, Option.some.injEq, exists_eq_left', ← Row.read_eq_ok_iff]
    cases r.read <;> simp [Except.map]

instance : Backend Rows where
  empty := {}
  save := save
  load := load
  delete := delete
  list t := t.rows.mapM Row.read

end Rows

end StepFlow
