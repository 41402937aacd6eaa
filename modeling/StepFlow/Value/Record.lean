import StepFlow.Value

/-!
# Writing records as values

A record is written as an object.  A field that the format leaves out is `none`
in the list of fields; words, tables and lists are written item by item.
-/

namespace StepFlow.Value

/-- **A record**: the object of the fields that are there. -/
def record (fields : List (String × Option Value)) : Value :=
  .ofTable (Table.ofEntries (fields.filterMap fun f => f.2.map fun v => (f.1, v)))

/-- A natural number. -/
def ofNat (n : Nat) : Value := int n

/-- A list, each item written. -/
def ofList {α : Type} (write : α → Value) (items : List α) : Value := arr (items.map write)

/-- A table, each value written. -/
def ofTableWith {α : Type} (write : α → Value) (t : Table α) : Value :=
  .ofTable (t.mapValues fun _ a => write a)

/-- What is written only if `present` holds. -/
def writtenIf (present : Bool) (v : Value) : Option Value := if present then some v else none

end StepFlow.Value
