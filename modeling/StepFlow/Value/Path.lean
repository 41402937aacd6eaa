import StepFlow.Unicode.Blank
import StepFlow.Value

/-!
# Dotted paths into a value

A parameter reads a part of an earlier result through a **path**: segments
separated by dots, each a field of an object or an index into a list.  Blanks
around the path do not count, and the empty path is the whole value.  A path
that leads nowhere is absent, never an error.
-/

namespace StepFlow.Path

/-- The segments of a text between dots; a text without dots is one segment. -/
def segments : List Char → List (List Char)
  | [] => [[]]
  | c :: cs =>
    if c = '.' then [] :: segments cs
    else match segments cs with
      | [] => [[c]]
      | s :: rest => (c :: s) :: rest

/-- The value of a decimal digit. -/
def digit? (c : Char) : Option Nat :=
  if c.isDigit then some (c.toNat - 48) else none

/-- The number that decimal digits denote, after the digits read so far. -/
def numberFrom (n : Nat) : List Char → Option Nat
  | [] => some n
  | c :: cs => (digit? c).bind fun d => numberFrom (10 * n + d) cs

/-- The index that a segment denotes: decimal digits, after a plus sign or none. -/
def index? (segment : List Char) : Option Nat :=
  match segment with
  | [] => none
  | ['+'] => none
  | '+' :: ds => numberFrom 0 ds
  | ds => numberFrom 0 ds

/-- One hop: a field of an object, or an item of a list. -/
def hop (v : Value) (segment : List Char) : Option Value :=
  match v with
  | .obj fields => Entries.get? (String.ofList segment) fields
  | .arr items => (index? segment).bind fun i => items[i]?
  | _ => none

/-- Follows segments one after another. -/
def follow (v : Value) : List (List Char) → Option Value
  | [] => some v
  | s :: rest => (hop v s).bind fun w => follow w rest

/-- **Resolves a path in a value.** -/
def resolve (v : Value) (path : String) : Option Value :=
  match Unicode.trim path.toList with
  | [] => some v
  | cs => follow v (segments cs)

theorem segments_ne_nil (cs : List Char) : segments cs ≠ [] := by
  cases cs with
  | nil => simp [segments]
  | cons c cs =>
    unfold segments
    split
    · simp
    · split <;> simp

@[simp] theorem follow_nil (v : Value) : follow v [] = some v := rfl

/-- Following two lists of segments is following one and then the other. -/
theorem follow_append (v : Value) (a b : List (List Char)) :
    follow v (a ++ b) = (follow v a).bind fun w => follow w b := by
  induction a generalizing v with
  | nil => rfl
  | cons s a ih => simp only [List.cons_append, follow, ih, Option.bind_assoc]

end StepFlow.Path
