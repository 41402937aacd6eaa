import StepFlow.Value

/-!
# Expression trees

An expression is a literal, a path into the context, or an operator applied to
expressions.  There are no function calls and no assignment.
-/

namespace StepFlow.Expression

/-- One hop of a path: a field by its key, or an item by its index. -/
inductive Segment where
  | key (name : String)
  | index (n : Nat)
deriving Repr, DecidableEq

/-- The operators with one operand. -/
inductive UnaryOp where
  | not
  | negate
deriving Repr, DecidableEq

/-- The operators with two operands. -/
inductive BinaryOp where
  | or
  | and
  | equal
  | notEqual
  | less
  | lessEqual
  | greater
  | greaterEqual
  | contains
  | matchesPattern
  | add
  | subtract
  | multiply
  | divide
  | remainder
deriving Repr, DecidableEq

/-- **An expression tree.** -/
inductive Tree where
  | literal (v : Value)
  | path (segments : List Segment)
  | unary (op : UnaryOp) (operand : Tree)
  | binary (op : BinaryOp) (left right : Tree)
deriving Repr

end StepFlow.Expression
