import StepFlow.Expression.Parser
import StepFlow.Pattern.Parser
import StepFlow.Text.Occurrence
import StepFlow.Value.Text

/-!
# The value of an expression

An expression is evaluated against a **context**, a value that is only read.
Paths look up fields and items in it, and a path that leads nowhere is null.

* `&&` and `||` evaluate their right operand only if the left one does not
  decide, and give truth values.
* Numbers are computed as doubles; a result that is integral and below `2 ^ 63`
  in magnitude becomes an integer, one that is not finite becomes null.
* `+` joins as soon as one operand is a text.
* A comparison of values that have no order is false.
-/

namespace StepFlow.Expression

/-- One hop of a path: keys go into objects, indices into lists. -/
def Segment.hop (s : Segment) (v : Value) : Option Value :=
  match s with
  | .key name => v.field? name
  | .index n => v.item? n

/-- The value at a path, if it leads somewhere. -/
def lookup (context : Value) : List Segment → Option Value
  | [] => some context
  | s :: rest => (s.hop context).bind fun v => lookup v rest

/-- Containment: a text in a text, a value among the items of a list, a key
among those of an object. -/
def holds (container item : Value) : Bool :=
  match container with
  | .str s => item.text?.any fun t => Text.occursIn t.toList s.toList
  | .arr items => items.any fun v => v.looseEq item
  | .obj fields => item.text?.any fun k => (Entries.get? k fields).isSome
  | _ => false

/-- The result of an arithmetic operator on doubles. -/
def calculate (op : BinaryOp) (x y : Double) : Except Failure Value :=
  match op with
  | .subtract => .ok (.ofComputed (x.sub y))
  | .multiply => .ok (.ofComputed (x.mul y))
  | .divide => if y.isZero then .error .divisionByZero else .ok (.ofComputed (x.div y))
  | .remainder => if y.isZero then .error .divisionByZero else .ok (.ofComputed (x.rem y))
  | _ => .ok (.ofComputed (x.add y))

/-- An arithmetic operator; both operands must be numbers. -/
def arithmetic (op : BinaryOp) (l r : Value) : Except Failure Value :=
  match l.toDouble?, r.toDouble? with
  | some x, some y => calculate op x y
  | _, _ => .error (.kind (.arithmetic l.kind r.kind))

/-- Does a part of `l` match the pattern `r`?  The pattern must be a text and a
pattern whatever `l` is; a value that is no text matches nothing. -/
def matchPattern (l r : Value) : Except Failure Bool :=
  match r.text? with
  | none => .error (.kind (.pattern r.kind))
  | some p =>
    match Pattern.parse p with
    | none => .error (.pattern p)
    | some pattern => .ok (l.text?.any fun s => pattern.occursIn s.toList)

/-- A sum, or two values joined to a text. -/
def addOrJoin (l r : Value) : Except Failure Value :=
  match l, r with
  | .str a, b => .ok (.str (a ++ b.display))
  | a, .str b => .ok (.str (a.display ++ b))
  | _, _ => arithmetic .add l r

/-- The operators on two evaluated operands. -/
def applyBinary (op : BinaryOp) (l r : Value) : Except Failure Value :=
  match op with
  | .equal => .ok (.bool (l.looseEq r))
  | .notEqual => .ok (.bool (!l.looseEq r))
  | .less => .ok (.bool (l.order? r = some .lt))
  | .lessEqual => .ok (.bool (l.order? r = some .lt || l.order? r = some .eq))
  | .greater => .ok (.bool (l.order? r = some .gt))
  | .greaterEqual => .ok (.bool (l.order? r = some .gt || l.order? r = some .eq))
  | .contains => .ok (.bool (holds l r))
  | .matchesPattern => .bool <$> matchPattern l r
  | .add => addOrJoin l r
  | .and => .ok (.bool (l.truthy && r.truthy))
  | .or => .ok (.bool (l.truthy || r.truthy))
  | op => arithmetic op l r

/-- The operators on one evaluated operand. -/
def applyUnary (op : UnaryOp) (v : Value) : Except Failure Value :=
  match op with
  | .not => .ok (.bool !v.truthy)
  | .negate =>
    match v.toDouble? with
    | some x => .ok (.ofComputed (some x.neg))
    | none => .error (.kind (.negate v.kind))

/-- **The value of a tree in a context.** -/
def Tree.eval (context : Value) : Tree → Except Failure Value
  | .literal v => .ok v
  | .path segments => .ok ((lookup context segments).getD .null)
  | .unary op x => do applyUnary op (← x.eval context)
  | .binary .and l r => do
    if (← l.eval context).truthy then return .bool (← r.eval context).truthy
    else return .bool false
  | .binary .or l r => do
    if (← l.eval context).truthy then return .bool true
    else return .bool (← r.eval context).truthy
  | .binary op l r => do
    let a ← l.eval context
    let b ← r.eval context
    applyBinary op a b

/-- The value of an expression in a context. -/
def eval (e : Expression) (context : Value) : Except Failure Value := e.root.eval context

/-- Is the value of an expression in a context truthy? -/
def isSatisfied (e : Expression) (context : Value) : Except Failure Bool :=
  Value.truthy <$> e.eval context

/-- **Reads a condition and decides it in a context.** -/
def decide (source : String) (context : Value) : Except Failure Bool := do
  let e ← (parse source).mapError .read
  e.isSatisfied context

end StepFlow.Expression
