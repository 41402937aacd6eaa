import StepFlow.Number.Double
import StepFlow.Table

/-!
# Data values

What tools return, what the global state holds and what expressions compute is
a **value**: null, a truth value, a number, a text, a list, or an object.

* Integers are exact.  A number written with a fraction, an exponent or too many
  digits is a double.  The integer `1` and the double `1.0` are different values,
  though they compare equal.
* The fields of an object are entries by ascending key, as in a table.
-/

namespace StepFlow

/-- **A data value.** -/
inductive Value where
  | null
  | bool (b : Bool)
  | int (n : Int)
  | float (x : Double)
  | str (s : String)
  | arr (items : List Value)
  | obj (fields : List (String × Value))
deriving Repr

/-- The kinds of value that messages tell apart. -/
inductive Kind where
  | null | boolean | number | string | array | object
deriving Repr, DecidableEq

/-- The name of a kind in messages. -/
def Kind.name : Kind → String
  | .null => "null"
  | .boolean => "boolean"
  | .number => "number"
  | .string => "string"
  | .array => "array"
  | .object => "object"

namespace Value

instance : Inhabited Value := ⟨.null⟩

/-- The kind of a value. -/
def kind : Value → Kind
  | null => .null
  | bool _ => .boolean
  | int _ => .number
  | float _ => .number
  | str _ => .string
  | arr _ => .array
  | obj _ => .object

/-- The double that stands for a number, rounded if it is a large integer. -/
def toDouble? : Value → Option Double
  | int n => Double.ofInt n
  | float x => some x
  | _ => none

/-- The text of a text value. -/
def text? : Value → Option String
  | str s => some s
  | _ => none

/-- The object with the entries of a table. -/
def ofTable (t : Table Value) : Value := obj t.entries

/-- Text or null. -/
def ofText? (s : Option String) : Value := s.elim null str

/-- The field `key` of an object. -/
def field? (v : Value) (key : String) : Option Value :=
  match v with
  | obj fields => Entries.get? key fields
  | _ => none

/-- The item at `index` of a list. -/
def item? (v : Value) (index : Nat) : Option Value :=
  match v with
  | arr items => items[index]?
  | _ => none

/-- The value of a computed number: an integer where the number is integral and
below `2 ^ 63` in magnitude, null where it is not finite, else a double. -/
def ofComputed : Option Double → Value
  | none => null
  | some x =>
    match x.toInt? with
    | some n => if n.natAbs < twoTo 63 then int n else float x
    | none => float x

/-- **Truthiness.**  Null, false, zero, the empty text and the empty list count
as false; everything else, the empty object included, as true. -/
def truthy : Value → Bool
  | null => false
  | bool b => b
  | int n => n ≠ 0
  | float x => !x.isZero
  | str s => !s.isEmpty
  | arr items => !items.isEmpty
  | obj _ => true

mutual

/-- **Structural sameness**: the same shape with the same leaves.  An integer is
never the same as a double; the two zeros of the doubles are. -/
def same : Value → Value → Bool
  | null, null => true
  | bool a, bool b => a == b
  | int a, int b => a == b
  | float a, float b => a.same b
  | str a, str b => a == b
  | arr a, arr b => sameItems a b
  | obj a, obj b => sameFields a b
  | _, _ => false

/-- Lists of the same length with the same items in order. -/
def sameItems : List Value → List Value → Bool
  | [], [] => true
  | a :: as, b :: bs => same a b && sameItems as bs
  | _, _ => false

/-- Objects with the same keys and the same value under each. -/
def sameFields : List (String × Value) → List (String × Value) → Bool
  | [], [] => true
  | (k, a) :: as, (l, b) :: bs => k == l && same a b && sameFields as bs
  | _, _ => false

end

/-- Equality of expressions: numbers by the doubles that stand for them, other
values by sameness. -/
def looseEq (a b : Value) : Bool :=
  match a.toDouble?, b.toDouble? with
  | some x, some y => x.same y
  | _, _ => a.same b

/-- The order of expressions: numbers by the doubles that stand for them, texts
by code points; other pairs have none. -/
def order? (a b : Value) : Option Ordering :=
  match a, b with
  | str s, str t => some (compare s t)
  | _, _ =>
    match a.toDouble?, b.toDouble? with
    | some x, some y => some (x.cmp y)
    | _, _ => none

end Value

end StepFlow
