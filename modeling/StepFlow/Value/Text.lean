import StepFlow.Number.Layout
import StepFlow.Value

/-!
# The compact text of a value

A value is written as JSON without blanks, with the fields of an object in
their order.  This is the text that takes part when a value is joined to a text
in an expression, and the form in which definitions are kept and exchanged.
-/

namespace StepFlow.Value

/-- Numbers are written with the fewest digits that identify them, positionally
from `0.00001` up to below `10 ^ 16`, otherwise with a signed exponent. -/
def numberLayout : Layout where
  plainFrom := -5
  plainBelow := 16
  expPlus := true
  tie := .even

/-- A digit from 0 to 15 as a lower-case hexadecimal digit. -/
def hexDigit (n : Nat) : Char :=
  if n < 10 then Char.ofNat (48 + n) else Char.ofNat (87 + n)

/-- A character inside quotes.  The quote, the backslash and control characters
are escaped, by a letter where there is one. -/
def escapeChar (c : Char) : List Char :=
  match c with
  | '"' => ['\\', '"']
  | '\\' => ['\\', '\\']
  | '\n' => ['\\', 'n']
  | '\t' => ['\\', 't']
  | '\r' => ['\\', 'r']
  | '\x08' => ['\\', 'b']
  | '\x0c' => ['\\', 'f']
  | c =>
    if c.toNat < 0x20 then
      ['\\', 'u', '0', '0', hexDigit (c.toNat / 16), hexDigit (c.toNat % 16)]
    else [c]

/-- A text in double quotes. -/
def quote (s : String) : List Char :=
  '"' :: (s.toList.flatMap escapeChar ++ ['"'])

mutual

/-- The compact text of a value. -/
def chars : Value → List Char
  | null => ['n', 'u', 'l', 'l']
  | bool true => ['t', 'r', 'u', 'e']
  | bool false => ['f', 'a', 'l', 's', 'e']
  | int n => (if n < 0 then ['-'] else []) ++ Layout.digits n.natAbs
  | float x => numberLayout.write x
  | str s => quote s
  | arr items => '[' :: (itemChars items ++ [']'])
  | obj fields => '\x7b' :: (fieldChars fields ++ ['\x7d'])

/-- The items of a list, separated by commas. -/
def itemChars : List Value → List Char
  | [] => []
  | [v] => chars v
  | v :: w :: rest => chars v ++ ',' :: itemChars (w :: rest)

/-- The fields of an object, separated by commas. -/
def fieldChars : List (String × Value) → List Char
  | [] => []
  | [(k, v)] => quote k ++ ':' :: chars v
  | (k, v) :: e :: rest => quote k ++ ':' :: (chars v ++ ',' :: fieldChars (e :: rest))

end

/-- **The compact text of a value.** -/
def compact (v : Value) : String := String.ofList v.chars

/-- How a value reads when it is joined to a text: a text is itself, anything
else its compact text. -/
def display : Value → String
  | str s => s
  | v => v.compact

end StepFlow.Value
