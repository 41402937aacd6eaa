import StepFlow.Document.Json

/-!
# Bare words in YAML

A word without quotes may stand for null, a truth value or a number; any other
word is a text.  Integers may be written in base ten, or in base 16, 8 or 2 after
`0x`, `0o` or `0b`.  Digits after a leading zero are a text, not a number.
-/

namespace StepFlow.Yaml

/-- Does a word stand for null? -/
def isNull (w : List Char) : Bool :=
  ["", "~", "null", "Null", "NULL"].any fun s => s.toList = w

/-- The truth value that a word stands for. -/
def bool? (w : List Char) : Option Bool :=
  if ["true", "True", "TRUE"].any fun s => s.toList = w then some true
  else if ["false", "False", "FALSE"].any fun s => s.toList = w then some false
  else none

/-- The value of a digit in some base. -/
def digit? (base : Nat) (c : Char) : Option Nat :=
  (JsonText.hexValue? c).bind fun n => if n < base then some n else none

/-- The number that digits denote in some base; there is at least one digit. -/
def natural? (base : Nat) (ds : List Char) : Option Nat :=
  if ds.isEmpty then none
  else ds.foldlM (fun n c => (digit? base c).map (base * n + ·)) 0

/-- Is this a zero with more digits after it, sign aside? -/
def isPadded (w : List Char) : Bool :=
  let ds := match w with
    | '+' :: ds => ds
    | '-' :: ds => ds
    | ds => ds
  1 < ds.length && ds.head? = some '0' && ds.all Char.isDigit

/-- A number without a sign in one of the bases. -/
def magnitude? (padded : Bool) (w : List Char) : Option Nat :=
  match w with
  | '0' :: 'x' :: ds => natural? 16 ds
  | '0' :: 'o' :: ds => natural? 8 ds
  | '0' :: 'b' :: ds => natural? 2 ds
  | ds => if padded then none else natural? 10 ds

/-- **The integer that a word stands for.** -/
def int? (w : List Char) : Option Int :=
  match w with
  | '+' :: ds => (magnitude? (isPadded w) ds).map fun n => n
  | '-' :: ds => (magnitude? (isPadded w) ds).map fun n => -n
  | ds => (magnitude? (isPadded w) ds).map fun n => n

/-- The exponent of a number and nothing after it. -/
def exponent? (cs : List Char) : Option Int :=
  match cs with
  | [] => some 0
  | e :: rest =>
    if e = 'e' ∨ e = 'E' then
      match rest with
      | '-' :: ds => (natural? 10 ds).map fun n => -n
      | '+' :: ds => (natural? 10 ds).map fun n => n
      | ds => (natural? 10 ds).map fun n => n
    else none

/-- The double that a word without a sign stands for. -/
def decimal? (negative : Bool) (w : List Char) : Option Double := do
  let whole := w.takeWhile Char.isDigit
  let (fraction, rest) := match w.dropWhile Char.isDigit with
    | '.' :: rest => (rest.takeWhile Char.isDigit, rest.dropWhile Char.isDigit)
    | rest => ([], rest)
  if whole.isEmpty ∧ fraction.isEmpty then none
  let e ← exponent? rest
  Double.ofDecimal negative (JsonText.naturalOf (whole ++ fraction)) (e - fraction.length)

/-- The double that a word stands for; one beyond all doubles stands for none. -/
def float? (w : List Char) : Option Double :=
  if isPadded w then none
  else
    match w with
    | '+' :: cs => decimal? false cs
    | '-' :: cs => decimal? true cs
    | cs => decimal? false cs

/-- Does a word stand for infinity or for no number?  As a value it is null. -/
def isNonFinite (w : List Char) : Bool :=
  [".inf", ".Inf", ".INF", "+.inf", "+.Inf", "+.INF", "-.inf", "-.Inf", "-.INF", ".nan", ".NaN",
    ".NAN"].any fun s => s.toList = w

/-- An integer as a tree.  Beyond 64 bits, but within 128, it cannot be read. -/
def ofInt? (n : Int) : Option JsonText :=
  if -twoTo 63 ≤ n ∧ n < twoTo 64 then some (.int n)
  else if -twoTo 127 ≤ n ∧ n < twoTo 128 then some .unreadable
  else none

/-- **The tree of a bare word**, by its own type. -/
def typed (w : List Char) : JsonText :=
  if isNull w then .null
  else
    match bool? w with
    | some b => .bool b
    | none =>
      match (int? w).bind ofInt? with
      | some t => t
      | none =>
        match float? w with
        | some x => .float x
        | none => if isNonFinite w then .null else .str (String.ofList w)

end StepFlow.Yaml
