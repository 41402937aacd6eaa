import StepFlow.Document

/-!
# JSON texts

`JsonText.parse` reads a JSON text into a tree that keeps every field in its
place, a repeated key included, so that a reader of records can refuse the
repetition and a reader of maps can keep the last one.

* An integer without a sign below `2 ^ 64`, or with one from `-2 ^ 63`, is exact.
  Any other number is a double, and so is `-0`.
* A double is read from its leading digits, as many as stay below `2 ^ 64`, and a
  power of ten: the digits are rounded first, the product or quotient after.
* A number beyond the doubles, and a text with half of a surrogate pair, cannot
  be read; they are refused unless the field they belong to does not count.
* Lists and objects nest less than 128 deep.
-/

namespace StepFlow

/-- **The tree of a JSON text.** -/
inductive JsonText where
  | null
  | bool (b : Bool)
  | int (n : Int)
  | float (x : Double)
  | str (s : String)
  | arr (items : List JsonText)
  | obj (fields : List (String × JsonText))
  /-- A number or a text without a value. -/
  | unreadable
deriving Repr

namespace JsonText

/-- Blanks between tokens. -/
def isSpace (c : Char) : Bool := c = ' ' || c = '\n' || c = '\t' || c = '\r'

/-- Passes over blanks. -/
def skip (cs : List Char) : List Char := cs.dropWhile isSpace

/-- How deep lists and objects may nest, the first refused depth. -/
def depthLimit : Nat := 128

/-- A power of ten as a double. -/
def powerOfTen (k : Nat) : Option Double := Double.ofDecimal false 1 k

/-- `x · 10 ^ e` in steps of rounded products and quotients.  Three steps bring
any double to zero. -/
def scaleByTen : (steps : Nat) → (e : Int) → Double → Option Double
  | 0, _, x => some x
  | steps + 1, e, x =>
    if x.isZero then some x
    else if 308 < e then none
    else if 0 ≤ e then (powerOfTen e.toNat).bind x.mul
    else if -308 ≤ e then (powerOfTen e.natAbs).bind x.div
    else ((powerOfTen 308).bind x.div).bind fun y => scaleByTen steps (e + 308) y

/-- The digits of the integral part, as far as they stay below `2 ^ 64`, and how
many are left over. -/
def wholeDigits : (n : Nat) → List Char → Nat × Nat
  | n, [] => (n, 0)
  | n, c :: cs =>
    let m := 10 * n + (c.toNat - 48)
    if m < twoTo 64 then wholeDigits m cs else (n, (c :: cs).length)

/-- Goes on with the digits of the fraction, and counts how many were taken. -/
def fractionDigits : (n taken : Nat) → List Char → Nat × Nat
  | n, taken, [] => (n, taken)
  | n, taken, c :: cs =>
    let m := 10 * n + (c.toNat - 48)
    if m < twoTo 64 then fractionDigits m (taken + 1) cs else (n, taken)

/-- The number that decimal digits denote. -/
def naturalOf (ds : List Char) : Nat := ds.foldl (fun n d => 10 * n + (d.toNat - 48)) 0

/-- A double from its sign, the digits before and after the point, and the exponent. -/
def double (negative : Bool) (whole fraction : List Char) (exponent : Int) : JsonText :=
  let (n, excess) := wholeDigits 0 whole
  let (n, taken) := fractionDigits n 0 fraction
  match (Double.ofInt n).bind (scaleByTen 4 (exponent + excess - taken)) with
  | some x => float (if negative then x.neg else x)
  | none => unreadable

/-- The exponent of a number, if there is one. -/
def exponentPart (cs : List Char) : Option (Option Int × List Char) :=
  match cs with
  | c :: rest =>
    if c = 'e' ∨ c = 'E' then
      let (negative, rest) := match rest with
        | '-' :: rest => (true, rest)
        | '+' :: rest => (false, rest)
        | rest => (false, rest)
      let ds := rest.takeWhile Char.isDigit
      if ds.isEmpty then none
      else
        let n : Int := naturalOf ds
        some (some (if negative then -n else n), rest.dropWhile Char.isDigit)
    else some (none, cs)
  | [] => some (none, [])

/-- A number after its sign. -/
def number (negative : Bool) (cs : List Char) : Option (JsonText × List Char) := do
  let whole := cs.takeWhile Char.isDigit
  let rest := cs.dropWhile Char.isDigit
  if whole.isEmpty ∨ (whole.head? = some '0' ∧ 1 < whole.length) then none
  let (fraction?, rest) ← match rest with
    | '.' :: rest =>
      let ds := rest.takeWhile Char.isDigit
      if ds.isEmpty then none else some (some ds, rest.dropWhile Char.isDigit)
    | rest => some (none, rest)
  let (exponent?, rest) ← exponentPart rest
  match fraction?, exponent? with
  | none, none =>
    let n := naturalOf whole
    if negative then
      if n = 0 ∨ twoTo 63 < n then return (double true whole [] 0, rest)
      else return (int (-n), rest)
    else if n < twoTo 64 then return (int n, rest)
    else return (double false whole [] 0, rest)
  | _, _ => return (double negative whole (fraction?.getD []) (exponent?.getD 0), rest)

/-- The value of a hexadecimal digit. -/
def hexValue? (c : Char) : Option Nat :=
  if c.isDigit then some (c.toNat - 48)
  else if 'a' ≤ c ∧ c ≤ 'f' then some (c.toNat - 87)
  else if 'A' ≤ c ∧ c ≤ 'F' then some (c.toNat - 55)
  else none

/-- The number that four hexadecimal digits denote. -/
def hex4? (a b c d : Char) : Option Nat :=
  [a, b, c, d].foldlM (fun n x => (hexValue? x).map (16 * n + ·)) 0

/-- What a letter after a backslash stands for. -/
def escaped? (c : Char) : Option Char :=
  match c with
  | '"' => some '"'
  | '\\' => some '\\'
  | '/' => some '/'
  | 'b' => some '\x08'
  | 'f' => some '\x0c'
  | 'n' => some '\n'
  | 'r' => some '\r'
  | 't' => some '\t'
  | _ => none

/-- A text after its opening quote: its characters, `none` if half of a surrogate
pair is among them, and the rest. -/
def stringBody : List Char → Option (Option (List Char) × List Char)
  | [] => none
  | '"' :: rest => some (some [], rest)
  | '\\' :: 'u' :: a :: b :: c :: d :: '\\' :: 'u' :: e :: f :: g :: h :: rest =>
    match hex4? a b c d, hex4? e f g h with
    | some n, some m =>
      if 0xD800 ≤ n ∧ n < 0xDC00 ∧ 0xDC00 ≤ m ∧ m < 0xE000 then
        (stringBody rest).map fun r =>
          (r.1.map (Char.ofNat (0x10000 + (n - 0xD800) * 0x400 + (m - 0xDC00)) :: ·), r.2)
      else if 0xD800 ≤ n ∧ n < 0xE000 then
        (stringBody ('\\' :: 'u' :: e :: f :: g :: h :: rest)).map fun r => (none, r.2)
      else
        (stringBody ('\\' :: 'u' :: e :: f :: g :: h :: rest)).map fun r =>
          (r.1.map (Char.ofNat n :: ·), r.2)
    | _, _ => none
  | '\\' :: 'u' :: a :: b :: c :: d :: rest =>
    (hex4? a b c d).bind fun n =>
      (stringBody rest).map fun r =>
        (if 0xD800 ≤ n ∧ n < 0xE000 then none else r.1.map (Char.ofNat n :: ·), r.2)
  | '\\' :: c :: rest =>
    (escaped? c).bind fun e => (stringBody rest).map fun r => (r.1.map (e :: ·), r.2)
  | c :: rest =>
    if c.toNat < 0x20 ∨ c = '\\' then none
    else (stringBody rest).map fun r => (r.1.map (c :: ·), r.2)

/-- A fixed word. -/
def word (w : List Char) (v : JsonText) (cs : List Char) : Option (JsonText × List Char) :=
  if w.isPrefixOf cs then some (v, cs.drop w.length) else none

mutual

/-- A value at the head of the text.  Every call takes a character or ends, so
`fuel` beyond the length of the text is never used up. -/
def value : (fuel depth : Nat) → List Char → Option (JsonText × List Char)
  | 0, _, _ => none
  | fuel + 1, depth, cs =>
    match skip cs with
    | [] => none
    | '"' :: rest =>
      (stringBody rest).map fun r => (match r.1 with
        | some s => str (String.ofList s)
        | none => unreadable, r.2)
    | '[' :: rest =>
      if depth ≤ 1 then none
      else match skip rest with
        | ']' :: rest => some (arr [], rest)
        | rest => (items fuel (depth - 1) rest).map fun r => (arr r.1, r.2)
    | '\x7b' :: rest =>
      if depth ≤ 1 then none
      else match skip rest with
        | '\x7d' :: rest => some (obj [], rest)
        | rest => (fields fuel (depth - 1) rest).map fun r => (obj r.1, r.2)
    | '-' :: rest => number true rest
    | 't' :: rest => word ['r', 'u', 'e'] (bool true) rest
    | 'f' :: rest => word ['a', 'l', 's', 'e'] (bool false) rest
    | 'n' :: rest => word ['u', 'l', 'l'] null rest
    | rest => number false rest

/-- The items of a list and its closing bracket; there is at least one item. -/
def items : (fuel depth : Nat) → List Char → Option (List JsonText × List Char)
  | 0, _, _ => none
  | fuel + 1, depth, cs =>
    match value fuel depth cs with
    | none => none
    | some (v, rest) =>
      match skip rest with
      | ',' :: rest => (items fuel depth rest).map fun r => (v :: r.1, r.2)
      | ']' :: rest => some ([v], rest)
      | _ => none

/-- The fields of an object and its closing brace; there is at least one field. -/
def fields : (fuel depth : Nat) → List Char → Option (List (String × JsonText) × List Char)
  | 0, _, _ => none
  | fuel + 1, depth, cs =>
    match skip cs with
    | '"' :: rest =>
      match stringBody rest with
      | some (some k, rest) =>
        match skip rest with
        | ':' :: rest =>
          match value fuel depth rest with
          | none => none
          | some (v, rest) =>
            match skip rest with
            | ',' :: rest =>
              (fields fuel depth rest).map fun r => ((String.ofList k, v) :: r.1, r.2)
            | '\x7d' :: rest => some ([(String.ofList k, v)], rest)
            | _ => none
        | _ => none
      | _ => none
    | _ => none

end

/-- **Reads a JSON text**; only blanks may follow it. -/
def parse (text : String) : Option JsonText :=
  let cs := text.toList
  match value (2 * cs.length + 2) depthLimit cs with
  | some (v, rest) => if (skip rest).isEmpty then some v else none
  | none => none

mutual

/-- The value of the tree; of two fields under one key the last one stays. -/
def value? : JsonText → Option Value
  | null => some .null
  | bool b => some (.bool b)
  | int n => some (.int n)
  | float x => some (.float x)
  | str s => some (.str s)
  | arr items => (itemValues? items).map .arr
  | obj fields => (fieldValues? fields).map fun fs => .ofTable (Table.ofEntries fs)
  | unreadable => none

/-- The values of items. -/
def itemValues? : List JsonText → Option (List Value)
  | [] => some []
  | t :: rest => do
    let v ← value? t
    let vs ← itemValues? rest
    return v :: vs

/-- The values of fields. -/
def fieldValues? : List (String × JsonText) → Option (List (String × Value))
  | [] => some []
  | (k, t) :: rest => do
    let v ← value? t
    let vs ← fieldValues? rest
    return (k, v) :: vs

end

/-- A JSON text is a document: its types are plain, its keys may repeat. -/
instance : Document JsonText where
  isNull
    | .null => true
    | _ => false
  text?
    | .str s => some s
    | _ => none
  bool?
    | .bool b => some b
    | _ => none
  int?
    | .int n => some n
    | _ => none
  items?
    | .arr items => some items
    | _ => none
  entries?
    | .obj fields => some (fields.map fun f => (some f.1, f.2))
    | _ => none
  positions?
    | .arr items => some items
    | _ => none
  settle t := t
  value? := value?

end JsonText

/-- The value that a JSON text denotes. -/
def Value.ofJson? (text : String) : Option Value := (JsonText.parse text).bind JsonText.value?

end StepFlow
