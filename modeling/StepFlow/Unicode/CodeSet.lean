/-!
# Sets of code points

A character property is a set of code points, held as closed ranges in
ascending order with a gap between any two.  The Unicode tables of this library
and the character classes of patterns are values of this one type, so a class
is built from properties by union, complement and difference.
-/

namespace StepFlow.Unicode

/-- A set of code points as closed ranges `(first, last)`, ascending and apart. -/
structure CodeSet where
  ranges : List (Nat × Nat)
deriving Repr, DecidableEq

namespace CodeSet

/-- The last code point there is. -/
def lastCode : Nat := 0x10FFFF

/-- Does the set hold code point `n`? -/
def holds (s : CodeSet) (n : Nat) : Bool :=
  s.ranges.any fun r => r.1 ≤ n && n ≤ r.2

/-- Does the set hold the character `c`? -/
def contains (s : CodeSet) (c : Char) : Bool :=
  s.holds c.toNat

/-- The empty set. -/
def empty : CodeSet := ⟨[]⟩

/-- Every code point. -/
def full : CodeSet := ⟨[(0, lastCode)]⟩

/-- The code points from `first` to `last`. -/
def range (first last : Nat) : CodeSet :=
  if first ≤ last then ⟨[(first, last)]⟩ else empty

/-- The set of one character. -/
def single (c : Char) : CodeSet := ⟨[(c.toNat, c.toNat)]⟩

/-- Adds a range to ascending ranges, melting it with those it meets. -/
def insertRange (lo hi : Nat) : List (Nat × Nat) → List (Nat × Nat)
  | [] => [(lo, hi)]
  | (a, b) :: rest =>
    if hi + 1 < a then (lo, hi) :: (a, b) :: rest
    else if b + 1 < lo then (a, b) :: insertRange lo hi rest
    else insertRange (min lo a) (max hi b) rest

/-- The code points of either set. -/
def union (s t : CodeSet) : CodeSet :=
  ⟨t.ranges.foldl (fun acc r => insertRange r.1 r.2 acc) s.ranges⟩

/-- The ranges that ascending ranges leave out, from `lo` on. -/
def gaps (lo : Nat) : List (Nat × Nat) → List (Nat × Nat)
  | [] => if lo ≤ lastCode then [(lo, lastCode)] else []
  | (a, b) :: rest => if lo < a then (lo, a - 1) :: gaps (b + 1) rest else gaps (b + 1) rest

/-- The code points that are not in the set. -/
def complement (s : CodeSet) : CodeSet := ⟨gaps 0 s.ranges⟩

/-- The code points of both sets. -/
def inter (s t : CodeSet) : CodeSet :=
  (s.complement.union t.complement).complement

/-- The code points of `s` that are not in `t`. -/
def diff (s t : CodeSet) : CodeSet :=
  s.inter t.complement

/-- The code points of exactly one of the two sets. -/
def symmDiff (s t : CodeSet) : CodeSet :=
  (s.diff t).union (t.diff s)

/-- The value of a hexadecimal digit; other characters count as zero. -/
def hexDigit (c : Char) : Nat :=
  if '0' ≤ c ∧ c ≤ '9' then c.toNat - 48
  else if 'A' ≤ c ∧ c ≤ 'F' then c.toNat - 55
  else 0

/-- The range that has been read, if its last bound has. -/
def finishRange (lo? hi? : Option Nat) : List (Nat × Nat) :=
  match hi? with
  | none => []
  | some hi => [(lo?.getD hi, hi)]

/-- Reads ranges such as `41-5A B5`, hexadecimal and separated by blanks and line
feeds.  `lo?` holds the first bound once a dash has been read. -/
def readRanges : List Char → (lo? hi? : Option Nat) → List (Nat × Nat)
  | [], lo?, hi? => finishRange lo? hi?
  | c :: cs, lo?, hi? =>
    if c = ' ' ∨ c = '\n' then finishRange lo? hi? ++ readRanges cs none none
    else if c = '-' then readRanges cs hi? none
    else readRanges cs lo? (some (16 * hi?.getD 0 + hexDigit c))

/-- The set written as text: ascending hexadecimal ranges. -/
def ofText (text : String) : CodeSet := ⟨readRanges text.toList none none⟩

end CodeSet

end StepFlow.Unicode
