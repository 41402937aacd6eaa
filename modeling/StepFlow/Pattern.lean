import StepFlow.Unicode.Property

/-!
# Patterns

A **pattern** is a regular expression: characters from a set, empty tests of the
place between two characters, sequence, choice and counted repetition.  Matching
asks only whether the text has a matching part, so greediness plays no role and
the meaning of a pattern is a map of places:

> from these places in the text, which places can a match of the pattern reach?

Places are numbered from 0 to the length of the text, and a set of places is a
list of truth values of that length.  Every operation is a walk over such lists,
so matching takes no more than polynomial time and needs no backtracking.

A repetition never needs more rounds than the text has places: a path of more
rounds stands still in one of them, and that round may be left out or taken
again.  This bounds the rounds of all repetitions, the unbounded ones included.
-/

namespace StepFlow

/-- An empty test of the place between two characters. -/
inductive Look where
  /-- The start of the text. -/
  | textStart
  /-- The end of the text. -/
  | textEnd
  /-- The start of a line; `crlf` also ends lines with carriage returns. -/
  | lineStart (crlf : Bool)
  /-- The end of a line. -/
  | lineEnd (crlf : Bool)
  /-- Between a word character and another. -/
  | wordBoundary (word : Unicode.CodeSet)
  /-- Not between a word character and another. -/
  | noWordBoundary (word : Unicode.CodeSet)
  /-- Where a word starts. -/
  | wordStart (word : Unicode.CodeSet)
  /-- Where a word ends. -/
  | wordEnd (word : Unicode.CodeSet)
  /-- After no word character. -/
  | afterNoWord (word : Unicode.CodeSet)
  /-- Before no word character. -/
  | beforeNoWord (word : Unicode.CodeSet)
deriving Repr, DecidableEq

/-- Does the test hold between these two characters?  `none` is an end of the text. -/
def Look.holds (before after : Option Char) : Look → Bool
  | textStart => before.isNone
  | textEnd => after.isNone
  | lineStart false => before.all (· = '\n')
  | lineStart true => before.all (· = '\n') || (before = some '\r' && after ≠ some '\n')
  | lineEnd false => after.all (· = '\n')
  | lineEnd true => after.all (· = '\r') || (after = some '\n' && before ≠ some '\r')
  | wordBoundary w => before.any w.contains != after.any w.contains
  | noWordBoundary w => before.any w.contains == after.any w.contains
  | wordStart w => !before.any w.contains && after.any w.contains
  | wordEnd w => before.any w.contains && !after.any w.contains
  | afterNoWord w => !before.any w.contains
  | beforeNoWord w => !after.any w.contains

/-- **A pattern.** -/
inductive Pattern where
  | empty
  | one (set : Unicode.CodeSet)
  | look (l : Look)
  | seq (p q : Pattern)
  | alt (p q : Pattern)
  /-- At least `min` rounds and at most `max`; without a limit for `none`. -/
  | rounds (p : Pattern) (min : Nat) (max : Option Nat)
deriving Repr, DecidableEq

namespace Pattern

/-- A set of places of a text: one truth value for each place. -/
abbrev Places := List Bool

/-- Every place of a text. -/
def allPlaces (text : List Char) : Places := List.replicate (text.length + 1) true

/-- The places after a character of the set, read from a place of `s`; the first
place is after no character. -/
def stepPlaces (set : Unicode.CodeSet) (text : List Char) (s : Places) : Places :=
  false :: List.zipWith (fun here c => here && set.contains c) s text

/-- The places of `s` where the test holds; `before` is the character before
the first of them. -/
def keepPlaces (l : Look) : (before : Option Char) → List Char → Places → Places
  | _, _, [] => []
  | before, [], here :: _ => [here && l.holds before none]
  | before, c :: rest, here :: s =>
    (here && l.holds before (some c)) :: keepPlaces l (some c) rest s

/-- The places of either set. -/
def union (s t : Places) : Places := List.zipWith (· || ·) s t

/-- `n` rounds of a map of places. -/
def iterate (f : Places → Places) : (n : Nat) → Places → Places
  | 0, s => s
  | n + 1, s => if s.any id then iterate f n (f s) else s

/-- Up to `n` rounds of a map of places, stopping when nothing is added. -/
def gather (f : Places → Places) : (n : Nat) → Places → Places
  | 0, s => s
  | n + 1, s =>
    let t := union s (f s)
    if t = s then s else gather f n t

/-- **The places that a match reaches** from the places of `s`. -/
def reach (text : List Char) : Pattern → Places → Places
  | empty, s => s
  | one set, s => stepPlaces set text s
  | look l, s => keepPlaces l none text s
  | seq p q, s => reach text q (reach text p s)
  | alt p q, s => union (reach text p s) (reach text q s)
  | rounds p min max, s =>
    let limit := text.length + 1
    let most := match max with
      | none => limit
      | some m => Nat.min (m - min) limit
    gather (reach text p) most (iterate (reach text p) (Nat.min min limit) s)

/-- **Does a part of the text match?** -/
def occursIn (p : Pattern) (text : List Char) : Bool :=
  (reach text p (allPlaces text)).any id

end Pattern

end StepFlow
