import StepFlow.Number.Power
import StepFlow.Pattern
import StepFlow.Unicode.Blank
import StepFlow.Unicode.CaseFolding

/-!
# Reading patterns

`Pattern.parse` reads the text of a pattern or refuses it.  Beyond literals,
classes, groups, choice and repetition it knows flags (`(?i)`, `(?i:…)`; the
flags `i m s u x R U`), named groups, classes inside classes with intersection,
difference and symmetric difference, ASCII classes such as `[:alpha:]`, Unicode
classes by property, category or script, and the word tests.  There is no
look-around and there are no back-references.

Flags act on what is read after them, so the reader carries them and a character
becomes a set of characters at once: under `i` the case-insensitive closure,
without `u` ASCII characters only.  What could match a part of a character is
refused.

The depth of a pattern is at most 250 levels of groups, repetitions, choices,
sequences and bracketed classes.  There is no other limit on it.  Patterns are not
compiled here, so none is refused for the size that it would be compiled to, as
nested counted repetitions with large counts can be.
-/

namespace StepFlow.Pattern

/-- The flags in force. -/
structure Flags where
  ignoreCase : Bool
  multiLine : Bool
  dotAll : Bool
  unicode : Bool
  verbose : Bool
  crlf : Bool
deriving Repr, DecidableEq

/-- Where reading starts: Unicode, and nothing else. -/
def Flags.initial : Flags := ⟨false, false, false, true, false, false⟩

/-- How deep a pattern may nest. -/
def maxDepth : Nat := 250

/-- Passes over blanks and comments; a comment goes from `#` to the end of the line. -/
def skipVerbose : (inComment : Bool) → List Char → List Char
  | _, [] => []
  | true, c :: cs => skipVerbose (c ≠ '\n') cs
  | false, c :: cs =>
    if Unicode.isBlank c then skipVerbose false cs
    else if c = '#' then skipVerbose true cs
    else c :: cs

/-- What counts next: in verbose mode blanks and comments are passed over. -/
def skip (verbose : Bool) (cs : List Char) : List Char :=
  if verbose then skipVerbose false cs else cs

/-- The value of a hexadecimal digit. -/
def hexValue? (c : Char) : Option Nat :=
  if c.isDigit then some (c.toNat - 48)
  else if 'a' ≤ c ∧ c ≤ 'f' then some (c.toNat - 87)
  else if 'A' ≤ c ∧ c ≤ 'F' then some (c.toNat - 55)
  else none

/-- The character with this code, if there is one. -/
def charOf? (n : Nat) : Option Char :=
  if n.isValidChar then some (Char.ofNat n) else none

/-- `n` hexadecimal digits. -/
def fixedHex (verbose : Bool) : (n value : Nat) → List Char → Option (Nat × List Char)
  | 0, value, cs => some (value, cs)
  | n + 1, value, cs =>
    match cs with
    | c :: rest =>
      (hexValue? c).bind fun d => fixedHex verbose n (16 * value + d) (skip verbose rest)
    | [] => none

/-- The characters up to a closing brace, without what verbose mode passes over. -/
def upToBrace (verbose : Bool) : (fuel : Nat) → List Char → Option (List Char × List Char)
  | 0, _ => none
  | fuel + 1, cs =>
    match skip verbose cs with
    | [] => none
    | c :: rest =>
      if c = '\x7d' then some ([], rest)
      else (upToBrace verbose fuel rest).map fun r => (c :: r.1, r.2)

/-- The code point that hexadecimal digits denote; there is at least one. -/
def hexNumber? (ds : List Char) : Option Nat :=
  if ds.isEmpty then none
  else ds.foldlM (fun n c => (hexValue? c).map (16 * n + ·)) 0

/-- One element of a pattern before it is known to be an operand. -/
inductive Atom where
  /-- A character; `byte` tells that it was written as a two-digit code. -/
  | literal (c : Char) (byte : Bool)
  /-- A named class and whether it is complemented. -/
  | named (set : Unicode.CodeSet) (negated : Bool)
  /-- A class of a property, which the case-insensitive closure applies to. -/
  | property (set : Unicode.CodeSet) (negated : Bool)
  | test (l : Look)
deriving Repr

/-- Characters that have a meaning of their own in patterns. -/
def isMeta (c : Char) : Bool :=
  "\\.+*?()|[]\x7b\x7d^$#&-~".toList.contains c

/-- May the character stand after a backslash for itself? -/
def isEscapable (c : Char) : Bool :=
  isMeta c || (c.toNat < 0x80 && !c.isAlphanum && c ≠ '<' && c ≠ '>')

/-- The ASCII ranges under these names. -/
def asciiClass? (name : String) : Option Unicode.CodeSet :=
  let set (rs : List (Nat × Nat)) : Option Unicode.CodeSet := some ⟨rs⟩
  match name with
  | "alnum" => set [(0x30, 0x39), (0x41, 0x5A), (0x61, 0x7A)]
  | "alpha" => set [(0x41, 0x5A), (0x61, 0x7A)]
  | "ascii" => set [(0x00, 0x7F)]
  | "blank" => set [(0x09, 0x09), (0x20, 0x20)]
  | "cntrl" => set [(0x00, 0x1F), (0x7F, 0x7F)]
  | "digit" => set [(0x30, 0x39)]
  | "graph" => set [(0x21, 0x7E)]
  | "lower" => set [(0x61, 0x7A)]
  | "print" => set [(0x20, 0x7E)]
  | "punct" => set [(0x21, 0x2F), (0x3A, 0x40), (0x5B, 0x60), (0x7B, 0x7E)]
  | "space" => set [(0x09, 0x0D), (0x20, 0x20)]
  | "upper" => set [(0x41, 0x5A)]
  | "word" => set [(0x30, 0x39), (0x41, 0x5A), (0x5F, 0x5F), (0x61, 0x7A)]
  | "xdigit" => set [(0x30, 0x39), (0x41, 0x46), (0x61, 0x66)]
  | _ => none

/-- The word characters in force. -/
def wordSet (flags : Flags) : Unicode.CodeSet :=
  if flags.unicode then Unicode.wordCharacters else (asciiClass? "word").getD .empty

/-- A part of a text between markers: what comes before the first `mark`, and
what comes after it. -/
def splitAtMark (mark : List Char) : List Char → Option (List Char × List Char)
  | [] => none
  | c :: cs =>
    if mark.isPrefixOf (c :: cs) then some ([], (c :: cs).drop mark.length)
    else (splitAtMark mark cs).map fun r => (c :: r.1, r.2)

/-- The set that the text between the braces of a Unicode class names, and
whether it is complemented by a `!=`. -/
def unicodeClass? (name : List Char) : Option (Unicode.CodeSet × Bool) :=
  match splitAtMark ['!', '='] name with
  | some (p, v) => (Unicode.valuedSet? p v).map (·, true)
  | none =>
    match splitAtMark [':'] name with
    | some (p, v) => (Unicode.valuedSet? p v).map (·, false)
    | none =>
      match splitAtMark ['='] name with
      | some (p, v) => (Unicode.valuedSet? p v).map (·, false)
      | none => (Unicode.namedSet? name).map (·, false)

/-- The letters and hyphens of a word test, and what follows them. -/
def testName (verbose : Bool) : (fuel : Nat) → List Char → List Char × List Char
  | 0, cs => ([], cs)
  | fuel + 1, cs =>
    match cs with
    | c :: rest =>
      if c.isAlpha || c = '-' then
        let r := testName verbose fuel (skip verbose rest)
        (c :: r.1, r.2)
      else ([], cs)
    | [] => ([], [])

/-- What follows `\b`: a named word test in braces, or nothing of it. -/
def wordTest (flags : Flags) (cs : List Char) : Option (Look × List Char) :=
  let word := wordSet flags
  let plain := some (Look.wordBoundary word, cs)
  match cs with
  | '\x7b' :: rest =>
    match skip flags.verbose rest with
    | [] => none
    | c :: rest =>
      if c.isAlpha || c = '-' then
        let (name, rest) := testName flags.verbose (rest.length + 1) (c :: rest)
        match rest with
        | '\x7d' :: rest =>
          match String.ofList name with
          | "start" => some (.wordStart word, rest)
          | "end" => some (.wordEnd word, rest)
          | "start-half" => some (.afterNoWord word, rest)
          | "end-half" => some (.beforeNoWord word, rest)
          | _ => none
        | _ => none
      else plain
  | _ => plain

/-- The digits of decimal, blank and word classes in force. -/
def perlClass (flags : Flags) (c : Char) : Unicode.CodeSet :=
  let lower := c.toLower
  if flags.unicode then
    if lower = 'd' then Unicode.decimalDigits
    else if lower = 's' then Unicode.whiteSpace
    else Unicode.wordCharacters
  else
    (asciiClass? (if lower = 'd' then "digit" else if lower = 's' then "space" else "word")).getD .empty

/-- What stands after a backslash. -/
def escape (flags : Flags) (cs : List Char) : Option (Atom × List Char) :=
  match cs with
  | [] => none
  | c :: rest =>
    if c.isDigit then none
    else if c = 'x' ∨ c = 'u' ∨ c = 'U' then
      match skip flags.verbose rest with
      | [] => none
      | '\x7b' :: rest => do
        let (ds, rest) ← upToBrace flags.verbose (rest.length + 1) rest
        let c ← (hexNumber? ds).bind charOf?
        return (.literal c false, skip flags.verbose rest)
      | rest => do
        let width := if c = 'x' then 2 else if c = 'u' then 4 else 8
        let (n, rest) ← fixedHex flags.verbose width 0 rest
        let d ← charOf? n
        return (.literal d (c = 'x'), rest)
    else if c = 'p' ∨ c = 'P' then
      match skip flags.verbose rest with
      | [] => none
      | '\x7b' :: rest => do
        let (name, rest) ← upToBrace flags.verbose (rest.length + 1) rest
        if !flags.unicode then none
        let (set, unequal) ← unicodeClass? name
        return (.property set ((c = 'P') != unequal), rest)
      | d :: rest => do
        if d = '\\' ∨ !flags.unicode then none
        let set ← Unicode.namedSet? [d]
        return (.property set (c = 'P'), skip flags.verbose rest)
    else if "dswDSW".toList.contains c then some (.named (perlClass flags c) c.isUpper, rest)
    else if isEscapable c then some (.literal c false, rest)
    else match c with
      | 'a' => some (.literal '\x07' false, rest)
      | 'f' => some (.literal '\x0c' false, rest)
      | 't' => some (.literal '\t' false, rest)
      | 'n' => some (.literal '\n' false, rest)
      | 'r' => some (.literal '\r' false, rest)
      | 'v' => some (.literal '\x0b' false, rest)
      | 'A' => some (.test .textStart, rest)
      | 'z' => some (.test .textEnd, rest)
      | 'b' => (wordTest flags rest).map fun r => (.test r.1, r.2)
      | 'B' => some (.test (.noWordBoundary (wordSet flags)), rest)
      | '<' => some (.test (.wordStart (wordSet flags)), rest)
      | '>' => some (.test (.wordEnd (wordSet flags)), rest)
      | _ => none

/-- The closure of a set under the flags: without regard to case, in Unicode or
in ASCII only. -/
def closeCase (flags : Flags) (set : Unicode.CodeSet) : Unicode.CodeSet :=
  if !flags.ignoreCase then set
  else if flags.unicode then set.foldCase
  else
    let upper := set.inter (.range 0x41 0x5A)
    let lower := set.inter (.range 0x61 0x7A)
    let up : Unicode.CodeSet := ⟨lower.ranges.map fun r => (r.1 - 32, r.2 - 32)⟩
    let down : Unicode.CodeSet := ⟨upper.ranges.map fun r => (r.1 + 32, r.2 + 32)⟩
    (set.union up).union down

/-- Without Unicode a class holds ASCII characters only. -/
def asciiOnly? (flags : Flags) (set : Unicode.CodeSet) : Option Unicode.CodeSet :=
  if flags.unicode || set.ranges.all (fun r => r.2 < 0x80) then some set else none

/-- The complement, if asked for. -/
def complementIf (negated : Bool) (set : Unicode.CodeSet) : Unicode.CodeSet :=
  if negated then set.complement else set

/-- The set of an atom that is an item of a bracketed class. -/
def Atom.classSet? (flags : Flags) : Atom → Option Unicode.CodeSet
  | literal c byte =>
    if flags.unicode then some (.single c)
    else if c.toNat < 0x80 ∨ byte then some (.single c)
    else none
  | named set negated => some (complementIf negated set)
  | property set negated => some (complementIf negated (closeCase flags set))
  | test _ => none

/-- The pattern of an atom that stands by itself. -/
def Atom.pattern? (flags : Flags) : Atom → Option Pattern
  | literal c byte =>
    if !flags.unicode && byte && 0x80 ≤ c.toNat then none
    else if !flags.unicode && 0x80 ≤ c.toNat then some (.one (.single c))
    else some (.one (closeCase flags (.single c)))
  | named set negated => (asciiOnly? flags (complementIf negated set)).map .one
  | property set negated =>
    (asciiOnly? flags (complementIf negated (closeCase flags set))).map .one
  | test l => some (.look l)

/-- The three ways to combine the two sides of a bracketed class. -/
inductive SetOp where
  | inter
  | diff
  | symmDiff
deriving Repr, DecidableEq

/-- Combines what stands left of an operator with what stands right of it. -/
def combine (flags : Flags) (left : Option (Unicode.CodeSet × SetOp)) (right : Unicode.CodeSet) :
    Unicode.CodeSet :=
  match left with
  | none => right
  | some (l, op) =>
    let l := closeCase flags l
    let r := closeCase flags right
    match op with
    | .inter => l.inter r
    | .diff => l.diff r
    | .symmDiff => l.symmDiff r

/-- An ASCII class such as `[:^alpha:]`, after its opening bracket. -/
def asciiItem? (cs : List Char) : Option (Unicode.CodeSet × Bool × List Char) :=
  match cs with
  | ':' :: rest =>
    let (negated, rest) := match rest with
      | '^' :: rest => (true, rest)
      | rest => (false, rest)
    match splitAtMark [':'] rest with
    | some (name, ']' :: rest) =>
      (asciiClass? (String.ofList name)).map fun set => (set, negated, rest)
    | _ => none
  | _ => none

/-- One member of a bracketed class before a range is looked for. -/
def classAtom (flags : Flags) (cs : List Char) : Option (Atom × List Char) :=
  match cs with
  | [] => none
  | '\\' :: rest => escape flags rest
  | c :: rest => some (.literal c false, rest)

/-- The leading hyphens of a bracketed class, each a member. -/
def leadingHyphens (verbose : Bool) : (fuel : Nat) → List Char → List Char × List Char
  | 0, cs => ([], cs)
  | fuel + 1, cs =>
    match cs with
    | '-' :: rest =>
      let r := leadingHyphens verbose fuel (skip verbose rest)
      ('-' :: r.1, r.2)
    | cs => ([], cs)

/-- The start of a bracketed class after its bracket: whether it is
complemented, the members read, and the rest. -/
def classStart (verbose : Bool) (cs : List Char) : Option (Bool × Unicode.CodeSet × List Char) :=
  let cs := skip verbose cs
  let (negated, cs) := match cs with
    | '^' :: rest => (true, skip verbose rest)
    | cs => (false, cs)
  let (hyphens, cs) := leadingHyphens verbose (cs.length + 1) cs
  match hyphens, cs with
  | _, [] => none
  | [], ']' :: rest =>
    let rest := skip verbose rest
    if rest.isEmpty then none else some (negated, .single ']', rest)
  | [], cs => some (negated, .empty, cs)
  | _ :: _, cs => some (negated, .single '-', cs)

/-- A bracketed class after its start: its set, its depth and the rest.  `left`
is what stands before the last operator, `members` what was read since. -/
def classBody (flags : Flags) : (fuel : Nat) → (negated : Bool) →
    (left : Option (Unicode.CodeSet × SetOp)) → (members : Unicode.CodeSet) → (depth : Nat) →
    List Char → Option (Unicode.CodeSet × Nat × List Char)
  | 0, _, _, _, _, _ => none
  | fuel + 1, negated, left, members, depth, cs =>
    let again := classBody flags fuel negated
    let op (o : SetOp) (rest : List Char) :=
      again (some (combine flags left members, o)) .empty (depth + 1) rest
    match skip flags.verbose cs with
    | [] => none
    | '[' :: rest =>
      match asciiItem? rest with
      | some (set, neg, rest) =>
        again left (members.union (complementIf neg (closeCase flags set))) depth rest
      | none => do
        let (neg, start, rest) ← classStart flags.verbose rest
        let (set, d, rest) ← classBody flags fuel neg none start 0 rest
        again left (members.union set) (max depth d) rest
    | ']' :: rest =>
      let set := complementIf negated (closeCase flags (combine flags left members))
      some (set, depth + 1, rest)
    | '&' :: '&' :: rest => op .inter rest
    | '-' :: '-' :: rest => op .diff rest
    | '~' :: '~' :: rest => op .symmDiff rest
    | cs => do
      let (first, rest) ← classAtom flags cs
      match skip flags.verbose rest with
      | [] => none
      | '-' :: rest =>
        let next := (skip flags.verbose rest).head?
        if next = some ']' ∨ next = some '-' then
          again left (members.union (← first.classSet? flags)) depth ('-' :: rest)
        else do
          let (second, rest) ← classAtom flags (skip flags.verbose rest)
          match first, second with
          | .literal a _, .literal b _ =>
            let _ ← first.classSet? flags
            let _ ← second.classSet? flags
            if b < a then none
            else again left (members.union (.range a.toNat b.toNat)) depth rest
          | _, _ => none
      | rest => again left (members.union (← first.classSet? flags)) depth rest

/-- A bracketed class after its opening bracket. -/
def bracketed (flags : Flags) (cs : List Char) : Option (Pattern × Nat × List Char) := do
  let (negated, start, rest) ← classStart flags.verbose cs
  let (set, depth, rest) ← classBody flags (2 * cs.length + 2) negated none start 0 rest
  let set ← asciiOnly? flags set
  return (.one set, depth, rest)

/-- A decimal number between optional blanks. -/
def decimal (verbose : Bool) (cs : List Char) : Option (Nat × List Char) :=
  let rec digits : (fuel value : Nat) → List Char → Nat × List Char
    | 0, value, cs => (value, cs)
    | fuel + 1, value, cs =>
      match cs with
      | c :: rest =>
        if c.isDigit then digits fuel (10 * value + (c.toNat - 48)) (skip verbose rest)
        else (value, cs)
      | [] => (value, [])
  let cs := cs.dropWhile Unicode.isBlank
  match cs with
  | c :: _ =>
    if c.isDigit then
      let (n, rest) := digits (cs.length + 1) 0 cs
      if n < twoTo 32 then some (n, rest.dropWhile Unicode.isBlank) else none
    else none
  | [] => none

/-- Counted rounds after their opening brace: the least and the greatest number. -/
def counts (verbose : Bool) (cs : List Char) : Option (Nat × Option Nat × List Char) := do
  let (least, rest) ← decimal verbose (skip verbose cs)
  match rest with
  | '\x7d' :: rest => return (least, some least, rest)
  | ',' :: rest =>
    match skip verbose rest with
    | '\x7d' :: rest => return (least, none, rest)
    | rest =>
      let (most, rest) ← decimal verbose rest
      match rest with
      | '\x7d' :: rest => if least ≤ most then return (least, some most, rest) else none
      | _ => none
  | _ => none

/-- Passes over the question mark that makes a repetition reluctant. -/
def skipReluctant : List Char → List Char
  | '?' :: rest => rest
  | cs => cs

/-- A flag by its letter: its place in the order of `Flags`, `none` for the one
that swaps greediness. -/
def setFlag (c : Char) (on : Bool) (flags : Flags) : Option Flags :=
  match c with
  | 'i' => some { flags with ignoreCase := on }
  | 'm' => some { flags with multiLine := on }
  | 's' => some { flags with dotAll := on }
  | 'u' => some { flags with unicode := on }
  | 'x' => some { flags with verbose := on }
  | 'R' => some { flags with crlf := on }
  | 'U' => some flags
  | _ => none

/-- The flags after `(?`: the flags set, whether any item was read, the
character that ends them and the rest. -/
def readFlags : (seen : List Char) → (on : Bool) → Flags → List Char →
    Option (Flags × Bool × Char × List Char)
  | _, _, _, [] => none
  | seen, on, flags, c :: rest =>
    if c = ':' ∨ c = ')' then
      if seen.head? = some '-' then none else some (flags, !seen.isEmpty, c, rest)
    else if seen.contains c then none
    else if c = '-' then readFlags (c :: seen) false flags rest
    else (setFlag c on flags).bind fun flags => readFlags (c :: seen) on flags rest

/-- The name of a group, after its opening bracket. -/
def groupName (cs : List Char) : Option (List Char × List Char) := do
  let (name, rest) ← splitAtMark ['>'] cs
  match name with
  | [] => none
  | c :: more =>
    let first := c = '_' || Unicode.isLetter c
    let other (c : Char) := "_.[]".toList.contains c || Unicode.isLetterOrNumeral c
    if first && more.all other then some (name, rest) else none

/-- A part of a sequence: a pattern with its depth, or a setting of flags. -/
inductive Part where
  | operand (p : Pattern) (depth : Nat)
  | flags
deriving Repr

/-- A sequence of parts, in reverse. -/
def sequence (parts : List Part) : Pattern × Nat :=
  let step (acc : Pattern × Nat) (part : Part) : Pattern × Nat :=
    match part, acc with
    | .flags, acc => acc
    | .operand p d, (.empty, e) => (p, max d e)
    | .operand p d, (q, e) => (.seq p q, max d e)
  let (p, d) := parts.foldl step (.empty, 0)
  (p, if parts.length ≤ 1 then d else d + 1)

/-- A choice of sequences, in reverse. -/
def choice (parts : List (Pattern × Nat)) : Pattern × Nat :=
  match parts with
  | [] => (.empty, 0)
  | [p] => p
  | p :: rest =>
    let (q, d) := rest.foldl (fun acc s => (Pattern.alt s.1 acc.1, max s.2 acc.2)) p
    (q, d + 1)

/-- What reading an alternative gives back: the pattern and its depth, the rest,
and the names of groups used so far. -/
structure Reading where
  pattern : Pattern
  depth : Nat
  rest : List Char
  names : List (List Char)
deriving Repr

/-- The pattern for a dot. -/
def dot? (flags : Flags) : Option Pattern :=
  if !flags.unicode then none
  else if flags.dotAll then some (.one .full)
  else if flags.crlf then some (.one ((Unicode.CodeSet.single '\n').union (.single '\r')).complement)
  else some (.one (Unicode.CodeSet.single '\n').complement)

/-- The test for a caret. -/
def caret (flags : Flags) : Look :=
  if flags.multiLine then .lineStart flags.crlf else .textStart

/-- The test for a dollar sign. -/
def dollar (flags : Flags) : Look :=
  if flags.multiLine then .lineEnd flags.crlf else .textEnd

/-- Repeats the last part of a sequence; there must be one, and no flags. -/
def repeatLast (least : Nat) (most : Option Nat) : List Part → Option (List Part)
  | .operand p d :: parts => some (.operand (.rounds p least most) (d + 1) :: parts)
  | _ => none

/-- **Reads up to the end of the group**: `open` tells whether a group is open,
`parts` holds the current sequence and `before` the sequences before it, both in
reverse. -/
def readGroup : (fuel : Nat) → (isOpen : Bool) → Flags → (names : List (List Char)) →
    (parts : List Part) → (before : List (Pattern × Nat)) → List Char → Option Reading
  | 0, _, _, _, _, _, _ => none
  | fuel + 1, isOpen, flags, names, parts, before, cs =>
    let again (parts : List Part) (rest : List Char) :=
      readGroup fuel isOpen flags names parts before rest
    let atom (a : Atom) (rest : List Char) := do
      let p ← a.pattern? flags
      again (.operand p 0 :: parts) rest
    let group (inner : Flags) (names : List (List Char)) (rest : List Char) := do
      let r ← readGroup fuel true inner names [] [] rest
      readGroup fuel isOpen flags r.names (.operand r.pattern (r.depth + 1) :: parts) before r.rest
    match skip flags.verbose cs with
    | [] =>
      if isOpen then none
      else
        let (p, d) := choice (sequence parts :: before)
        some ⟨p, d, [], names⟩
    | ')' :: rest =>
      if isOpen then
        let (p, d) := choice (sequence parts :: before)
        some ⟨p, d, rest, names⟩
      else none
    | '|' :: rest => readGroup fuel isOpen flags names [] (sequence parts :: before) rest
    | '(' :: rest =>
      match skip flags.verbose rest with
      | '?' :: '=' :: _ => none
      | '?' :: '!' :: _ => none
      | '?' :: '<' :: '=' :: _ => none
      | '?' :: '<' :: '!' :: _ => none
      | '?' :: 'P' :: '<' :: rest => do
        let (name, rest) ← groupName rest
        if names.contains name then none else group flags (name :: names) rest
      | '?' :: '<' :: rest => do
        let (name, rest) ← groupName rest
        if names.contains name then none else group flags (name :: names) rest
      | '?' :: rest => do
        let (inner, any, last, rest) ← readFlags [] true flags rest
        if last = ':' then group inner names rest
        else if any then readGroup fuel isOpen inner names (.flags :: parts) before rest
        else none
      | rest => group flags names rest
    | '[' :: rest => do
      let (p, d, rest) ← bracketed flags rest
      again (.operand p d :: parts) rest
    | '?' :: rest => do again (← repeatLast 0 (some 1) parts) (skipReluctant rest)
    | '*' :: rest => do again (← repeatLast 0 none parts) (skipReluctant rest)
    | '+' :: rest => do again (← repeatLast 1 none parts) (skipReluctant rest)
    | '\x7b' :: rest => do
      let (least, most, rest) ← counts flags.verbose rest
      again (← repeatLast least most parts) (skipReluctant (skip flags.verbose rest))
    | '.' :: rest => do
      let p ← dot? flags
      again (.operand p 0 :: parts) rest
    | '^' :: rest => again (.operand (.look (caret flags)) 0 :: parts) rest
    | '$' :: rest => again (.operand (.look (dollar flags)) 0 :: parts) rest
    | '\\' :: rest => do
      let (a, rest) ← escape flags rest
      atom a rest
    | c :: rest => atom (.literal c false) rest

/-- **Reads a pattern**; `none` if the text is none, whatever is wrong with it. -/
def parse (text : String) : Option Pattern := do
  let cs := text.toList
  let r ← readGroup (cs.length + 1) false .initial [] [] [] cs
  if r.depth ≤ maxDepth then some r.pattern else none

end StepFlow.Pattern
