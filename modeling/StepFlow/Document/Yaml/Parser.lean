import StepFlow.Document.Yaml

/-!
# Reading YAML texts

`Yaml.parse` reads one YAML document: block and flow collections, bare and quoted
words over one or more lines, block scalars and comments.  Anchors, tags,
directives and keys marked by a question mark are refused.

**Columns.**  A block collection stands in a column: its entries start there, and
what belongs to an entry stands further right.  Every reader of a block takes the
text from a place in a line and leaves it at the start of a line.

**Gaps.**  Blanks and line breaks inside a word are a gap.  A gap without a break
is kept, one with a single break is a blank, and every further break is kept.
-/

namespace StepFlow.Yaml

/-- Blanks within a line. -/
def isSpace (c : Char) : Bool := c = ' ' || c = '\t'

/-- Is the head of the text a blank, a line break or its end? -/
def atBlank : List Char → Bool
  | [] => true
  | c :: _ => isSpace c || c = '\n'

/-- The characters that delimit flow collections. -/
def isFlowMark (c : Char) : Bool := c = ',' || c = '[' || c = ']' || c = '\x7b' || c = '\x7d'

/-! ### Gaps -/

/-- A gap inside a word. -/
inductive Gap where
  /-- Blanks, the last one first. -/
  | blanks (cs : List Char)
  /-- A line break and `more` others. -/
  | broken (more : Nat)
  /-- An escaped line break and `more` others. -/
  | joined (more : Nat)

namespace Gap

/-- A gap goes on. -/
def add (c : Char) : Gap → Gap
  | blanks cs => if c = '\n' then broken 0 else blanks (c :: cs)
  | broken n => if c = '\n' then broken (n + 1) else broken n
  | joined n => if c = '\n' then joined (n + 1) else joined n

/-- What a gap reads as. -/
def text : Gap → List Char
  | blanks cs => cs.reverse
  | broken 0 => [' ']
  | broken n => List.replicate n '\n'
  | joined n => List.replicate n '\n'

/-- Is there no gap? -/
def isEmpty : Gap → Bool
  | blanks [] => true
  | _ => false

/-- Is there a line break in the gap? -/
def isBroken : Gap → Bool
  | blanks _ => false
  | _ => true

end Gap

/-! ### Words -/

/-- May a bare word start here? -/
def startsBare (flow : Bool) : List Char → Bool
  | [] => false
  | c :: cs =>
    if c = '-' then !(cs.head?.any isSpace)
    else if c = '?' ∨ c = ':' then !flow && !atBlank cs
    else !(isSpace c || c = '\n' || isFlowMark c || "#&*!|>'\"%@\x60".contains c)

/-- A bare word up to its end: a colon before a blank, a comment, a mark of the flow
collection it stands in, or a line that starts left of column `n`.  `after` is the
text after the last character that belongs to the word. -/
def bareWord (flow : Bool) (n : Nat) :
    (after : List Char) → Gap → (column : Nat) → List Char → List Char × List Char
  | after, _, _, [] => ([], after)
  | after, gap, column, c :: cs =>
    if c = '\n' then bareWord flow n after (gap.add c) 0 cs
    else if isSpace c then bareWord flow n after (gap.add c) (column + 1) cs
    else if (c = '#' && !gap.isEmpty) || (c = ':' && (atBlank cs || (flow && cs.head?.any isFlowMark)))
        || (flow && isFlowMark c) || (!flow && gap.isBroken && column < n) then ([], after)
    else
      let (w, rest) := bareWord flow n cs (.blanks []) (column + 1) cs
      (gap.text ++ c :: w, rest)

/-- The character of an escape by a letter. -/
def escaped? (c : Char) : Option Char :=
  match c with
  | '0' => some '\x00'
  | 'a' => some '\x07'
  | 'b' => some '\x08'
  | 't' => some '\t'
  | '\t' => some '\t'
  | 'n' => some '\n'
  | 'v' => some '\x0b'
  | 'f' => some '\x0c'
  | 'r' => some '\r'
  | 'e' => some '\x1b'
  | ' ' => some ' '
  | '"' => some '"'
  | '/' => some '/'
  | '\\' => some '\\'
  | 'N' => some '\u0085'
  | '_' => some '\u00a0'
  | 'L' => some '\u2028'
  | 'P' => some '\u2029'
  | _ => none

/-- The character with the code point that hexadecimal digits denote. -/
def codePoint? (ds : List Char) : Option Char :=
  (natural? 16 ds).bind fun n =>
    if n < 0xD800 ∨ (0xE000 ≤ n ∧ n < 0x110000) then some (Char.ofNat n) else none

/-- A text in double quotes, after the opening one. -/
def doubleQuoted : Gap → List Char → Option (List Char × List Char)
  | _, [] => none
  | gap, '"' :: rest => some (gap.text, rest)
  | gap, '\\' :: '\n' :: rest =>
    (doubleQuoted (.joined 0) rest).map fun r => (gap.text ++ r.1, r.2)
  | gap, '\\' :: 'x' :: a :: b :: rest => do
    let c ← codePoint? [a, b]
    let (s, rest) ← doubleQuoted (.blanks []) rest
    return (gap.text ++ c :: s, rest)
  | gap, '\\' :: 'u' :: a :: b :: c :: d :: rest => do
    let c ← codePoint? [a, b, c, d]
    let (s, rest) ← doubleQuoted (.blanks []) rest
    return (gap.text ++ c :: s, rest)
  | gap, '\\' :: 'U' :: a :: b :: c :: d :: e :: f :: g :: h :: rest => do
    let c ← codePoint? [a, b, c, d, e, f, g, h]
    let (s, rest) ← doubleQuoted (.blanks []) rest
    return (gap.text ++ c :: s, rest)
  | gap, '\\' :: c :: rest => do
    let c ← escaped? c
    let (s, rest) ← doubleQuoted (.blanks []) rest
    return (gap.text ++ c :: s, rest)
  | gap, c :: rest =>
    if isSpace c ∨ c = '\n' then doubleQuoted (gap.add c) rest
    else (doubleQuoted (.blanks []) rest).map fun r => (gap.text ++ c :: r.1, r.2)

/-- A text in single quotes, after the opening one; a quote inside is written twice. -/
def singleQuoted : Gap → List Char → Option (List Char × List Char)
  | _, [] => none
  | gap, '\'' :: '\'' :: rest =>
    (singleQuoted (.blanks []) rest).map fun r => (gap.text ++ '\'' :: r.1, r.2)
  | gap, '\'' :: rest => some (gap.text, rest)
  | gap, c :: rest =>
    if isSpace c ∨ c = '\n' then singleQuoted (gap.add c) rest
    else (singleQuoted (.blanks []) rest).map fun r => (gap.text ++ c :: r.1, r.2)

/-- A word, bare or quoted. -/
def word? (flow : Bool) (n : Nat) (cs : List Char) : Option (Yaml × List Char) :=
  match cs with
  | '"' :: rest => (doubleQuoted (.blanks []) rest).map fun r => (quoted r.1, r.2)
  | '\'' :: rest => (singleQuoted (.blanks []) rest).map fun r => (quoted r.1, r.2)
  | _ =>
    if startsBare flow cs then
      let (w, rest) := bareWord flow n cs (.blanks []) 0 cs
      if w.isEmpty then none else some (bare w, rest)
    else none

/-! ### Lines -/

/-- The text after the current line. -/
def nextLine (cs : List Char) : List Char := (cs.dropWhile (· ≠ '\n')).drop 1

/-- Ends a line: nothing but blanks and a comment may be left of it. -/
def endLine? (cs : List Char) : Option (List Char) :=
  match cs.dropWhile isSpace with
  | [] => some []
  | '\n' :: rest => some rest
  | '#' :: rest => some (nextLine rest)
  | _ => none

/-- What comes next in a block. -/
inductive Ahead where
  | nothing
  | content (column : Nat) (cs : List Char)
  /-- A tab where a column is to be counted. -/
  | tab

/-- **Looks for the next content** from the start of a line. -/
def ahead : (inComment : Bool) → (column : Nat) → List Char → Ahead
  | _, _, [] => .nothing
  | true, column, c :: cs => if c = '\n' then ahead false 0 cs else ahead true column cs
  | false, column, c :: cs =>
    if c = ' ' then ahead false (column + 1) cs
    else if c = '\n' then ahead false 0 cs
    else if c = '#' then ahead true column cs
    else if c = '\t' then
      match endLine? cs with
      | some _ => ahead true column cs
      | none => .tab
    else .content column (c :: cs)

/-- Does an entry of a block list start here? -/
def startsItem : List Char → Bool
  | '-' :: cs => atBlank cs
  | _ => false

/-- The key of a block map and the text after its colon.  A key stands in one line. -/
def key? (cs : List Char) : Option (Yaml × List Char) :=
  let line := cs.takeWhile (· ≠ '\n')
  match word? false 0 line with
  | none => none
  | some (k, rest) =>
    match rest.dropWhile isSpace with
    | ':' :: after => if atBlank after then some (k, cs.drop (line.length - after.length)) else none
    | _ => none

/-! ### Block scalars -/

/-- What happens to the line breaks at the end of a block scalar. -/
inductive Chomp where
  | strip | clip | keep

/-- The indicators of a block scalar, and the text after its line. -/
def scalarHeader : (chomp : Option Chomp) → (indent : Option Nat) → List Char →
    Option (Chomp × Option Nat × List Char)
  | chomp, indent, c :: cs =>
    if (c = '+' ∨ c = '-') ∧ chomp.isNone then
      scalarHeader (some (if c = '+' then .keep else .strip)) indent cs
    else if '1' ≤ c ∧ c ≤ '9' ∧ indent.isNone then
      scalarHeader chomp (some (c.toNat - 48)) cs
    else if atBlank (c :: cs) then
      (endLine? (c :: cs)).map fun rest => (chomp.getD .clip, indent, rest)
    else none
  | chomp, indent, [] => some (chomp.getD .clip, indent, [])

/-- Cuts a text at its line breaks. -/
def linesOf : List Char → List (List Char)
  | [] => [[]]
  | c :: cs =>
    if c = '\n' then [] :: linesOf cs
    else match linesOf cs with
      | [] => [[c]]
      | l :: rest => (c :: l) :: rest

/-- Joins lines with line breaks. -/
def unlines : List (List Char) → List Char
  | [] => []
  | [l] => l
  | l :: m :: rest => l ++ '\n' :: unlines (m :: rest)

/-- How far the first line that is not blank is indented, and every blank one before. -/
def detectIndent : List (List Char) → Nat
  | [] => 0
  | l :: rest =>
    let k := (l.takeWhile (· = ' ')).length
    if l.length = k then max k (detectIndent rest) else k

/-- The lines of a block scalar without their indentation, and the lines after it. -/
def scalarLines (indent : Nat) : List (List Char) → List (List Char) × List (List Char)
  | [] => ([], [])
  | l :: rest =>
    if (l.take indent).all (· = ' ') ∧ ¬(rest.isEmpty ∧ l.length ≤ indent) then
      let (ls, after) := scalarLines indent rest
      (l.drop indent :: ls, after)
    else ([], l :: rest)

/-- The text of a block scalar, line by line: `broken` if there is a line before,
`blank` if it starts with a blank, and `empty` lines in between. -/
def scalarText (literal : Bool) :
    (broken blank : Bool) → (empty : Nat) → List (List Char) → List Char × Bool × Nat
  | broken, _, empty, [] => ([], broken, empty)
  | broken, blank, empty, [] :: rest => scalarText literal broken blank (empty + 1) rest
  | broken, blank, empty, (c :: cs) :: rest =>
    let folds := !literal && broken && !blank && !isSpace c
    let gap :=
      if folds then (if empty = 0 then [' '] else [])
      else if broken then ['\n'] else []
    let (s, more) := scalarText literal true (isSpace c) 0 rest
    (gap ++ List.replicate empty '\n' ++ (c :: cs) ++ s, more)

/-- **A block scalar** after its first character, in a block whose entries stand in
column `n` or further right. -/
def blockScalar (literal : Bool) (n : Nat) (cs : List Char) : Option (Yaml × List Char) := do
  let (chomp, indent?, rest) ← scalarHeader none none cs
  let lines := linesOf rest
  let indent := match indent? with
    | some i => n - 1 + i
    | none => max (max (detectIndent lines) n) 1
  let (own, after) := scalarLines indent lines
  let (s, broken, empty) := scalarText literal false false 0 own
  let lastBreak := if broken && !after.isEmpty then ['\n'] else []
  let tail := match chomp with
    | .strip => []
    | .clip => lastBreak
    | .keep => lastBreak ++ List.replicate empty '\n'
  return (quoted (s ++ tail), unlines after)

/-! ### Collections -/

/-- Passes over blanks, line breaks and comments in a flow collection. -/
def skipFlow : (inComment : Bool) → List Char → List Char
  | _, [] => []
  | true, c :: cs => if c = '\n' then skipFlow false cs else skipFlow true cs
  | false, c :: cs =>
    if isSpace c ∨ c = '\n' then skipFlow false cs
    else if c = '#' then skipFlow true cs
    else c :: cs

mutual

/-- A node of a flow collection.  Every call takes a character or ends, so `fuel`
beyond the length of the text is never used up. -/
def flowNode : (fuel : Nat) → List Char → Option (Yaml × List Char)
  | 0, _ => none
  | fuel + 1, cs =>
    match skipFlow false cs with
    | '[' :: rest => (flowItems fuel rest).map fun r => (list r.1, r.2)
    | '\x7b' :: rest => (flowEntries fuel rest).map fun r => (map r.1, r.2)
    | rest => word? true 0 rest

/-- What stands after the colon of a flow entry, if there is a colon. -/
def flowValue : (fuel : Nat) → List Char → Option (Option Yaml × List Char)
  | 0, _ => none
  | fuel + 1, cs =>
    match skipFlow false cs with
    | ':' :: rest =>
      match skipFlow false rest with
      | ',' :: rest => some (some (bare []), ',' :: rest)
      | ']' :: rest => some (some (bare []), ']' :: rest)
      | '\x7d' :: rest => some (some (bare []), '\x7d' :: rest)
      | rest => (flowNode fuel rest).map fun r => (some r.1, r.2)
    | rest => some (none, rest)

/-- The items of a flow list up to its closing bracket.  An item with a colon is a
map with one entry. -/
def flowItems : (fuel : Nat) → List Char → Option (List Yaml × List Char)
  | 0, _ => none
  | fuel + 1, cs =>
    match skipFlow false cs with
    | ']' :: rest => some ([], rest)
    | rest => do
      let (k, rest) ← flowNode fuel rest
      let (v, rest) ← flowValue fuel rest
      let item := match v with
        | some v => map [(k, v)]
        | none => k
      match skipFlow false rest with
      | ',' :: rest => (flowItems fuel rest).map fun r => (item :: r.1, r.2)
      | ']' :: rest => some ([item], rest)
      | _ => none

/-- The entries of a flow map up to its closing brace. -/
def flowEntries : (fuel : Nat) → List Char → Option (List (Yaml × Yaml) × List Char)
  | 0, _ => none
  | fuel + 1, cs =>
    match skipFlow false cs with
    | '\x7d' :: rest => some ([], rest)
    | rest => do
      let (k, rest) ← flowNode fuel rest
      let (v, rest) ← flowValue fuel rest
      let entry := (k, v.getD (bare []))
      match skipFlow false rest with
      | ',' :: rest => (flowEntries fuel rest).map fun r => (entry :: r.1, r.2)
      | '\x7d' :: rest => some ([entry], rest)
      | _ => none

end

mutual

/-- **A node of a block** that starts in `column`, within a block whose entries stand
in column `n` or further right. -/
def blockNode : (fuel n column : Nat) → List Char → Option (Yaml × List Char)
  | 0, _, _, _ => none
  | fuel + 1, n, column, cs =>
    if startsItem cs then (blockItems fuel column cs).map fun r => (list r.1, r.2)
    else if (key? cs).isSome then (blockEntries fuel column cs).map fun r => (map r.1, r.2)
    else inlineNode fuel n cs

/-- A node that starts within a line. -/
def inlineNode : (fuel n : Nat) → List Char → Option (Yaml × List Char)
  | 0, _, _ => none
  | fuel + 1, n, cs =>
    match cs with
    | '|' :: rest => blockScalar true n rest
    | '>' :: rest => blockScalar false n rest
    | _ => do
      let (y, rest) ←
        if cs.head? = some '[' ∨ cs.head? = some '\x7b' then flowNode fuel cs else word? false n cs
      return (y, ← endLine? rest)

/-- What belongs to an entry in `column` and stands on the lines after it.  A list
may stand in the column of the map that it belongs to. -/
def nestedNode : (fuel column : Nat) → (inMap : Bool) → List Char → Option (Yaml × List Char)
  | 0, _, _, _ => none
  | fuel + 1, column, inMap, cs =>
    match ahead false 0 cs with
    | .tab => none
    | .nothing => some (bare [], cs)
    | .content c rest =>
      if column < c then blockNode fuel (column + 1) c rest
      else if inMap && c = column && startsItem rest then
        (blockItems fuel column rest).map fun r => (list r.1, r.2)
      else some (bare [], cs)

/-- The items of a block list in `column`. -/
def blockItems : (fuel column : Nat) → List Char → Option (List Yaml × List Char)
  | 0, _, _ => none
  | fuel + 1, column, cs =>
    if startsItem cs then do
      let after := cs.drop 1
      let blanks := (after.takeWhile isSpace).length
      let (y, rest) ←
        match endLine? after with
        | some rest => nestedNode fuel column false rest
        | none => blockNode fuel (column + 1) (column + 1 + blanks) (after.drop blanks)
      match ahead false 0 rest with
      | .tab => none
      | .nothing => some ([y], rest)
      | .content c next =>
        if c = column ∧ startsItem next then
          (blockItems fuel column next).map fun r => (y :: r.1, r.2)
        else if column < c then none
        else some ([y], rest)
    else none

/-- The entries of a block map in `column`. -/
def blockEntries : (fuel column : Nat) → List Char → Option (List (Yaml × Yaml) × List Char)
  | 0, _, _ => none
  | fuel + 1, column, cs => do
    let (k, after) ← key? cs
    let (y, rest) ←
      match endLine? after with
      | some rest => nestedNode fuel column true rest
      | none => inlineNode fuel (column + 1) (after.dropWhile isSpace)
    match ahead false 0 rest with
    | .tab => none
    | .nothing => some ([(k, y)], rest)
    | .content c next =>
      if c = column then (blockEntries fuel column next).map fun r => ((k, y) :: r.1, r.2)
      else if column < c then none
      else some ([(k, y)], rest)

end

/-! ### Documents -/

/-- May a character stand in a text? -/
def isReadable (c : Char) : Bool :=
  c = '\t' || c = '\n' || c = '\u0085' || (' ' ≤ c && c ≤ '~')
    || ('\u00a0' ≤ c && c ≤ '\ufffd' && c ≠ '\ufeff') || '\ufffd' < c && c ≠ '\uffff'
      && c ≠ '\ufffe'

/-- The text with every line break as a line feed. -/
def unifyBreaks : List Char → List Char
  | '\r' :: '\n' :: cs => '\n' :: unifyBreaks cs
  | c :: cs => (if c = '\r' then '\n' else c) :: unifyBreaks cs
  | [] => []

/-- Is a line a marker of three equal characters, alone or before a blank? -/
def isMarker (c : Char) (line : List Char) : Bool :=
  [c, c, c].isPrefixOf line && atBlank (line.drop 3)

/-- The lines of the document, up to its end marker.  A second document is refused. -/
def untilEnd : List (List Char) → Option (List (List Char))
  | [] => some []
  | l :: rest =>
    if isMarker '-' l then none
    else if isMarker '.' l then
      match ahead false 0 (unlines (l.drop 3 :: rest)) with
      | .nothing => some []
      | _ => none
    else (untilEnd rest).map (l :: ·)

/-- The lines of the only document. -/
def documentLines : List (List Char) → Option (List (List Char))
  | [] => some []
  | l :: rest =>
    if isMarker '-' l then (untilEnd rest).map ((' ' :: ' ' :: ' ' :: l.drop 3) :: ·)
    else
      match ahead false 0 l with
      | .nothing => documentLines rest
      | _ => if l.head? = some '%' then none else untilEnd (l :: rest)

/-- **Reads a YAML text.**  An empty text is an empty word. -/
def parse (text : String) : Option Yaml := do
  let cs := unifyBreaks text.toList
  let cs := if cs.head? = some '\ufeff' then cs.drop 1 else cs
  if !cs.all isReadable then none
  let body := unlines (← documentLines (linesOf cs))
  match ahead false 0 body with
  | .tab => none
  | .nothing => return bare []
  | .content column rest =>
    let (y, rest) ← blockNode (4 * body.length + 8) 0 column rest
    match ahead false 0 rest with
    | .nothing => return y
    | _ => none

end StepFlow.Yaml
