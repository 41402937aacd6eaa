import StepFlow.Expression.Lexer
import StepFlow.Expression.Tree

/-!
# From lexemes to a tree

The grammar, from the loosest binding to the tightest:

* disjunction, conjunction: chains of `||`/`or` and of `&&`/`and`;
* negation: `!`/`not` before a negation, or a comparison;
* comparison: one of `== != < <= > >= =~ contains` between two sums, or a sum;
  comparisons do not chain;
* sums and products: chains of `+ -` and of `* / %`;
* a unary minus before such an operand, or a primary: a literal, a path, or an
  expression in parentheses.

Chains associate to the left.

**Depth.**  Parentheses, negations and unary minuses nest at most 64 deep, the
whole expression counting as one level.  That budget is what the recursion runs
on: `levels d` holds the parsers that may be entered with `d` levels left, and
each is built from `levels (d - 1)`.

**Size.**  A tree has at most 512 operator nodes.  The cursor carries the number
of nodes that may still be built, across all levels.

**Positions.**  An error is reported at the lexeme that does not fit.  If the
lexemes have run out, it is reported at the end of the source or, where an
opened construct lacks its continuation, at the last lexeme taken.
-/

namespace StepFlow.Expression

/-- How deep an expression may nest. -/
def maxDepth : Nat := 64

/-- How many operator nodes a tree may have. -/
def maxNodes : Nat := 512

/-- **A place between lexemes**: what follows, where the last lexeme taken
starts, how many nodes may still be built, and where the source ends. -/
structure Cursor where
  rest : List Lexeme
  last : Nat
  nodes : Nat
  stop : Nat
deriving Repr, DecidableEq

namespace Cursor

/-- Where the next lexeme starts; the end of the source if there is none. -/
def position (c : Cursor) : Nat :=
  match c.rest with
  | l :: _ => l.position
  | [] => c.stop

/-- Where a missing continuation is reported: at the next lexeme, else at the
last one taken. -/
def gap (c : Cursor) : Nat :=
  match c.rest with
  | l :: _ => l.position
  | [] => c.last

/-- The next token. -/
def token? (c : Cursor) : Option Token := c.rest.head?.map (·.token)

/-- Takes the next lexeme. -/
def advance (c : Cursor) : Cursor :=
  match c.rest with
  | l :: rest => { c with rest := rest, last := l.position }
  | [] => c

/-- Pays for one operator node. -/
def spend (c : Cursor) : Except ReadError Cursor :=
  if c.nodes = 0 then .error ⟨c.position, .tooComplex⟩ else .ok { c with nodes := c.nodes - 1 }

end Cursor

/-- A parser takes lexemes from a place and leaves a tree and the place after it. -/
abbrev Parser := Cursor → Except ReadError (Tree × Cursor)

/-- The parsers that may be entered one level deeper: of a whole expression in
parentheses, of what a negation negates, and of what a minus negates. -/
structure Deeper where
  whole : Parser
  negated : Parser
  negative : Parser

/-- No deeper level is left. -/
def Deeper.exhausted : Deeper :=
  let fail : Parser := fun c => .error ⟨c.position, .nestedTooDeeply⟩
  ⟨fail, fail, fail⟩

/-- Goes on with a chain of operators after its left operand; `n` bounds the
number of operators, and there are no more of them than lexemes. -/
def chainFrom (op? : Token → Option BinaryOp) (operand : Parser) : (n : Nat) → Tree → Parser
  | 0, left, c => .ok (left, c)
  | n + 1, left, c =>
    match c.token?.bind op? with
    | none => .ok (left, c)
    | some op => do
      let (right, c) ← operand c.advance
      let c ← c.spend
      chainFrom op? operand n (.binary op left right) c

/-- A chain of operands between operators, associating to the left. -/
def chain (op? : Token → Option BinaryOp) (operand : Parser) : Parser := fun c => do
  let (left, c) ← operand c
  chainFrom op? operand c.rest.length left c

/-- The index that a numeral denotes in a path, held below `2 ^ 64`; a negative
number and one with a fraction denote none. -/
def indexOf? (x : Option Double) : Option Nat :=
  (x.bind Double.toInt?).bind fun n =>
    if 0 ≤ n then some (min n.toNat (twoTo 64 - 1)) else none

/-- What may follow a dot: a word or an index. -/
def fieldAfterDot? : Token → Option Segment
  | .word w => some (.key w)
  | .number x => (indexOf? x).map .index
  | _ => none

/-- What may stand in brackets: a text or an index. -/
def keyInBrackets? : Token → Option Segment
  | .str s => some (.key s)
  | .number x => (indexOf? x).map .index
  | _ => none

/-- The hops of a path after its root, what follows them, and where the last
lexeme taken starts. -/
def hops : (last : Nat) → List Lexeme → Except ReadError (List Segment × List Lexeme × Nat)
  | _, ⟨.dot, _⟩ :: ⟨t, p⟩ :: rest =>
    match fieldAfterDot? t with
    | none => .error ⟨p, .expectedFieldName⟩
    | some s => do
      let (ss, rest, last) ← hops p rest
      return (s :: ss, rest, last)
  | _, [⟨.dot, p⟩] => .error ⟨p, .expectedFieldName⟩
  | _, ⟨.leftBracket, _⟩ :: ⟨t, p⟩ :: ⟨u, q⟩ :: rest =>
    match keyInBrackets? t with
    | none => .error ⟨p, .expectedKeyOrIndex⟩
    | some s =>
      if u = .rightBracket then do
        let (ss, rest, last) ← hops q rest
        return (s :: ss, rest, last)
      else .error ⟨q, .expectedClosingBracket⟩
  | _, [⟨.leftBracket, _⟩, ⟨t, p⟩] =>
    match keyInBrackets? t with
    | none => .error ⟨p, .expectedKeyOrIndex⟩
    | some _ => .error ⟨p, .expectedClosingBracket⟩
  | _, [⟨.leftBracket, p⟩] => .error ⟨p, .expectedKeyOrIndex⟩
  | last, rest => .ok ([], rest, last)

/-- The value that a word stands for, if it is a literal. -/
def literalWord? (w : String) : Option Value :=
  if w = "true" then some (.bool true)
  else if w = "false" then some (.bool false)
  else if w = "null" ∨ w = "undefined" then some .null
  else none

/-- A literal, a path, or an expression in parentheses. -/
def primary (deeper : Deeper) : Parser := fun c =>
  match c.rest with
  | [] => .error ⟨c.stop, .unexpectedEnd⟩
  | ⟨.number x, p⟩ :: rest => .ok (.literal (.ofComputed x), { c with rest := rest, last := p })
  | ⟨.str s, p⟩ :: rest => .ok (.literal (.str s), { c with rest := rest, last := p })
  | ⟨.leftParen, _⟩ :: _ => do
    let (inner, c) ← deeper.whole c.advance
    if c.token? = some .rightParen then return (inner, c.advance)
    else .error ⟨c.gap, .expectedClosingParen⟩
  | ⟨.word w, p⟩ :: rest =>
    match literalWord? w with
    | some v => .ok (.literal v, { c with rest := rest, last := p })
    | none => do
      let (ss, rest, last) ← hops p rest
      return (.path (.key w :: ss), { c with rest := rest, last := last })
  | ⟨t, p⟩ :: _ => .error ⟨p, .unexpectedToken t⟩

/-- Minuses before a primary. -/
def unary (deeper : Deeper) : Parser := fun c =>
  if c.token? = some .minus then do
    let (x, c) ← deeper.negative c.advance
    let c ← c.spend
    return (.unary .negate x, c)
  else primary deeper c

/-- The operators of products. -/
def productOp? : Token → Option BinaryOp
  | .star => some .multiply
  | .slash => some .divide
  | .percent => some .remainder
  | _ => none

/-- The operators of sums. -/
def sumOp? : Token → Option BinaryOp
  | .plus => some .add
  | .minus => some .subtract
  | _ => none

/-- The operators of comparisons. -/
def comparisonOp? : Token → Option BinaryOp
  | .equal => some .equal
  | .notEqual => some .notEqual
  | .less => some .less
  | .lessEqual => some .lessEqual
  | .greater => some .greater
  | .greaterEqual => some .greaterEqual
  | .tilde => some .matchesPattern
  | .word w => if w = "contains" then some .contains else none
  | _ => none

/-- The operator of conjunctions. -/
def andOp? : Token → Option BinaryOp
  | .andAnd => some .and
  | .word w => if w = "and" then some .and else none
  | _ => none

/-- The operator of disjunctions. -/
def orOp? : Token → Option BinaryOp
  | .orOr => some .or
  | .word w => if w = "or" then some .or else none
  | _ => none

/-- Does the token negate what follows? -/
def isNegation : Token → Bool
  | .bang => true
  | .word w => w = "not"
  | _ => false

/-- A product. -/
def product (deeper : Deeper) : Parser := chain productOp? (unary deeper)

/-- A sum. -/
def sum (deeper : Deeper) : Parser := chain sumOp? (product deeper)

/-- A sum, or a comparison of two. -/
def comparison (deeper : Deeper) : Parser := fun c => do
  let (left, c) ← sum deeper c
  match c.token?.bind comparisonOp? with
  | none => return (left, c)
  | some op =>
    let (right, c) ← sum deeper c.advance
    let c ← c.spend
    return (.binary op left right, c)

/-- Negations before a comparison. -/
def negation (deeper : Deeper) : Parser := fun c =>
  if c.token?.any isNegation then do
    let (x, c) ← deeper.negated c.advance
    let c ← c.spend
    return (.unary .not x, c)
  else comparison deeper c

/-- A conjunction. -/
def conjunction (deeper : Deeper) : Parser := chain andOp? (negation deeper)

/-- A disjunction, which is any expression. -/
def disjunction (deeper : Deeper) : Parser := chain orOp? (conjunction deeper)

/-- The parsers that may be entered with `d` levels left. -/
def levels : (d : Nat) → Deeper
  | 0 => .exhausted
  | d + 1 => ⟨disjunction (levels d), negation (levels d), unary (levels d)⟩

/-- Reads all lexemes as one expression; `stop` is where the source ends. -/
def parseLexemes (stop : Nat) (lexemes : List Lexeme) : Except ReadError Tree := do
  let (tree, c) ← (levels maxDepth).whole ⟨lexemes, 0, maxNodes, stop⟩
  match c.rest with
  | [] => return tree
  | l :: _ => .error ⟨l.position, .unexpectedToken l.token⟩

end Expression

/-- **A parsed expression** with the text it was read from. -/
structure Expression where
  source : String
  root : Expression.Tree
deriving Repr

/-- **Reads an expression.** -/
def Expression.parse (source : String) : Except Expression.ReadError Expression := do
  let lexemes ← tokenize source
  let root ← parseLexemes source.utf8ByteSize lexemes
  return ⟨source, root⟩

end StepFlow
