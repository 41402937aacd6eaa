import StepFlow.Expression.Parser

/-!
# The grammar of expressions

Which sequences of tokens are expressions, and of which tree, told apart from
the parser that reads them.  In the notation of grammars, from the loosest
binding to the tightest:

* `disjunction := conjunction (("||" | "or") conjunction)*`
* `conjunction := negation (("&&" | "and") negation)*`
* `negation := ("!" | "not") negation | comparison`
* `comparison := sum [("==" | "!=" | "<" | "<=" | ">" | ">=" | "=~" | "contains") sum]`
* `sum := product (("+" | "-") product)*`
* `product := unary (("*" | "/" | "%") unary)*`
* `unary := "-" unary | primary`
* `primary := number | text | literal word | "(" disjunction ")" | word hop*`
* `hop := "." word | "." index | "[" text "]" | "[" index "]"`

Chains associate to the left.  The word `not` at the start of a negation is
always the operator; everywhere else, and for the other operator words
everywhere, a word at the start of an operand is the root of a path, unless it is
one of the four literal words.

**Depth** is an index of `Derives`: a phrase of depth `d` has no token under more
than `d` parentheses, negations and minuses that enclose it.  **Size** is a
function of the tree: `Tree.operators` counts its operator nodes.
-/

namespace StepFlow.Expression

/-- **The chains** of operands between operators. -/
inductive Chain where
  | disjunction | conjunction | sum | product
deriving Repr, DecidableEq

/-- **The categories of phrases.** -/
inductive Category where
  | chain (c : Chain)
  | negation
  | comparison
  | unary
  | primary
deriving Repr, DecidableEq

namespace Chain

/-- What stands between the operators of a chain. -/
def operand : Chain → Category
  | disjunction => .chain .conjunction
  | conjunction => .negation
  | sum => .chain .product
  | product => .unary

/-- The tokens between the operands of a chain, and what they mean. -/
def signs : Chain → List (Token × BinaryOp)
  | disjunction => [(.orOr, .or), (.word "or", .or)]
  | conjunction => [(.andAnd, .and), (.word "and", .and)]
  | sum => [(.plus, .add), (.minus, .subtract)]
  | product => [(.star, .multiply), (.slash, .divide), (.percent, .remainder)]

end Chain

/-- The tokens that compare, and what they mean. -/
def comparisonSigns : List (Token × BinaryOp) :=
  [(.equal, .equal), (.notEqual, .notEqual), (.less, .less), (.lessEqual, .lessEqual),
    (.greater, .greater), (.greaterEqual, .greaterEqual), (.tilde, .matchesPattern),
    (.word "contains", .contains)]

/-- The tokens that negate. -/
def negationSigns : List Token := [.bang, .word "not"]

/-- The words that are literals, and their values. -/
def literalWords : List (String × Value) :=
  [("true", .bool true), ("false", .bool false), ("null", .null), ("undefined", .null)]

/-- **A number denotes an index** if it is a natural number; indices are held below
`2 ^ 64`. -/
def Denotes (x : Option Double) (n : Nat) : Prop :=
  ∃ (y : Double) (m : Nat), x = some y ∧ y.toInt? = some (m : Int) ∧ n = min m (twoTo 64 - 1)

/-- **The hops of a path** after its root. -/
inductive Hops : List Token → List Segment → Prop
  | nil : Hops [] []
  | field {ts ss} (w : String) (h : Hops ts ss) : Hops (.dot :: .word w :: ts) (.key w :: ss)
  | item {ts ss x n} (hx : Denotes x n) (h : Hops ts ss) :
      Hops (.dot :: .number x :: ts) (.index n :: ss)
  | key {ts ss} (k : String) (h : Hops ts ss) :
      Hops (.leftBracket :: .str k :: .rightBracket :: ts) (.key k :: ss)
  | index {ts ss x n} (hx : Denotes x n) (h : Hops ts ss) :
      Hops (.leftBracket :: .number x :: .rightBracket :: ts) (.index n :: ss)

/-- **The grammar**: `Derives a d ts t` says that the tokens `ts` are a phrase of
category `a` and depth `d` at most, and that `t` is its tree. -/
inductive Derives : Category → (depth : Nat) → List Token → Tree → Prop
  | operand {c d ts t} (h : Derives c.operand d ts t) : Derives (.chain c) d ts t
  | link {c d ts us l r k op} (hl : Derives (.chain c) d ts l) (hk : (k, op) ∈ c.signs)
      (hr : Derives c.operand d us r) : Derives (.chain c) d (ts ++ k :: us) (.binary op l r)
  | not {d ts t k} (hk : k ∈ negationSigns) (h : Derives .negation d ts t) :
      Derives .negation (d + 1) (k :: ts) (.unary .not t)
  | comparison {d ts t} (hk : ts.head? ≠ some (.word "not")) (h : Derives .comparison d ts t) :
      Derives .negation d ts t
  | sum {d ts t} (h : Derives (.chain .sum) d ts t) : Derives .comparison d ts t
  | compare {d ts us l r k op} (hl : Derives (.chain .sum) d ts l) (hk : (k, op) ∈ comparisonSigns)
      (hr : Derives (.chain .sum) d us r) : Derives .comparison d (ts ++ k :: us) (.binary op l r)
  | minus {d ts t} (h : Derives .unary d ts t) :
      Derives .unary (d + 1) (.minus :: ts) (.unary .negate t)
  | primary {d ts t} (h : Derives .primary d ts t) : Derives .unary d ts t
  | number {d} (x : Option Double) : Derives .primary d [.number x] (.literal (.ofComputed x))
  | text {d} (s : String) : Derives .primary d [.str s] (.literal (.str s))
  | literal {d w v} (hw : (w, v) ∈ literalWords) : Derives .primary d [.word w] (.literal v)
  | parens {d ts t} (h : Derives (.chain .disjunction) d ts t) :
      Derives .primary (d + 1) (.leftParen :: ts ++ [.rightParen]) t
  | path {d w ts ss} (hw : ∀ v, (w, v) ∉ literalWords) (h : Hops ts ss) :
      Derives .primary d (.word w :: ts) (.path (.key w :: ss))

/-- How many operator nodes a tree has. -/
def Tree.operators : Tree → Nat
  | .literal _ => 0
  | .path _ => 0
  | .unary _ t => t.operators + 1
  | .binary _ l r => l.operators + r.operators + 1

namespace Derives

variable {a : Category} {d : Nat} {ts : List Token} {t : Tree}

/-- A phrase that nests less deep is a phrase at every greater depth. -/
theorem mono {d' : Nat} (h : Derives a d ts t) (le : d ≤ d') : Derives a d' ts t := by
  induction h generalizing d' with
  | operand _ ih => exact .operand (ih le)
  | link _ hk _ ihl ihr => exact .link (ihl le) hk (ihr le)
  | not hk _ ih =>
      obtain ⟨e, rfl⟩ : ∃ e, d' = e + 1 := ⟨d' - 1, by omega⟩
      exact .not hk (ih (by omega))
  | comparison hk _ ih => exact .comparison hk (ih le)
  | sum _ ih => exact .sum (ih le)
  | compare _ hk _ ihl ihr => exact .compare (ihl le) hk (ihr le)
  | minus _ ih =>
      obtain ⟨e, rfl⟩ : ∃ e, d' = e + 1 := ⟨d' - 1, by omega⟩
      exact .minus (ih (by omega))
  | primary _ ih => exact .primary (ih le)
  | number x => exact .number x
  | text s => exact .text s
  | literal hw => exact .literal hw
  | parens _ ih =>
      obtain ⟨e, rfl⟩ : ∃ e, d' = e + 1 := ⟨d' - 1, by omega⟩
      exact .parens (ih (by omega))
  | path hw hs => exact .path hw hs

/-- No phrase is empty. -/
theorem ne_nil (h : Derives a d ts t) : ts ≠ [] := by
  induction h with
  | operand _ ih | comparison _ _ ih | sum _ ih | primary _ ih => exact ih
  | link | not | compare | minus | number | text | literal | parens | path => simp

/-- The first token of a phrase after another is the first of both. -/
theorem head?_append (h : Derives a d ts t) (us : List Token) :
    (ts ++ us).head? = ts.head? := by
  cases ts with
  | nil => exact absurd rfl h.ne_nil
  | cons k ts => rfl

end Derives

/-- Is a phrase of the category one that no exclamation mark can begin? -/
def Category.isTight : Category → Bool
  | .chain .sum => true
  | .chain .product => true
  | .comparison => true
  | .unary => true
  | .primary => true
  | _ => false

/-- An exclamation mark begins negations only. -/
theorem Derives.head?_ne_bang {a : Category} {d : Nat} {ts : List Token} {t : Tree}
    (h : Derives a d ts t) (tight : a.isTight = true) : ts.head? ≠ some .bang := by
  induction h with
  | @operand c _ _ _ _ ih => exact ih (by cases c <;> simp_all [Chain.operand, Category.isTight])
  | link hl _ _ ih _ => rw [hl.head?_append]; exact ih tight
  | not | comparison => simp [Category.isTight] at tight
  | sum _ ih => exact ih rfl
  | compare hl _ _ ih _ => rw [hl.head?_append]; exact ih rfl
  | primary _ ih => exact ih rfl
  | minus | number | text | literal | parens | path => simp

/-- A minus begins no primary. -/
theorem Derives.head?_ne_minus {d : Nat} {ts : List Token} {t : Tree}
    (h : Derives .primary d ts t) : ts.head? ≠ some .minus := by
  cases h <;> simp

end StepFlow.Expression
