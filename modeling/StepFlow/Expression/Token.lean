import StepFlow.Number.Layout
import StepFlow.Text.Quoted

/-!
# The tokens of expressions

An expression is read as a sequence of **lexemes**: tokens with the byte offset
at which they start.  Operators have one token each, whichever way they are
spelt; the words `and`, `or`, `not` and `contains` stay words, and the grammar
decides where they are operators.
-/

namespace StepFlow.Expression

/-- **A token.** -/
inductive Token where
  /-- A numeral; `none` if it is beyond the largest double. -/
  | number (value : Option Double)
  | str (text : String)
  | word (text : String)
  | dot
  | leftBracket
  | rightBracket
  | leftParen
  | rightParen
  | equal
  | notEqual
  | less
  | lessEqual
  | greater
  | greaterEqual
  | tilde
  | andAnd
  | orOr
  | bang
  | plus
  | minus
  | star
  | slash
  | percent
deriving Repr, DecidableEq

/-- A token and where it starts, in bytes of the source's UTF-8 form. -/
structure Lexeme where
  token : Token
  position : Nat
deriving Repr, DecidableEq

namespace Token

/-- Numerals in messages have a fraction or an exponent, and are positional from
`0.0001` up to below `10 ^ 16`. -/
def numeralLayout : Layout where
  plainFrom := -4
  plainBelow := 16
  expPlus := false
  tie := .up

/-- A numeral as a message shows it. -/
def showNumeral : Option Double → String
  | none => "inf"
  | some x => String.ofList (numeralLayout.write x)

/-- The name under which a message mentions a token. -/
def name : Token → String
  | number x => "Number(" ++ showNumeral x ++ ")"
  | str s => "Str(" ++ Text.quoted s ++ ")"
  | word s => "Ident(" ++ Text.quoted s ++ ")"
  | dot => "Dot"
  | leftBracket => "LBracket"
  | rightBracket => "RBracket"
  | leftParen => "LParen"
  | rightParen => "RParen"
  | equal => "EqEq"
  | notEqual => "NotEq"
  | less => "Lt"
  | lessEqual => "LtEq"
  | greater => "Gt"
  | greaterEqual => "GtEq"
  | tilde => "Tilde"
  | andAnd => "AndAnd"
  | orOr => "OrOr"
  | bang => "Bang"
  | plus => "Plus"
  | minus => "Minus"
  | star => "Star"
  | slash => "Slash"
  | percent => "Percent"

end Token

end StepFlow.Expression
