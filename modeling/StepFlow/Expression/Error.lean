import StepFlow.Expression.Token
import StepFlow.Value

/-!
# What can go wrong with an expression

Reading an expression fails at a position, for a `Complaint`.  Evaluating one
fails on the kind of an operand, on a pattern that is none, or on a division by
zero.  Each cause has a constructor; the wording is in the `message` functions.
What is wrong with a pattern that is none is not told apart: there is one cause for
all of them.
-/

namespace StepFlow.Expression

/-- Why a text is not an expression. -/
inductive Complaint where
  | unterminatedEscape
  | unterminatedText
  | unexpectedCharacter (c : Char)
  | nestedTooDeeply
  | tooComplex
  | unexpectedEnd
  | unexpectedToken (t : Token)
  | expectedClosingParen
  | expectedFieldName
  | expectedKeyOrIndex
  | expectedClosingBracket
deriving Repr, DecidableEq

/-- The wording of a complaint. -/
def Complaint.message : Complaint → String
  | unterminatedEscape => "unterminated escape"
  | unterminatedText => "unterminated string literal"
  | unexpectedCharacter c => "unexpected character '" ++ c.toString ++ "'"
  | nestedTooDeeply => "expression nested too deeply"
  | tooComplex => "expression too complex"
  | unexpectedEnd => "unexpected end of expression"
  | unexpectedToken t => "unexpected token " ++ t.name
  | expectedClosingParen => "expected ')'"
  | expectedFieldName => "expected field name after '.'"
  | expectedKeyOrIndex => "expected string key or index inside '[]'"
  | expectedClosingBracket => "expected ']'"

/-- A complaint and the byte offset that it is about. -/
structure ReadError where
  position : Nat
  complaint : Complaint
deriving Repr, DecidableEq

/-- The wording of a reading error. -/
def ReadError.message (e : ReadError) : String :=
  "parse error at position " ++ toString e.position ++ ": " ++ e.complaint.message

/-- Which operand has the wrong kind. -/
inductive KindFault where
  | negate (k : Kind)
  | pattern (k : Kind)
  | arithmetic (left right : Kind)
deriving Repr, DecidableEq

/-- The wording of a wrong kind. -/
def KindFault.message : KindFault → String
  | negate k => "cannot negate " ++ k.name
  | pattern k => "regex pattern must be a string, got " ++ k.name
  | arithmetic l r => "arithmetic on " ++ l.name ++ " and " ++ r.name

/-- **Why an expression has no value.** -/
inductive Failure where
  | read (e : ReadError)
  | kind (fault : KindFault)
  | pattern (text : String)
  | divisionByZero
deriving Repr, DecidableEq

/-- The wording of a failure.  That a pattern is none is told with the text of the pattern; the
account of what is wrong with it, which a reader of patterns would append, is left out. -/
def Failure.message : Failure → String
  | read e => e.message
  | kind fault => "type error: " ++ fault.message
  | pattern text => "invalid regex '" ++ text ++ "'"
  | divisionByZero => "division by zero"

end StepFlow.Expression
