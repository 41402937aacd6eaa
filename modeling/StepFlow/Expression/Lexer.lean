import StepFlow.Expression.Error
import StepFlow.Unicode.Blank
import StepFlow.Unicode.Letter

/-!
# From text to lexemes

`tokenize` cuts a source text into lexemes.  One token is read by `next`, which
says how many characters it takes; `lexemesFrom` walks the characters once,
reads a token where one starts and passes over the characters it took.  Walking
with a count of characters to pass over makes the recursion structural and keeps
the byte offsets in step with the text.

A numeral starts with an ASCII digit, a word with a letter, `_` or `$`.  After a
dot a numeral takes no fraction, so that `a.0.1` is a path of two indices.  In a
text a backslash keeps its meaning only before `n`, `t`, `r`, a quote or a
backslash; before any other character both stay, so that the classes of patterns
survive.
-/

namespace StepFlow.Expression

/-- May a word start with `c`? -/
def isWordStart (c : Char) : Bool := Unicode.isLetter c || c = '_' || c = '$'

/-- May a word go on with `c`? -/
def isWordChar (c : Char) : Bool := Unicode.isLetterOrNumeral c || c = '_' || c = '$'

/-- The number that decimal digits denote. -/
def digitsValue (ds : List Char) : Nat :=
  ds.foldl (fun n d => 10 * n + (d.toNat - 48)) 0

/-- What an escaped character stands for. -/
def unescape (c : Char) : List Char :=
  match c with
  | 'n' => ['\n']
  | 't' => ['\t']
  | 'r' => ['\r']
  | '\\' => ['\\']
  | '"' => ['"']
  | '\'' => ['\'']
  | c => ['\\', c]

/-- The rest of a text after its opening quote: the content, and how many
characters there are up to the closing quote, which is one of them. -/
def textBody (quote : Char) : List Char → Except Complaint (List Char × Nat)
  | [] => .error .unterminatedText
  | ['\\'] => .error .unterminatedEscape
  | '\\' :: c :: rest => do
    let (content, n) ← textBody quote rest
    return (unescape c ++ content, n + 2)
  | c :: rest =>
    if c = quote then .ok ([], 1)
    else do
      let (content, n) ← textBody quote rest
      return (c :: content, n + 1)

/-- The numeral at the head of `cs`: its token and its width. -/
def numeral (afterDot : Bool) (cs : List Char) : Token × Nat :=
  let whole := cs.takeWhile Char.isDigit
  let fraction := match cs.dropWhile Char.isDigit with
    | '.' :: rest => if afterDot then [] else rest.takeWhile Char.isDigit
    | _ => []
  let value := Double.ofDecimal false (digitsValue (whole ++ fraction)) (-(fraction.length : Int))
  (.number value, if fraction.isEmpty then whole.length else whole.length + 1 + fraction.length)

/-- The operator or bracket at the head of `c :: rest`. -/
def operator (c : Char) (rest : List Char) : Except Complaint (Token × Nat) :=
  match c, rest with
  | '=', '=' :: '=' :: _ => .ok (.equal, 3)
  | '=', '=' :: _ => .ok (.equal, 2)
  | '=', '~' :: _ => .ok (.tilde, 2)
  | '!', '=' :: '=' :: _ => .ok (.notEqual, 3)
  | '!', '=' :: _ => .ok (.notEqual, 2)
  | '!', _ => .ok (.bang, 1)
  | '<', '=' :: _ => .ok (.lessEqual, 2)
  | '<', _ => .ok (.less, 1)
  | '>', '=' :: _ => .ok (.greaterEqual, 2)
  | '>', _ => .ok (.greater, 1)
  | '&', '&' :: _ => .ok (.andAnd, 2)
  | '|', '|' :: _ => .ok (.orOr, 2)
  | '+', _ => .ok (.plus, 1)
  | '-', _ => .ok (.minus, 1)
  | '*', _ => .ok (.star, 1)
  | '/', _ => .ok (.slash, 1)
  | '%', _ => .ok (.percent, 1)
  | '.', _ => .ok (.dot, 1)
  | '(', _ => .ok (.leftParen, 1)
  | ')', _ => .ok (.rightParen, 1)
  | '[', _ => .ok (.leftBracket, 1)
  | ']', _ => .ok (.rightBracket, 1)
  | c, _ => .error (.unexpectedCharacter c)

/-- **One token**, at the head of `c :: rest`, where `c` is no blank: the token
and its width in characters. -/
def next (afterDot : Bool) (c : Char) (rest : List Char) : Except Complaint (Token × Nat) :=
  if c.isDigit then .ok (numeral afterDot (c :: rest))
  else if isWordStart c then
    let word := (c :: rest).takeWhile isWordChar
    .ok (.word (String.ofList word), word.length)
  else if c = '"' ∨ c = '\'' then do
    let (content, n) ← textBody c rest
    return (.str (String.ofList content), n + 1)
  else operator c rest

/-- The lexemes from a place in the source on: `skip` characters are passed over
first, `position` is the byte offset, `afterDot` tells whether the last token
was a dot. -/
def lexemesFrom : (skip position : Nat) → (afterDot : Bool) → List Char →
    Except ReadError (List Lexeme)
  | _, _, _, [] => .ok []
  | skip + 1, position, afterDot, c :: rest =>
    lexemesFrom skip (position + c.utf8Size) afterDot rest
  | 0, position, afterDot, c :: rest =>
    if Unicode.isBlank c then lexemesFrom 0 (position + c.utf8Size) afterDot rest
    else match next afterDot c rest with
      | .error complaint => .error ⟨position, complaint⟩
      | .ok (token, width) =>
        (⟨token, position⟩ :: ·) <$>
          lexemesFrom (width - 1) (position + c.utf8Size) (token = .dot) rest

/-- **The lexemes of a source text.** -/
def tokenize (source : String) : Except ReadError (List Lexeme) :=
  lexemesFrom 0 0 false source.toList

end StepFlow.Expression
