import StepFlow.Unicode.Printable

/-!
# Texts shown in messages

A message shows a text in double quotes.  The quote and the backslash are
escaped, tab, line feed, carriage return and the null character get a letter of
their own, and any other character without a visible form is written by its
code point in hexadecimal.  A sentence that mentions a name puts it in single
quotes and leaves it as it is.
-/

namespace StepFlow.Text

/-- A code point in lower-case hexadecimal, between braces. -/
def codePoint (c : Char) : List Char :=
  '\\' :: 'u' :: '\x7b' :: (Nat.toDigits 16 c.toNat ++ ['\x7d'])

/-- A character as a message shows it. -/
def showChar (c : Char) : List Char :=
  match c with
  | '\x00' => ['\\', '0']
  | '\t' => ['\\', 't']
  | '\n' => ['\\', 'n']
  | '\r' => ['\\', 'r']
  | '\\' => ['\\', '\\']
  | '"' => ['\\', '"']
  | c => if Unicode.isPrintable c then [c] else codePoint c

/-- **A text as a message shows it**, in double quotes. -/
def quoted (s : String) : String :=
  String.ofList ('"' :: (s.toList.flatMap showChar ++ ['"']))

/-- A name in single quotes, as a sentence mentions it. -/
def mention (s : String) : String := "'" ++ s ++ "'"

end StepFlow.Text
