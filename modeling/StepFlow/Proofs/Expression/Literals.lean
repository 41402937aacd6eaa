import StepFlow.Expression.Eval
import StepFlow.Proofs.Expression.Lexemes
import StepFlow.Proofs.Expression.Recognition

/-!
# Texts as literals

Every text can be written as a literal between quotes of either kind: with a backslash before each
backslash and before each quote of that kind, and everything else as it is, line breaks included
(`literal`).  What is written so is read as one token, the text, and is an expression that has this
value in every context (`reads_literal`).

A backslash has a meaning of its own before `n`, `t`, `r`, a quote or a backslash, and stands for
itself before anything else.  A backslash of the text meets none of these in a literal, since it is
doubled and the reader takes the two together (`textBody_escape`).
-/

namespace StepFlow.Expression

/-- **The quotes** that a literal can stand between. -/
def IsQuote (c : Char) : Prop := c = '"' ∨ c = '\''

instance (c : Char) : Decidable (IsQuote c) := by unfold IsQuote; infer_instance

/-- A character of a text as it is written between `quote`s. -/
def escape (quote c : Char) : List Char := if c = '\\' ∨ c = quote then ['\\', c] else [c]

/-- **The literal of a text**, between `quote`s. -/
def literal (quote : Char) (s : String) : String :=
  String.ofList (quote :: s.toList.flatMap (escape quote) ++ [quote])

variable {quote : Char}

/-- After a backslash, a quote stands for itself and so does a backslash. -/
theorem unescape_of_special (isQuote : IsQuote quote) {c : Char}
    (special : c = '\\' ∨ c = quote) : unescape c = [c] := by
  rcases special with rfl | rfl
  · rfl
  · rcases isQuote with rfl | rfl <;> rfl

/-- **Reading undoes escaping**, whatever comes after the closing quote. -/
theorem textBody_escape (isQuote : IsQuote quote) (cs rest : List Char) :
    textBody quote (cs.flatMap (escape quote) ++ quote :: rest) =
      .ok (cs, (cs.flatMap (escape quote)).length + 1) := by
  induction cs with
  | nil =>
    have other : quote ≠ '\\' := by rcases isQuote with rfl | rfl <;> decide
    exact textBody_quote other rest
  | cons c cs ih =>
    rw [List.flatMap_cons, List.append_assoc, List.length_append]
    by_cases special : c = '\\' ∨ c = quote
    · rw [escape, if_pos special, List.length_cons, List.length_singleton]
      have read := textBody_backslash (c := c) ih
      rw [unescape_of_special isQuote special] at read
      exact read.trans (by rw [List.singleton_append]; congr 2; omega)
    · rw [escape, if_neg special, List.length_singleton]
      have read := textBody_cons (mt Or.inl special) (mt Or.inr special) ih
      exact read.trans (by congr 2; omega)

/-- What starts with a quote is a text, up to the next one. -/
theorem next_quote (isQuote : IsQuote quote) {rest content : List Char} {n : Nat}
    (body : textBody quote rest = .ok (content, n)) (afterDot : Bool) :
    next afterDot quote rest = .ok (.str (String.ofList content), n + 1) := by
  have noDigit : quote.isDigit = false := by rcases isQuote with rfl | rfl <;> decide
  have noWord : isWordStart quote = false := by rcases isQuote with rfl | rfl <;> decide
  have isQuote : quote = '"' ∨ quote = '\'' := isQuote
  rw [next, noDigit, noWord, if_neg Bool.false_ne_true, if_neg Bool.false_ne_true, if_pos isQuote,
    body]
  rfl

/-- **A literal is one token**, its text. -/
theorem tokenize_literal (isQuote : IsQuote quote) (s : String) :
    tokenize (literal quote s) = .ok [⟨.str s, 0⟩] := by
  have visible : Unicode.isBlank quote = false := by rcases isQuote with rfl | rfl <;> decide
  have body := textBody_escape isQuote s.toList []
  rw [← List.length_singleton (a := quote), ← List.length_append] at body
  have token := @lexemesFrom_token false quote _ [] _ visible
    (by rw [List.append_nil]; exact next_quote isQuote body false) 0
  rw [List.append_nil, String.ofList_toList] at token
  rw [tokenize, literal, String.toList_ofList]
  exact token

/-- A text alone is an expression. -/
theorem parse_of_tokenize_str {source s : String} {position : Nat}
    (read : tokenize source = .ok [⟨.str s, position⟩]) :
    parse source = .ok ⟨source, .literal (.str s)⟩ := by
  have phrase : Derives (.chain .disjunction) 63 [.str s] (.literal (.str s)) :=
    .operand (.operand (.comparison (by simp) (.sum (.operand (.operand (.primary (.text s)))))))
  have tree : parseLexemes source.utf8ByteSize [⟨.str s, position⟩] = .ok (.literal (.str s)) :=
    parseLexemes_complete phrase (Nat.zero_le _)
  rw [parse, read]
  simp only [bind, Except.bind, tree]
  rfl

/-- **Every text can be written as a literal.**  The literal of a text between quotes of either
kind is read as one token, which is that text, and it is an expression whose value in every context
is that text. -/
theorem reads_literal (isQuote : IsQuote quote) (s : String) :
    tokenize (literal quote s) = .ok [⟨.str s, 0⟩] ∧
      ∃ e, parse (literal quote s) = .ok e ∧ ∀ context, e.eval context = .ok (.str s) := by
  have one := tokenize_literal isQuote s
  exact ⟨one, _, parse_of_tokenize_str one, fun context => rfl⟩

/-- A text with both quotes, a line break, and a backslash before a letter. -/
def knotted : String := "it's\n\"a\\n\""

/-- Between single quotes the line break of that text stays, and the backslash is doubled. -/
theorem reads_literal_knotted :
    IsQuote '\'' ∧ literal '\'' knotted = "'it\\'s\n\"a\\\\n\"'" ∧
      tokenize (literal '\'' knotted) = .ok [⟨.str knotted, 0⟩] ∧
        ∃ e, parse (literal '\'' knotted) = .ok e ∧
          ∀ context, e.eval context = .ok (.str knotted) :=
  ⟨by decide, by decide, reads_literal (by decide) knotted⟩

end StepFlow.Expression
