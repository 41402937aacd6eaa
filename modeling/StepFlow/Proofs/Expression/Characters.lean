import StepFlow.Expression.Lexer

/-!
# The characters of tokens

Where one token ends and the next one begins is decided by the classes of their characters.  The
classes that meet there are apart:

* no blank goes on with a word or a numeral (`isWordChar_of_isBlank`, `isDigit_of_isBlank`);
* no word starts with a digit, though it may go on with one (`isWordStart_of_isDigit`,
  `isWordChar_of_isDigit`).

Above ASCII this rests on the tables of Unicode: no range of the one meets a range of the other
(`CodeSet.areApart`), which is a comparison of bounds.
-/

namespace StepFlow

namespace Unicode

namespace CodeSet

/-- **Are two sets apart?**  No range of the one meets a range of the other. -/
def areApart (s t : CodeSet) : Bool :=
  s.ranges.all fun r => t.ranges.all fun q => r.2 < q.1 || q.2 < r.1

/-- Of two sets that are apart one at most holds a code point. -/
theorem holds_eq_false_of_areApart {s t : CodeSet} (apart : s.areApart t = true) {n : Nat}
    (held : s.holds n = true) : t.holds n = false := by
  obtain ⟨r, listed, low⟩ := List.any_eq_true.mp held
  refine List.any_eq_false.mpr fun q other meets => ?_
  have away := List.all_eq_true.mp (List.all_eq_true.mp apart r listed) q other
  simp only [Bool.and_eq_true, Bool.or_eq_true, decide_eq_true_eq] at low meets away
  omega

end CodeSet

/-- What holds of the first 128 code points holds of every ASCII character. -/
theorem forall_ascii {P : Char → Prop} (all : ∀ n < 0x80, P (Char.ofNat n)) {c : Char}
    (ascii : c.toNat < 0x80) : P c := by
  have holds := all c.toNat ascii
  rwa [Char.ofNat_toNat] at holds

/-- **No blank is a letter or a numeral.** -/
theorem isLetterOrNumeral_of_isBlank {c : Char} (blank : isBlank c = true) :
    isLetterOrNumeral c = false := by
  by_cases ascii : c.toNat < 0x80
  · exact forall_ascii (P := fun c => isBlank c = true → isLetterOrNumeral c = false)
      (by decide +kernel) ascii blank
  · have letters : alphabetic.contains c = false :=
      CodeSet.holds_eq_false_of_areApart (by decide +kernel : whiteSpace.areApart alphabetic = true)
        blank
    have numerals : numeric.contains c = false :=
      CodeSet.holds_eq_false_of_areApart (by decide +kernel : whiteSpace.areApart numeric = true)
        blank
    simp only [isLetterOrNumeral, isLetter, isNumeral, ascii, if_false, letters, numerals,
      Bool.or_self]

/-- Digits are ASCII. -/
theorem toNat_lt_of_isDigit {c : Char} (digit : c.isDigit = true) : c.toNat < 0x80 := by
  have high : c.toNat ≤ '9'.toNat := by
    simp only [Char.isDigit, Bool.and_eq_true, decide_eq_true_eq] at digit
    exact digit.2
  have nine : '9'.toNat = 57 := rfl
  omega

end Unicode

namespace Expression

open Unicode

/-- **A blank ends a word.** -/
theorem isWordChar_of_isBlank {c : Char} (blank : isBlank c = true) : isWordChar c = false := by
  have underscore : c ≠ '_' := by
    rintro rfl
    revert blank
    decide
  have dollar : c ≠ '$' := by
    rintro rfl
    revert blank
    decide
  simp only [isWordChar, isLetterOrNumeral_of_isBlank blank, underscore, dollar, decide_false,
    Bool.or_self]

/-- A word may go on with what it may start with. -/
theorem isWordChar_of_isWordStart {c : Char} (start : isWordStart c = true) :
    isWordChar c = true := by
  simp only [isWordStart, isWordChar, isLetterOrNumeral, Bool.or_eq_true] at start ⊢
  rcases start with (letter | underscore) | dollar
  · exact .inl (.inl (.inl letter))
  · exact .inl (.inr underscore)
  · exact .inr dollar

/-- A word may go on with a digit. -/
theorem isWordChar_of_isDigit {c : Char} (digit : c.isDigit = true) : isWordChar c = true :=
  forall_ascii (P := fun c => c.isDigit = true → isWordChar c = true) (by decide +kernel)
    (toNat_lt_of_isDigit digit) digit

/-- No word starts with a digit. -/
theorem isWordStart_of_isDigit {c : Char} (digit : c.isDigit = true) : isWordStart c = false :=
  forall_ascii (P := fun c => c.isDigit = true → isWordStart c = false) (by decide +kernel)
    (toNat_lt_of_isDigit digit) digit

/-- **A blank ends a numeral.** -/
theorem isDigit_of_isBlank {c : Char} (blank : isBlank c = true) : c.isDigit = false := by
  cases digit : c.isDigit with
  | false => rfl
  | true => exact (isWordChar_of_isDigit digit).symm.trans (isWordChar_of_isBlank blank)

/-- No blank starts a word. -/
theorem isBlank_of_isWordChar {c : Char} (going : isWordChar c = true) : isBlank c = false := by
  cases blank : isBlank c with
  | false => rfl
  | true => exact going.symm.trans (isWordChar_of_isBlank blank)

end Expression

end StepFlow
