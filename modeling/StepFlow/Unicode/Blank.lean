import StepFlow.Unicode.CodeSet

/-!
# White space

The 25 characters with the Unicode property *White_Space*.  They separate the
tokens of an expression, are trimmed off a path, and make a name blank when it
holds nothing else.
-/

namespace StepFlow.Unicode

/-- The property *White_Space*. -/
def whiteSpace : CodeSet :=
  ⟨[(0x09, 0x0D), (0x20, 0x20), (0x85, 0x85), (0xA0, 0xA0), (0x1680, 0x1680), (0x2000, 0x200A),
    (0x2028, 0x2029), (0x202F, 0x202F), (0x205F, 0x205F), (0x3000, 0x3000)]⟩

/-- **A blank**: a character with the property *White_Space*. -/
def isBlank (c : Char) : Bool := whiteSpace.contains c

/-- The text without the blanks at its two ends. -/
def trim (text : List Char) : List Char :=
  ((text.dropWhile isBlank).reverse.dropWhile isBlank).reverse

/-- A text that holds nothing but blanks, or nothing at all. -/
def isBlankText (text : String) : Bool := text.toList.all isBlank

@[simp] theorem trim_nil : trim [] = [] := rfl

end StepFlow.Unicode
