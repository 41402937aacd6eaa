/-!
# Texts within texts

One text occurs in another if it is some contiguous part of it.  The empty text
occurs in every text.
-/

namespace StepFlow.Text

/-- **Does `text` occur in `cs`?** -/
def occursIn (text : List Char) : List Char → Bool
  | [] => text.isEmpty
  | c :: cs => text.isPrefixOf (c :: cs) || occursIn text cs

/-- A text occurs in another exactly if it is a contiguous part of it. -/
theorem occursIn_iff (text cs : List Char) : occursIn text cs = true ↔ text <:+: cs := by
  induction cs with
  | nil => simp [occursIn]
  | cons c cs ih => simp [occursIn, ih, List.infix_cons_iff]

end StepFlow.Text
