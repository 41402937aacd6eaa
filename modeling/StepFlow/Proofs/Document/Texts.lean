import StepFlow.Document.Json
import StepFlow.Value.Text

/-!
# Values in JSON texts

A value is written as a JSON text without blanks, and the text is read as a tree.  The tree has
the shape of the value, with the same truth values and the same texts, those of keys included, in
the same places (`JsonText.shows_of_parse`).  It need not have the same numbers: some doubles are
not read from the digits that identify them.  Nor need there be a tree at all, since values may
nest deeper than texts.  So what is said here is what a text can be read as, if it is read.

What is load-bearing is how little has to be known of numbers.  A number is written in characters
that occur in nothing else but texts, and reading one takes such characters only.  If it left one
of them over, then the next thing could not be read, because lists, objects and whole texts go on
with another character or end (`JsonText.Takes.eq_of_skip`).
-/

namespace StepFlow

namespace JsonText

/-! ### Trees that show values -/

/-- The trees that numbers are read as; a number beyond the doubles has no value. -/
def IsNumeral : JsonText → Prop
  | int _ => True
  | float _ => True
  | unreadable => True
  | _ => False

mutual

/-- **A tree shows a value**, but for the numbers. -/
inductive Shows : Value → JsonText → Prop
  | null : Shows .null .null
  | bool (b : Bool) : Shows (.bool b) (.bool b)
  | int (n : Int) {t : JsonText} (h : t.IsNumeral) : Shows (.int n) t
  | float (x : Double) {t : JsonText} (h : t.IsNumeral) : Shows (.float x) t
  | str (s : String) : Shows (.str s) (.str s)
  | arr {vs : List Value} {ts : List JsonText} (h : ShowsItems vs ts) : Shows (.arr vs) (.arr ts)
  | obj {fs : List (String × Value)} {gs : List (String × JsonText)} (h : ShowsFields fs gs) :
      Shows (.obj fs) (.obj gs)

/-- Trees show values one by one. -/
inductive ShowsItems : List Value → List JsonText → Prop
  | nil : ShowsItems [] []
  | cons {v : Value} {t : JsonText} {vs : List Value} {ts : List JsonText} (head : Shows v t)
      (tail : ShowsItems vs ts) : ShowsItems (v :: vs) (t :: ts)

/-- Trees show values one by one, under the same keys. -/
inductive ShowsFields : List (String × Value) → List (String × JsonText) → Prop
  | nil : ShowsFields [] []
  | cons (key : String) {v : Value} {t : JsonText} {fs : List (String × Value)}
      {gs : List (String × JsonText)} (head : Shows v t) (tail : ShowsFields fs gs) :
      ShowsFields ((key, v) :: fs) ((key, t) :: gs)

end

section ShowsFields

variable {fs : List (String × Value)} {gs : List (String × JsonText)} {key : String}

/-- Every field of the tree shows one of the value. -/
theorem ShowsFields.exists_value (h : ShowsFields fs gs) {t : JsonText} (mem : (key, t) ∈ gs) :
    ∃ v, (key, v) ∈ fs ∧ Shows v t := by
  induction gs generalizing fs with
  | nil => cases mem
  | cons g gs ih =>
    cases h with
    | @cons k v _ fs _ head tail =>
      rcases List.mem_cons.mp mem with here | later
      · cases here
        exact ⟨v, List.mem_cons_self, head⟩
      · obtain ⟨v', listed, shows⟩ := ih tail later
        exact ⟨v', List.mem_cons_of_mem _ listed, shows⟩

/-- Every field of the value is shown by one of the tree. -/
theorem ShowsFields.exists_tree (h : ShowsFields fs gs) {v : Value} (mem : (key, v) ∈ fs) :
    ∃ t, (key, t) ∈ gs ∧ Shows v t := by
  induction fs generalizing gs with
  | nil => cases mem
  | cons f fs ih =>
    cases h with
    | @cons k _ t _ gs head tail =>
      rcases List.mem_cons.mp mem with here | later
      · cases here
        exact ⟨t, List.mem_cons_self, head⟩
      · obtain ⟨t', listed, shows⟩ := ih tail later
        exact ⟨t', List.mem_cons_of_mem _ listed, shows⟩

end ShowsFields

/-! ### Numbers -/

/-- **The characters of numbers.** -/
def IsNumeric (c : Char) : Prop :=
  c.isDigit = true ∨ c = '-' ∨ c = '+' ∨ c = '.' ∨ c = 'e' ∨ c = 'E'

instance (c : Char) : Decidable (IsNumeric c) := by unfold IsNumeric; infer_instance

/-- **Characters of a number are taken** from the head of a text. -/
def Takes (cs rest : List Char) : Prop := ∃ taken, cs = taken ++ rest ∧ ∀ c ∈ taken, IsNumeric c

theorem Takes.refl (cs : List Char) : Takes cs cs := ⟨[], rfl, nofun⟩

theorem Takes.trans {cs ds es : List Char} (first : Takes cs ds) (second : Takes ds es) :
    Takes cs es := by
  obtain ⟨taken, rfl, numeric⟩ := first
  obtain ⟨more, rfl, numeric'⟩ := second
  exact ⟨taken ++ more, (List.append_assoc _ _ _).symm,
    List.forall_mem_append.mpr ⟨numeric, numeric'⟩⟩

theorem Takes.cons {c : Char} {cs rest : List Char} (numeric : IsNumeric c) (h : Takes cs rest) :
    Takes (c :: cs) rest := by
  obtain ⟨taken, rfl, all⟩ := h
  exact ⟨c :: taken, rfl, List.forall_mem_cons.mpr ⟨numeric, all⟩⟩

theorem takes_dropDigits (cs : List Char) : Takes cs (cs.dropWhile Char.isDigit) :=
  ⟨_, List.takeWhile_append_dropWhile.symm,
    fun _ mem => .inl (List.all_eq_true.mp List.all_takeWhile _ mem)⟩

theorem isNumeral_double (negative : Bool) (whole fraction : List Char) (exponent : Int) :
    (double negative whole fraction exponent).IsNumeral := by
  unfold double
  simp only
  split <;> trivial

/-- An exponent takes characters of a number. -/
theorem takes_exponentPart {cs rest : List Char} {e : Option Int}
    (h : exponentPart cs = some (e, rest)) : Takes cs rest := by
  have taken {ds : List Char} {n : Option Int}
      (h : (if (ds.takeWhile Char.isDigit).isEmpty then none
        else some (n, ds.dropWhile Char.isDigit)) = some (e, rest)) : Takes ds rest := by
    simp only [Option.ite_none_left_eq_some, Option.some.injEq, Prod.mk.injEq] at h
    rw [← h.2.2]
    exact takes_dropDigits _
  unfold exponentPart at h
  split at h
  · rename_i c cs
    split at h
    · rename_i marked
      have numeric : IsNumeric c := by
        rcases marked with rfl | rfl <;> decide
      refine .cons numeric ?_
      simp only at h
      split at h
      · exact .cons (by decide) (taken h)
      · exact .cons (by decide) (taken h)
      · exact taken h
    · cases h
      exact .refl _
  · cases h
    exact .refl _

/-- **A number is read as a number**, and takes characters of a number only. -/
theorem number_reads {negative : Bool} {cs left : List Char} {t : JsonText}
    (h : number negative cs = some (t, left)) : t.IsNumeral ∧ Takes cs left := by
  have whole := takes_dropDigits cs
  unfold number at h
  simp only [Option.bind_eq_bind] at h
  split at h
  · cases h
  · split at h
    · -- a fraction, and perhaps an exponent: a double
      rename_i rest pointed
      split at h
      · cases h
      · rw [Option.bind_some] at h
        obtain ⟨⟨exponent?, afterExponent⟩, raised, h⟩ := Option.bind_eq_some_iff.mp h
        cases h
        refine ⟨isNumeral_double _ _ _ _, whole.trans ?_⟩
        rw [pointed]
        exact .cons (by decide) ((takes_dropDigits rest).trans (takes_exponentPart raised))
    · rw [Option.bind_some] at h
      obtain ⟨⟨exponent?, afterExponent⟩, raised, h⟩ := Option.bind_eq_some_iff.mp h
      have tree : t.IsNumeral ∧ left = afterExponent := by
        simp only at h
        split at h
        · split at h
          · split at h <;> cases h
            · exact ⟨isNumeral_double _ _ _ _, rfl⟩
            · exact ⟨trivial, rfl⟩
          · split at h <;> cases h
            · exact ⟨trivial, rfl⟩
            · exact ⟨isNumeral_double _ _ _ _, rfl⟩
        · cases h
          exact ⟨isNumeral_double _ _ _ _, rfl⟩
      rw [tree.2]
      exact ⟨tree.1, whole.trans (takes_exponentPart raised)⟩

/-- A character of a number is no blank. -/
theorem isSpace_of_isNumeric {c : Char} (h : IsNumeric c) : isSpace c = false := by
  have other : c ≠ ' ' ∧ c ≠ '\n' ∧ c ≠ '\t' ∧ c ≠ '\r' := by
    refine ⟨?_, ?_, ?_, ?_⟩ <;> (rintro rfl; revert h; decide)
  simp [isSpace, other]

theorem skip_cons {c : Char} (h : isSpace c = false) (cs : List Char) : skip (c :: cs) = c :: cs :=
  List.dropWhile_cons_of_neg (by rw [h]; exact Bool.false_ne_true)

/-- **What can come after a value**: the end of the text, or of what the value is part of, or
another part. -/
def AfterValue (rest : List Char) : Prop := ∀ c ∈ rest.head?, c = ',' ∨ c = ']' ∨ c = '\x7d'

theorem afterValue_cons {c : Char} (rest : List Char) (h : c = ',' ∨ c = ']' ∨ c = '\x7d') :
    AfterValue (c :: rest) := by
  rintro _ ⟨⟩
  exact h

theorem AfterValue.skip_eq {rest : List Char} (h : AfterValue rest) : skip rest = rest := by
  cases rest with
  | nil => rfl
  | cons c cs =>
    refine skip_cons ?_ cs
    rcases h c rfl with rfl | rfl | rfl <;> rfl

/-- **If characters of a number are left over, no other character can be read.** -/
theorem Takes.eq_of_skip {left rest more : List Char} {c : Char} (h : Takes left rest)
    (ends : AfterValue rest) (next : skip left = c :: more) (other : ¬ IsNumeric c) :
    rest = c :: more := by
  obtain ⟨taken, rfl, numeric⟩ := h
  cases taken with
  | nil => exact ends.skip_eq.symm.trans next
  | cons d taken =>
    have first := numeric d List.mem_cons_self
    rw [List.cons_append, skip_cons (isSpace_of_isNumeric first), List.cons.injEq] at next
    exact absurd (next.1 ▸ first) other

/-- What takes characters of a number from the text of one leaves some of these over, or none. -/
theorem Takes.of_append {cs rest left : List Char} (h : Takes (cs ++ rest) left)
    (numeric : ∀ c ∈ cs, IsNumeric c) (ends : AfterValue rest) : Takes left rest := by
  obtain ⟨taken, same, all⟩ := h
  rcases List.append_eq_append_iff.mp same with ⟨more, rfl, rfl⟩ | ⟨more, rfl, rfl⟩
  · cases more with
    | nil => exact .refl _
    | cons c more =>
      -- the number would go on with what comes after a value
      have first := all c (List.mem_append_right _ List.mem_cons_self)
      rcases ends c rfl with rfl | rfl | rfl <;> exact absurd first (by decide)
  · exact ⟨more, rfl, fun c mem => numeric c (List.mem_append_right _ mem)⟩

section Value

variable {fuel depth : Nat} {rest left : List Char} {t : JsonText}

theorem value_of_isNumeric {c : Char} (h : IsNumeric c) (cs : List Char) :
    value (fuel + 1) depth (c :: cs) =
      if c = '-' then number true cs else number false (c :: cs) := by
  rw [value, skip_cons (isSpace_of_isNumeric h)]
  split
  case h_5 same =>
    cases same
    rfl
  case h_9 notNegative _ _ _ =>
    rw [if_neg]
    rintro rfl
    exact notNegative _ rfl
  case h_1 same => cases same
  all_goals
    rename_i same
    cases same
    exact absurd h (by decide)

/-- **Where a number was written a number is read**, if anything. -/
theorem numeral_of_value {cs : List Char} (written : cs ≠ []) (numeric : ∀ c ∈ cs, IsNumeric c)
    (ends : AfterValue rest) (h : value (fuel + 1) depth (cs ++ rest) = some (t, left)) :
    t.IsNumeral ∧ Takes left rest := by
  cases cs with
  | nil => exact absurd rfl written
  | cons c cs =>
    rw [List.cons_append, value_of_isNumeric (numeric c List.mem_cons_self)] at h
    split at h
    · obtain ⟨tree, taken⟩ := number_reads h
      exact ⟨tree, taken.of_append (fun c mem => numeric c (List.mem_cons_of_mem _ mem)) ends⟩
    · obtain ⟨tree, taken⟩ := number_reads h
      exact ⟨tree, taken.of_append numeric ends⟩

end Value

/-! ### Texts -/

section Body

variable {rest : List Char} {read : Option (List Char) × List Char}

/-- A code point of four digits that is not half of a surrogate pair. -/
theorem stringBody_codePoint {a b c d : Char} {n : Nat} (digits : hex4? a b c d = some n)
    (low : n < 0xD800) (h : stringBody ('\\' :: 'u' :: a :: b :: c :: d :: rest) = some read) :
    ∃ body, stringBody rest = some body ∧ read = (body.1.map (Char.ofNat n :: ·), body.2) := by
  rw [stringBody.eq_def] at h
  split at h
  case h_1 same => cases same
  case h_2 same => cases same
  case h_3 same =>
    cases same
    rw [digits] at h
    split at h
    · rename_i found _
      obtain rfl := Option.some.inj found
      rw [if_neg (by omega), if_neg (by omega)] at h
      obtain ⟨body, after, rfl⟩ := Option.map_eq_some_iff.mp h
      exact ⟨body, after, rfl⟩
    · cases h
  case h_4 same =>
    cases same
    rw [digits, Option.bind_some] at h
    obtain ⟨body, after, rfl⟩ := Option.map_eq_some_iff.mp h
    exact ⟨body, after, by rw [if_neg (by omega)]⟩
  case h_5 unlike same =>
    cases same
    exact (unlike _ _ _ _ _ rfl rfl).elim
  case h_6 unlike same =>
    cases same
    exact (unlike _ _ rfl rfl).elim

/-- A character with a letter of its own. -/
theorem stringBody_letter {c e : Char} (letter : escaped? c = some e)
    (h : stringBody ('\\' :: c :: rest) = some read) :
    ∃ body, stringBody rest = some body ∧ read = (body.1.map (e :: ·), body.2) := by
  rw [stringBody.eq_def] at h
  split at h
  case h_1 same => cases same
  case h_2 same => cases same
  case h_3 same =>
    cases same
    cases letter
  case h_4 same =>
    cases same
    cases letter
  case h_5 same =>
    cases same
    rw [letter, Option.bind_some] at h
    obtain ⟨body, after, rfl⟩ := Option.map_eq_some_iff.mp h
    exact ⟨body, after, rfl⟩
  case h_6 unlike same =>
    cases same
    exact (unlike _ _ rfl rfl).elim

/-- A character that stands for itself. -/
theorem stringBody_plain {c : Char} (quote : c ≠ '"') (backslash : c ≠ '\\')
    (visible : ¬ c.toNat < 0x20) (h : stringBody (c :: rest) = some read) :
    ∃ body, stringBody rest = some body ∧ read = (body.1.map (c :: ·), body.2) := by
  rw [stringBody.eq_def] at h
  split at h
  case h_1 same => cases same
  case h_6 same =>
    cases same
    rw [if_neg (not_or.mpr ⟨visible, backslash⟩)] at h
    obtain ⟨body, after, rfl⟩ := Option.map_eq_some_iff.mp h
    exact ⟨body, after, rfl⟩
  all_goals
    rename_i same
    cases same
    contradiction

/-- A control character is written as its code point. -/
theorem hex4?_hexDigit :
    ∀ n < 0x20, hex4? '0' '0' (Value.hexDigit (n / 16)) (Value.hexDigit (n % 16)) = some n := by
  decide

/-- **A character that was written is read back.** -/
theorem stringBody_escapeChar {c : Char}
    (h : stringBody (Value.escapeChar c ++ rest) = some read) :
    ∃ body, stringBody rest = some body ∧ read = (body.1.map (c :: ·), body.2) := by
  unfold Value.escapeChar at h
  split at h
  case h_8 quote backslash _ _ _ _ _ =>
    split at h
    · rename_i control
      have back := stringBody_codePoint (hex4?_hexDigit _ control) (by omega) h
      rwa [Char.ofNat_toNat] at back
    · rename_i visible
      exact stringBody_plain quote backslash visible h
  all_goals exact stringBody_letter rfl h

/-- **A text that was written is read back.** -/
theorem stringBody_quote {s : List Char}
    (h : stringBody (s.flatMap Value.escapeChar ++ '"' :: rest) = some read) :
    read = (some s, rest) := by
  induction s generalizing read with
  | nil =>
    rw [List.flatMap_nil, List.nil_append, stringBody] at h
    exact (Option.some.inj h).symm
  | cons c s ih =>
    rw [List.flatMap_cons, List.append_assoc] at h
    obtain ⟨body, after, rfl⟩ := stringBody_escapeChar h
    rw [ih after]
    rfl

end Body

end JsonText

open JsonText

/-! ### The characters of numbers -/

namespace Layout

theorem isNumeric_of_mem_digits {n : Nat} {c : Char} (mem : c ∈ digits n) : IsNumeric c :=
  .inl (Nat.isDigit_of_mem_toDigits (by decide) (by decide) mem)

/-- Positional texts are written in characters of numbers. -/
theorem plain_numeric {ds : List Char} (digits : ∀ c ∈ ds, IsNumeric c) (point : Int) :
    plain ds point ≠ [] ∧ ∀ c ∈ plain ds point, IsNumeric c := by
  have zeros (n : Nat) : ∀ c ∈ List.replicate n '0', IsNumeric c := by
    intro c mem
    rw [List.eq_of_mem_replicate mem]
    decide
  have dot : IsNumeric '.' := by decide
  have zero : IsNumeric '0' := by decide
  unfold plain
  split
  · exact ⟨List.cons_ne_nil _ _, by
      simpa only [List.forall_mem_cons, List.forall_mem_append] using ⟨zero, dot, zeros _, digits⟩⟩
  · split
    · refine ⟨by simp, ?_⟩
      simpa only [List.forall_mem_cons, List.forall_mem_append] using
        ⟨⟨digits, zeros _⟩, dot, zero, nofun⟩
    · refine ⟨by simp, ?_⟩
      simpa only [List.forall_mem_cons, List.forall_mem_append] using
        ⟨fun c mem => digits c (List.mem_of_mem_take mem), dot,
          fun c mem => digits c (List.mem_of_mem_drop mem)⟩

/-- So are texts with an exponent. -/
theorem scientific_numeric (layout : Layout) {ds : List Char} (numeric : ∀ c ∈ ds, IsNumeric c)
    (e : Int) : layout.scientific ds e ≠ [] ∧ ∀ c ∈ layout.scientific ds e, IsNumeric c := by
  refine ⟨by simp [scientific], ?_⟩
  unfold scientific
  simp only [List.forall_mem_cons, List.forall_mem_append]
  refine ⟨?_, by decide, ?_, fun c mem => isNumeric_of_mem_digits mem⟩
  · split
    · exact nofun
    · exact numeric
    · rw [List.forall_mem_cons] at numeric
      simpa only [List.forall_mem_cons] using ⟨numeric.1, by decide, numeric.2⟩
  · split
    · exact List.forall_mem_singleton.mpr (by decide)
    · split
      · exact List.forall_mem_singleton.mpr (by decide)
      · exact nofun

/-- **Doubles are written in characters of numbers.** -/
theorem write_numeric (layout : Layout) (x : Double) :
    layout.write x ≠ [] ∧ ∀ c ∈ layout.write x, IsNumeric c := by
  unfold write
  simp only
  have digits : ∀ c ∈ digits (Decimal.shortest layout.tie x).digits, IsNumeric c :=
    fun c mem => isNumeric_of_mem_digits mem
  split <;> split
  · exact ⟨List.cons_ne_nil _ _, List.forall_mem_cons.mpr ⟨by decide, (plain_numeric digits _).2⟩⟩
  · exact ⟨List.cons_ne_nil _ _,
      List.forall_mem_cons.mpr ⟨by decide, (layout.scientific_numeric digits _).2⟩⟩
  · exact plain_numeric digits _
  · exact layout.scientific_numeric digits _

end Layout

namespace Value

/-- Integers are written in characters of numbers. -/
theorem int_numeric (n : Int) :
    (int n).chars ≠ [] ∧ ∀ c ∈ (int n).chars, IsNumeric c := by
  have digits : ∀ c ∈ Layout.digits n.natAbs, IsNumeric c :=
    fun c mem => Layout.isNumeric_of_mem_digits mem
  rw [chars]
  refine ⟨by simp [Layout.digits], ?_⟩
  split
  · exact List.forall_mem_cons.mpr ⟨by decide, digits⟩
  · exact digits

/-- **A value starts** neither with a blank nor with a closing bracket. -/
theorem chars_head (v : Value) : ∃ c cs, v.chars = c :: cs ∧ isSpace c = false ∧ c ≠ ']' := by
  have number {cs : List Char} (h : cs ≠ [] ∧ ∀ c ∈ cs, IsNumeric c) :
      ∃ c rest, cs = c :: rest ∧ isSpace c = false ∧ c ≠ ']' := by
    obtain ⟨written, numeric⟩ := h
    cases cs with
    | nil => exact absurd rfl written
    | cons c rest =>
      have first := numeric c List.mem_cons_self
      refine ⟨c, rest, rfl, isSpace_of_isNumeric first, ?_⟩
      rintro rfl
      exact absurd first (by decide)
  cases v with
  | null => exact ⟨_, _, by rw [chars], rfl, by decide⟩
  | bool b => cases b <;> exact ⟨_, _, by rw [chars], rfl, by decide⟩
  | int n => exact number (int_numeric n)
  | float x =>
    rw [chars]
    exact number (numberLayout.write_numeric x)
  | str s => exact ⟨_, _, by rw [chars, quote], rfl, by decide⟩
  | arr vs => exact ⟨_, _, by rw [chars], rfl, by decide⟩
  | obj fs => exact ⟨_, _, by rw [chars], rfl, by decide⟩

/-- So does a list of items. -/
theorem itemChars_head (v : Value) (vs : List Value) :
    ∃ c cs, itemChars (v :: vs) = c :: cs ∧ isSpace c = false ∧ c ≠ ']' := by
  obtain ⟨c, cs, starts, first⟩ := v.chars_head
  cases vs with
  | nil => exact ⟨c, cs, by rw [itemChars, starts], first⟩
  | cons w ws => exact ⟨c, _, by rw [itemChars, starts, List.cons_append], first⟩

/-- Fields start with a quote. -/
theorem fieldChars_head (f : String × Value) (fs : List (String × Value)) :
    ∃ cs, fieldChars (f :: fs) = '"' :: cs := by
  cases fs with
  | nil => exact ⟨_, by rw [fieldChars, quote, List.cons_append]⟩
  | cons g gs => exact ⟨_, by rw [fieldChars, quote, List.cons_append]⟩

end Value

/-! ### What is read where a value was written -/

namespace JsonText

/-- **What is read where something was written**, with so much fuel. -/
structure ReadsWritten (fuel : Nat) : Prop where
  /-- A value is read, but part of a number may be left over. -/
  value : ∀ {depth : Nat} {v : Value} {rest left : List Char} {t : JsonText}, AfterValue rest →
    value fuel depth (v.chars ++ rest) = some (t, left) → Shows v t ∧ Takes left rest
  items : ∀ {depth : Nat} {v : Value} {vs : List Value} {rest left : List Char}
    {ts : List JsonText},
    items fuel depth (Value.itemChars (v :: vs) ++ ']' :: rest) = some (ts, left) →
      ShowsItems (v :: vs) ts ∧ left = rest
  fields : ∀ {depth : Nat} {f : String × Value} {fs : List (String × Value)}
    {rest left : List Char} {gs : List (String × JsonText)},
    fields fuel depth (Value.fieldChars (f :: fs) ++ '\x7d' :: rest) = some (gs, left) →
      ShowsFields (f :: fs) gs ∧ left = rest

section Step

variable {fuel depth : Nat} {rest left : List Char}

/-- Within brackets, items are read where items were written. -/
theorem value_items_eq_some {v : Value} {vs : List Value} {t : JsonText}
    (h : JsonText.value (fuel + 1) depth ('[' :: (Value.itemChars (v :: vs) ++ ']' :: rest)) =
      some (t, left)) :
    ∃ deeper ts, JsonText.items fuel deeper (Value.itemChars (v :: vs) ++ ']' :: rest) =
      some (ts, left) ∧ t = .arr ts := by
  obtain ⟨c, cs, starts, visible, other⟩ := Value.itemChars_head v vs
  rw [JsonText.value, skip_cons rfl] at h
  obtain ⟨-, h⟩ := Option.ite_none_left_eq_some.mp h
  rw [starts, List.cons_append, skip_cons visible] at h
  split at h
  · rename_i same
    exact absurd (List.cons.inj same).1 other
  · rw [← List.cons_append, ← starts] at h
    obtain ⟨⟨ts, after⟩, read, same⟩ := Option.map_eq_some_iff.mp h
    cases same
    exact ⟨_, ts, read, rfl⟩

/-- Within braces, fields are read where fields were written. -/
theorem value_fields_eq_some {f : String × Value} {fs : List (String × Value)} {t : JsonText}
    (h : JsonText.value (fuel + 1) depth
      ('\x7b' :: (Value.fieldChars (f :: fs) ++ '\x7d' :: rest)) = some (t, left)) :
    ∃ deeper gs, JsonText.fields fuel deeper (Value.fieldChars (f :: fs) ++ '\x7d' :: rest) =
      some (gs, left) ∧ t = .obj gs := by
  obtain ⟨cs, starts⟩ := Value.fieldChars_head f fs
  rw [JsonText.value, skip_cons rfl] at h
  obtain ⟨-, h⟩ := Option.ite_none_left_eq_some.mp h
  rw [starts, List.cons_append, skip_cons rfl] at h
  split at h
  · rename_i same
    cases same
  · rw [← List.cons_append, ← starts] at h
    obtain ⟨⟨gs, after⟩, read, same⟩ := Option.map_eq_some_iff.mp h
    cases same
    exact ⟨_, gs, read, rfl⟩

theorem ReadsWritten.value_succ (ih : ReadsWritten fuel) {v : Value} {t : JsonText}
    (ends : AfterValue rest)
    (h : JsonText.value (fuel + 1) depth (v.chars ++ rest) = some (t, left)) :
    Shows v t ∧ Takes left rest := by
  cases v with
  | null =>
    rw [Value.chars] at h
    obtain ⟨rfl, rfl⟩ : JsonText.null = t ∧ rest = left := by
      simpa [JsonText.value, skip, isSpace, word] using h
    exact ⟨.null, .refl _⟩
  | bool b =>
    obtain ⟨rfl, rfl⟩ : JsonText.bool b = t ∧ rest = left := by
      cases b <;> simpa [Value.chars, JsonText.value, skip, isSpace, word] using h
    exact ⟨.bool b, .refl _⟩
  | int n =>
    obtain ⟨written, numeric⟩ := Value.int_numeric n
    obtain ⟨tree, taken⟩ := numeral_of_value written numeric ends h
    exact ⟨.int n tree, taken⟩
  | float x =>
    rw [Value.chars] at h
    obtain ⟨written, numeric⟩ := Value.numberLayout.write_numeric x
    obtain ⟨tree, taken⟩ := numeral_of_value written numeric ends h
    exact ⟨.float x tree, taken⟩
  | str s =>
    rw [Value.chars, Value.quote, List.cons_append, List.append_assoc, JsonText.value,
      skip_cons rfl] at h
    obtain ⟨read, body, same⟩ := Option.map_eq_some_iff.mp h
    obtain rfl := stringBody_quote body
    cases same
    refine ⟨?_, .refl _⟩
    show Shows (.str s) (.str (String.ofList s.toList))
    rw [String.ofList_toList]
    exact .str s
  | arr vs =>
    rw [Value.chars, List.cons_append, List.append_assoc] at h
    cases vs with
    | nil =>
      rw [JsonText.value, skip_cons rfl] at h
      obtain ⟨-, h⟩ := Option.ite_none_left_eq_some.mp h
      cases h
      exact ⟨.arr .nil, .refl _⟩
    | cons v vs =>
      obtain ⟨deeper, ts, read, rfl⟩ := value_items_eq_some h
      obtain ⟨shows, rfl⟩ := ih.items read
      exact ⟨.arr shows, .refl _⟩
  | obj fs =>
    rw [Value.chars, List.cons_append, List.append_assoc] at h
    cases fs with
    | nil =>
      rw [JsonText.value, skip_cons rfl] at h
      obtain ⟨-, h⟩ := Option.ite_none_left_eq_some.mp h
      cases h
      exact ⟨.obj .nil, .refl _⟩
    | cons f fs =>
      obtain ⟨deeper, gs, read, rfl⟩ := value_fields_eq_some h
      obtain ⟨shows, rfl⟩ := ih.fields read
      exact ⟨.obj shows, .refl _⟩

/-- One item is read, and then the next ones, or the closing bracket. -/
theorem items_eq_some {cs : List Char} {ts : List JsonText}
    (h : JsonText.items (fuel + 1) depth cs = some (ts, left)) :
    ∃ t after, JsonText.value fuel depth cs = some (t, after) ∧
      ((∃ later ts', skip after = ',' :: later ∧
          JsonText.items fuel depth later = some (ts', left) ∧ ts = t :: ts') ∨
        skip after = ']' :: left ∧ ts = [t]) := by
  rw [JsonText.items] at h
  split at h
  · cases h
  · rename_i t after read
    refine ⟨t, after, read, ?_⟩
    split at h
    · rename_i later next
      obtain ⟨⟨ts', _⟩, more, same⟩ := Option.map_eq_some_iff.mp h
      cases same
      exact .inl ⟨later, ts', next, more, rfl⟩
    · rename_i next
      cases h
      exact .inr ⟨next, rfl⟩
    · cases h

/-- A key that was written is read, then one value, and then the next fields, or the closing
brace. -/
theorem fields_quote_eq_some {key : String} {cs : List Char} {gs : List (String × JsonText)}
    (h : JsonText.fields (fuel + 1) depth (Value.quote key ++ ':' :: cs) = some (gs, left)) :
    ∃ t after, JsonText.value fuel depth cs = some (t, after) ∧
      ((∃ later gs', skip after = ',' :: later ∧
          JsonText.fields fuel depth later = some (gs', left) ∧ gs = (key, t) :: gs') ∨
        skip after = '\x7d' :: left ∧ gs = [(key, t)]) := by
  rw [Value.quote, List.cons_append, List.append_assoc, JsonText.fields, skip_cons rfl] at h
  simp only at h
  split at h
  · rename_i k colon body
    obtain ⟨rfl, rfl⟩ : key.toList = k ∧ ':' :: cs = colon := by
      simpa using (stringBody_quote body).symm
    rw [skip_cons rfl, String.ofList_toList] at h
    simp only at h
    split at h
    · cases h
    · rename_i t after read
      refine ⟨t, after, read, ?_⟩
      split at h
      · rename_i later next
        obtain ⟨⟨gs', _⟩, more, same⟩ := Option.map_eq_some_iff.mp h
        cases same
        exact .inl ⟨later, gs', next, more, rfl⟩
      · rename_i next
        cases h
        exact .inr ⟨next, rfl⟩
      · cases h
  · cases h

theorem ReadsWritten.items_succ (ih : ReadsWritten fuel) {v : Value} {vs : List Value}
    {ts : List JsonText}
    (h : JsonText.items (fuel + 1) depth (Value.itemChars (v :: vs) ++ ']' :: rest) =
      some (ts, left)) : ShowsItems (v :: vs) ts ∧ left = rest := by
  obtain ⟨t, after, read, goes⟩ := items_eq_some h
  cases vs with
  | nil =>
    have ends : AfterValue (']' :: rest) := afterValue_cons rest (by decide)
    obtain ⟨shows, taken⟩ := ih.value ends read
    rcases goes with ⟨later, ts', next, -, -⟩ | ⟨next, rfl⟩
    · cases taken.eq_of_skip ends next (by decide)
    · cases taken.eq_of_skip ends next (by decide)
      exact ⟨.cons shows .nil, rfl⟩
  | cons w ws =>
    rw [Value.itemChars, List.append_assoc, List.cons_append] at read
    have ends : AfterValue (',' :: (Value.itemChars (w :: ws) ++ ']' :: rest)) :=
      afterValue_cons _ (by decide)
    obtain ⟨shows, taken⟩ := ih.value ends read
    rcases goes with ⟨later, ts', next, more, rfl⟩ | ⟨next, -⟩
    · cases taken.eq_of_skip ends next (by decide)
      obtain ⟨others, rfl⟩ := ih.items more
      exact ⟨.cons shows others, rfl⟩
    · cases taken.eq_of_skip ends next (by decide)

theorem ReadsWritten.fields_succ (ih : ReadsWritten fuel) {f : String × Value}
    {fs : List (String × Value)} {gs : List (String × JsonText)}
    (h : JsonText.fields (fuel + 1) depth (Value.fieldChars (f :: fs) ++ '\x7d' :: rest) =
      some (gs, left)) : ShowsFields (f :: fs) gs ∧ left = rest := by
  obtain ⟨key, v⟩ := f
  cases fs with
  | nil =>
    rw [Value.fieldChars, List.append_assoc, List.cons_append] at h
    obtain ⟨t, after, read, goes⟩ := fields_quote_eq_some h
    have ends : AfterValue ('\x7d' :: rest) := afterValue_cons rest (by decide)
    obtain ⟨shows, taken⟩ := ih.value ends read
    rcases goes with ⟨later, gs', next, -, -⟩ | ⟨next, rfl⟩
    · cases taken.eq_of_skip ends next (by decide)
    · cases taken.eq_of_skip ends next (by decide)
      exact ⟨.cons key shows .nil, rfl⟩
  | cons g gs =>
    rw [Value.fieldChars, List.append_assoc, List.cons_append, List.append_assoc,
      List.cons_append] at h
    obtain ⟨t, after, read, goes⟩ := fields_quote_eq_some h
    have ends : AfterValue (',' :: (Value.fieldChars (g :: gs) ++ '\x7d' :: rest)) :=
      afterValue_cons _ (by decide)
    obtain ⟨shows, taken⟩ := ih.value ends read
    rcases goes with ⟨later, gs', next, more, rfl⟩ | ⟨next, -⟩
    · cases taken.eq_of_skip ends next (by decide)
      obtain ⟨others, rfl⟩ := ih.fields more
      exact ⟨.cons key shows others, rfl⟩
    · cases taken.eq_of_skip ends next (by decide)

end Step

theorem readsWritten (fuel : Nat) : ReadsWritten fuel := by
  induction fuel with
  | zero => exact ⟨fun _ => nofun, nofun, nofun⟩
  | succ fuel ih => exact ⟨ih.value_succ, ih.items_succ, ih.fields_succ⟩

/-- **The text of a value is read as a tree that shows it**, if it is read. -/
theorem shows_of_parse {v : Value} {t : JsonText} (h : parse v.compact = some t) : Shows v t := by
  unfold parse at h
  simp only [Value.compact, String.toList_ofList] at h
  split at h
  · rename_i t' left read
    obtain ⟨-, same⟩ := Option.ite_none_right_eq_some.mp h
    cases same
    rw [← List.append_nil v.chars] at read
    have ends : AfterValue [] := by rintro _ ⟨⟩
    exact ((readsWritten _).value ends read).1
  · cases h

end JsonText

end StepFlow
