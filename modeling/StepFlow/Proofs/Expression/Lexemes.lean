import StepFlow.Proofs.Expression.Characters

/-!
# How the lexer takes its tokens

A token is read with the text behind it in sight: a numeral goes on with a fraction, an operator
with an equals sign, a word with any character of words.  How little of that text matters is the
same for all kinds of tokens (`IsLocal`, `isLocal_next`).  A token is read alike if the text behind
it is cut off, and it is read alike if a blank is put there.  Of the operators this holds because
the longest one that is there is read, and none of them has a blank (`operator_eq`).

The lexer passes over characters that it has read already.  `Cut` is the same walk in steps of
whole tokens, and the lexer succeeds with some lexemes just where a text is cut into them
(`lexemesFrom_eq_ok_iff`).
-/

namespace StepFlow.Expression

open Unicode

/-! ### Runs of characters -/

section Runs

variable {p : Char → Bool} {cs more : List Char}

/-- A run that is over within a text does not look at what comes after. -/
theorem takeWhile_append_of_le (within : ((cs ++ more).takeWhile p).length ≤ cs.length) :
    (cs ++ more).takeWhile p = cs.takeWhile p := by
  rw [List.takeWhile_append] at within ⊢
  split at within
  · rename_i all
    rw [List.length_append] at within
    have none : more.takeWhile p = [] := List.length_eq_zero_iff.mp (by omega)
    rw [if_pos all, none, List.append_nil, (List.takeWhile_prefix p).eq_of_length all]
  · rename_i some
    rw [if_neg some]

/-- A run is over where a character is not of its kind. -/
theorem takeWhile_append_of_head (stops : ∀ c ∈ more.head?, p c = false) :
    (cs ++ more).takeWhile p = cs.takeWhile p := by
  have none : more.takeWhile p = [] := by
    cases more with
    | nil => rfl
    | cons c more =>
      exact List.takeWhile_cons_of_neg (by rw [stops c rfl]; exact Bool.false_ne_true)
  rw [List.takeWhile_append, none, List.append_nil]
  split
  · rename_i all
    exact ((List.takeWhile_prefix p).eq_of_length all).symm
  · rfl

/-- What is left after a run. -/
theorem dropWhile_append_of_takeWhile (same : (cs ++ more).takeWhile p = cs.takeWhile p) :
    (cs ++ more).dropWhile p = cs.dropWhile p ++ more := by
  rw [← List.append_right_inj (cs.takeWhile p)]
  rw [← List.append_assoc, List.takeWhile_append_dropWhile, ← same, List.takeWhile_append_dropWhile]

end Runs

/-! ### Reading one token -/

/-- **Has the text ended, or does a blank come next?** -/
def AtBlank (more : List Char) : Prop := ∀ c ∈ more.head?, isBlank c = true

/-- **Reading a token is local**: the token takes one character at least, the first one, and no
more than there are; it is read alike if what follows it is cut off, wherever this is done; and it
is read alike if the text ends after it and goes on with a blank instead. -/
structure IsLocal (read : List Char → Except Complaint (Token × Nat)) : Prop where
  width_pos : ∀ {rest t w}, read rest = .ok (t, w) → 0 < w
  width_le : ∀ {rest t w}, read rest = .ok (t, w) → w ≤ rest.length + 1
  cut : ∀ {rest more t w}, read (rest ++ more) = .ok (t, w) → w ≤ rest.length + 1 →
    read rest = .ok (t, w)
  extend : ∀ {rest more t w}, read rest = .ok (t, w) → AtBlank more →
    read (rest ++ more) = .ok (t, w)

/-! ### Numerals -/

/-- The digits of the fraction that follows the whole part of a numeral. -/
def fraction (afterDot : Bool) : List Char → List Char
  | '.' :: rest => if afterDot then [] else rest.takeWhile Char.isDigit
  | _ => []

/-- The width of a numeral with these digits. -/
def numeralWidth (whole part : List Char) : Nat :=
  if part.isEmpty then whole.length else whole.length + 1 + part.length

/-- **A numeral is its digits before and after the point.** -/
theorem numeral_eq (afterDot : Bool) (cs : List Char) :
    numeral afterDot cs =
      (.number (Double.ofDecimal false
          (digitsValue (cs.takeWhile Char.isDigit ++
            fraction afterDot (cs.dropWhile Char.isDigit)))
          (-((fraction afterDot (cs.dropWhile Char.isDigit)).length : Int))),
        numeralWidth (cs.takeWhile Char.isDigit)
          (fraction afterDot (cs.dropWhile Char.isDigit))) :=
  rfl

theorem length_le_numeralWidth (whole part : List Char) :
    whole.length ≤ numeralWidth whole part := by
  unfold numeralWidth
  split <;> omega

section Fraction

variable {afterDot : Bool} {whole ds more : List Char}

/-- Only a point begins a fraction. -/
theorem fraction_cons_of_ne {d : Char} (other : d ≠ '.') (ds : List Char) :
    fraction afterDot (d :: ds) = [] := by
  unfold fraction
  split
  · rename_i same
    exact absurd (List.cons.inj same).1 other
  · rfl

/-- The digits of a fraction come after a point. -/
theorem numeralWidth_fraction_le (afterDot : Bool) (whole ds : List Char) :
    numeralWidth whole (fraction afterDot ds) ≤ whole.length + ds.length := by
  have none : numeralWidth whole [] = whole.length := rfl
  rcases ds with _ | ⟨d, ds⟩
  · exact Nat.le_refl _
  · by_cases point : d = '.'
    · subst point
      cases afterDot with
      | true => exact none ▸ Nat.le_add_right _ _
      | false =>
        have digits := (List.takeWhile_prefix Char.isDigit (l := ds)).length_le
        simp only [fraction, numeralWidth, Bool.false_eq_true, if_false, List.length_cons]
        split <;> omega
    · rw [fraction_cons_of_ne point, none]
      exact Nat.le_add_right _ _

/-- A fraction that is over within a text does not look at what comes after. -/
theorem fraction_append_of_le
    (within : numeralWidth whole (fraction afterDot (ds ++ more)) ≤ whole.length + ds.length) :
    fraction afterDot (ds ++ more) = fraction afterDot ds := by
  have short (some : fraction afterDot (ds ++ more) ≠ []) :
      (fraction afterDot (ds ++ more)).length + 1 ≤ ds.length := by
    rw [numeralWidth, if_neg (by simpa using some)] at within
    omega
  rcases ds with _ | ⟨d, ds⟩
  · by_cases none : fraction afterDot ([] ++ more) = []
    · exact none
    · exact absurd (short none) (Nat.not_succ_le_zero _)
  · rw [List.cons_append] at short ⊢
    by_cases point : d = '.'
    · subst point
      cases afterDot with
      | true => rfl
      | false =>
        refine takeWhile_append_of_le ?_
        by_cases none : (ds ++ more).takeWhile Char.isDigit = []
        · rw [none]
          exact Nat.zero_le _
        · exact Nat.le_of_succ_le_succ (short none)
    · rw [fraction_cons_of_ne point, fraction_cons_of_ne point]

/-- A fraction is over where a blank comes next. -/
theorem fraction_append_of_atBlank (blank : AtBlank more) :
    fraction afterDot (ds ++ more) = fraction afterDot ds := by
  rcases ds with _ | ⟨d, ds⟩
  · rcases more with _ | ⟨c, more⟩
    · rfl
    · refine fraction_cons_of_ne ?_ more
      rintro rfl
      exact absurd (blank '.' rfl) (by decide)
  · rw [List.cons_append]
    by_cases point : d = '.'
    · subst point
      cases afterDot with
      | true => rfl
      | false => exact takeWhile_append_of_head fun c next => isDigit_of_isBlank (blank c next)
    · rw [fraction_cons_of_ne point, fraction_cons_of_ne point]

end Fraction

section Numeral

variable {afterDot : Bool} {cs more : List Char}

/-- No numeral is wider than the text. -/
theorem snd_numeral_le (afterDot : Bool) (cs : List Char) :
    (numeral afterDot cs).2 ≤ cs.length := by
  calc (numeral afterDot cs).2
    _ ≤ (cs.takeWhile Char.isDigit).length + (cs.dropWhile Char.isDigit).length :=
      numeralWidth_fraction_le _ _ _
    _ = cs.length := by rw [← List.length_append, List.takeWhile_append_dropWhile]

/-- A numeral that is over within a text does not look at what comes after. -/
theorem numeral_append_of_le (within : (numeral afterDot (cs ++ more)).2 ≤ cs.length) :
    numeral afterDot (cs ++ more) = numeral afterDot cs := by
  rw [numeral_eq] at within
  have whole : (cs ++ more).takeWhile Char.isDigit = cs.takeWhile Char.isDigit :=
    takeWhile_append_of_le (Nat.le_trans (length_le_numeralWidth _ _) within)
  have rest := dropWhile_append_of_takeWhile whole
  rw [whole, rest, ← List.takeWhile_append_dropWhile (p := Char.isDigit) (l := cs),
    List.length_append, List.takeWhile_append_dropWhile] at within
  rw [numeral_eq, numeral_eq, whole, rest, fraction_append_of_le within]

/-- A numeral is over where a blank comes next. -/
theorem numeral_append_of_atBlank (blank : AtBlank more) :
    numeral afterDot (cs ++ more) = numeral afterDot cs := by
  have whole : (cs ++ more).takeWhile Char.isDigit = cs.takeWhile Char.isDigit :=
    takeWhile_append_of_head fun c next => isDigit_of_isBlank (blank c next)
  rw [numeral_eq, numeral_eq, dropWhile_append_of_takeWhile whole, whole,
    fraction_append_of_atBlank blank]

end Numeral

theorem isLocal_numeral (afterDot : Bool) {c : Char} (digit : c.isDigit = true) :
    IsLocal fun rest => .ok (numeral afterDot (c :: rest)) where
  width_pos {rest t w} read := by
    have first : 0 < ((c :: rest).takeWhile Char.isDigit).length := by
      rw [List.takeWhile_cons_of_pos digit]
      exact Nat.succ_pos _
    have wide : 0 < (numeral afterDot (c :: rest)).2 :=
      Nat.lt_of_lt_of_le first (length_le_numeralWidth _ _)
    rwa [Except.ok.inj read] at wide
  width_le {rest t w} read := by
    have narrow := snd_numeral_le afterDot (c :: rest)
    rwa [Except.ok.inj read] at narrow
  cut {rest more t w} read within := by
    have width : (numeral afterDot (c :: rest ++ more)).2 = w :=
      congrArg Prod.snd (Except.ok.inj read)
    rw [← read]
    exact congrArg Except.ok (numeral_append_of_le (width ▸ within)).symm
  extend {rest more t w} read blank := by
    have same : numeral afterDot (c :: rest ++ more) = numeral afterDot (c :: rest) :=
      numeral_append_of_atBlank blank
    rw [← read]
    exact congrArg Except.ok same

/-! ### Words -/

theorem isLocal_word {c : Char} (start : isWordStart c = true) :
    IsLocal fun rest => .ok (.word (String.ofList ((c :: rest).takeWhile isWordChar)),
      ((c :: rest).takeWhile isWordChar).length) where
  width_pos {rest t w} read := by
    cases Except.ok.inj read
    rw [List.takeWhile_cons_of_pos (isWordChar_of_isWordStart start)]
    exact Nat.succ_pos _
  width_le {rest t w} read := by
    cases Except.ok.inj read
    exact (List.takeWhile_prefix isWordChar).length_le
  cut {rest more t w} read within := by
    cases Except.ok.inj read
    have word : (c :: rest ++ more).takeWhile isWordChar = (c :: rest).takeWhile isWordChar :=
      takeWhile_append_of_le within
    rw [← List.cons_append, word]
  extend {rest more t w} read blank := by
    cases Except.ok.inj read
    have word : (c :: rest ++ more).takeWhile isWordChar = (c :: rest).takeWhile isWordChar :=
      takeWhile_append_of_head fun d next => isWordChar_of_isBlank (blank d next)
    rw [← List.cons_append, word]

/-! ### Texts -/

section TextBody

variable {quote c : Char}

/-- A quote that is no backslash closes a text. -/
theorem textBody_quote (other : quote ≠ '\\') (rest : List Char) :
    textBody quote (quote :: rest) = .ok ([], 1) := by
  rw [textBody.eq_4 quote quote rest (fun same _ => other same) (fun _ _ same _ => other same),
    if_pos rfl]

/-- Any other character that is no backslash stands for itself. -/
theorem textBody_cons (other : c ≠ '\\') (within : c ≠ quote) {rest content : List Char} {n : Nat}
    (read : textBody quote rest = .ok (content, n)) :
    textBody quote (c :: rest) = .ok (c :: content, n + 1) := by
  rw [textBody.eq_4 quote c rest (fun same _ => other same) (fun _ _ same _ => other same),
    if_neg within, read]
  rfl

/-- A backslash is taken with what comes next. -/
theorem textBody_backslash {rest content : List Char} {n : Nat}
    (read : textBody quote rest = .ok (content, n)) :
    textBody quote ('\\' :: c :: rest) = .ok (unescape c ++ content, n + 2) := by
  rw [textBody, read]
  rfl

/-- A character that is no backslash, whether it is the last one or not. -/
theorem ne_backslash {rest : List Char} (last : c = '\\' → rest = [] → False)
    (before : ∀ d ds, c = '\\' → rest = d :: ds → False) : c ≠ '\\' := by
  intro same
  cases rest with
  | nil => exact last same rfl
  | cons d ds => exact before d ds same rfl

/-- **A text is over with its closing quote**: it takes a part of what follows its opening quote,
and does not look at what comes after. -/
theorem textBody_takes {cs content : List Char} {n : Nat}
    (read : textBody quote cs = .ok (content, n)) :
    ∃ taken rest, cs = taken ++ rest ∧ n = taken.length ∧
      ∀ more, textBody quote (taken ++ more) = .ok (content, n) := by
  fun_induction textBody quote cs generalizing content n with
  | case1 => cases read
  | case2 => cases read
  | case3 c rest ih =>
    cases inner : textBody quote rest with
    | error e =>
      rw [inner] at read
      cases read
    | ok r =>
      rw [inner] at read
      cases read
      obtain ⟨taken, left, rfl, width, alike⟩ := ih inner
      exact ⟨'\\' :: c :: taken, left, rfl, by rw [width]; rfl,
        fun more => textBody_backslash (alike more)⟩
  | case4 rest none some =>
    cases read
    have other := ne_backslash none some
    exact ⟨[quote], rest, rfl, rfl, fun more => textBody_quote other more⟩
  | case5 c rest none some within ih =>
    have other := ne_backslash none some
    cases inner : textBody quote rest with
    | error e =>
      rw [inner] at read
      cases read
    | ok r =>
      rw [inner] at read
      cases read
      obtain ⟨taken, left, rfl, width, alike⟩ := ih inner
      exact ⟨c :: taken, left, rfl, by rw [width]; rfl,
        fun more => textBody_cons other within (alike more)⟩

end TextBody

theorem isLocal_text (quote : Char) :
    IsLocal fun rest => do
      let (content, n) ← textBody quote rest
      return (.str (String.ofList content), n + 1) := by
  -- the body of the text, from the token and its width
  have body {rest : List Char} {t : Token} {w : Nat}
      (read : (do
        let (content, n) ← textBody quote rest
        return (Token.str (String.ofList content), n + 1)) = Except.ok (t, w)) :
      ∃ content n, textBody quote rest = .ok (content, n) ∧ t = .str (String.ofList content) ∧
        w = n + 1 := by
    cases inner : textBody quote rest with
    | error e =>
      rw [inner] at read
      cases read
    | ok r =>
      rw [inner] at read
      cases read
      exact ⟨_, _, rfl, rfl, rfl⟩
  have whole {rest content : List Char} {n : Nat} (inner : textBody quote rest = .ok (content, n)) :
      (do
        let (content, n) ← textBody quote rest
        return (Token.str (String.ofList content), n + 1)) =
          Except.ok (.str (String.ofList content), n + 1) := by
    rw [inner]
    rfl
  constructor
  · intro rest t w read
    obtain ⟨content, n, -, -, rfl⟩ := body read
    exact Nat.succ_pos n
  · intro rest t w read
    obtain ⟨content, n, inner, -, rfl⟩ := body read
    obtain ⟨taken, left, rfl, rfl, -⟩ := textBody_takes inner
    rw [List.length_append]
    omega
  · intro rest more t w read within
    obtain ⟨content, n, inner, rfl, rfl⟩ := body read
    obtain ⟨taken, left, split, rfl, alike⟩ := textBody_takes inner
    -- what the text takes is the beginning of `rest`
    have start : taken <+: rest :=
      List.prefix_of_prefix_length_le ⟨left, split.symm⟩ (List.prefix_append rest more) (by omega)
    obtain ⟨after, rfl⟩ := start
    exact whole (alike after)
  · intro rest more t w read _
    obtain ⟨content, n, inner, rfl, rfl⟩ := body read
    obtain ⟨taken, left, rfl, rfl, alike⟩ := textBody_takes inner
    refine whole ?_
    rw [List.append_assoc]
    exact alike (left ++ more)

/-! ### Operators -/

/-- **The operators and brackets as they are written**, a longer one before those it begins with. -/
def spellings : List (List Char × Token) :=
  [(['=', '=', '='], .equal), (['=', '='], .equal), (['=', '~'], .tilde),
    (['!', '=', '='], .notEqual), (['!', '='], .notEqual), (['!'], .bang),
    (['<', '='], .lessEqual), (['<'], .less), (['>', '='], .greaterEqual), (['>'], .greater),
    (['&', '&'], .andAnd), (['|', '|'], .orOr), (['+'], .plus), (['-'], .minus), (['*'], .star),
    (['/'], .slash), (['%'], .percent), (['.'], .dot), (['('], .leftParen), ([')'], .rightParen),
    (['['], .leftBracket), ([']'], .rightBracket)]

/-- The longest operator at the head of a text. -/
def sign? (cs : List Char) : Option (List Char × Token) :=
  spellings.find? fun e => e.1.isPrefixOf cs

/-- **The longest operator that is there is read.** -/
theorem operator_eq (c : Char) (rest : List Char) :
    operator c rest = match sign? (c :: rest) with
      | some e => .ok (e.2, e.1.length)
      | none => .error (.unexpectedCharacter c) := by
  have apart {a d : Char} (other : d ≠ a) (as ds : List Char) :
      (a :: as).isPrefixOf (d :: ds) = false := by
    rw [List.isPrefixOf, beq_eq_false_iff_ne.mpr (Ne.symm other), Bool.false_and]
  unfold sign? spellings
  fun_cases operator c rest
  -- an operator that no equals sign makes longer
  case case2 after short | case5 after short =>
    rcases after with _ | ⟨d, after⟩
    · rfl
    · have other : d ≠ '=' := fun same => short after (same ▸ rfl)
      simp [apart other]
  case case6 short | case8 short | case10 short =>
    rcases rest with _ | ⟨d, rest⟩
    · rfl
    · have other : d ≠ '=' := fun same => short rest (same ▸ rfl)
      simp [apart other]
  -- no operator: three characters begin one only together with the next
  case case23 bang less greater plus minus star slash percent dot opens closes opens' closes'
      _ equals tilde _ _ _ _ ands ors =>
    by_cases equal : c = '='
    · subst equal
      rcases rest with _ | ⟨d, rest⟩
      · rfl
      · have other : d ≠ '=' := fun same => equals rest rfl (same ▸ rfl)
        have other' : d ≠ '~' := fun same => tilde rest rfl (same ▸ rfl)
        simp [apart other, apart other']
    by_cases and : c = '&'
    · subst and
      rcases rest with _ | ⟨d, rest⟩
      · rfl
      · have other : d ≠ '&' := fun same => ands rest rfl (same ▸ rfl)
        simp [apart other]
    by_cases or : c = '|'
    · subst or
      rcases rest with _ | ⟨d, rest⟩
      · rfl
      · have other : d ≠ '|' := fun same => ors rest rfl (same ▸ rfl)
        simp [apart other]
    · simp [apart equal, apart and, apart or, apart bang, apart less, apart greater, apart plus,
        apart minus, apart star, apart slash, apart percent, apart dot, apart opens, apart closes,
        apart opens', apart closes']
  all_goals simp

/-- No operator has a blank. -/
theorem isBlank_of_mem_spellings : ∀ e ∈ spellings, ∀ c ∈ e.1, isBlank c = false := by
  have none : ∀ e ∈ spellings, e.1.all (fun c => isBlank c = false) = true := by decide
  exact fun e listed c mem => of_decide_eq_true (List.all_eq_true.mp (none e listed) c mem)

theorem length_pos_of_mem_spellings : ∀ e ∈ spellings, 0 < e.1.length := by
  decide

section Sign

variable {cs more : List Char} {e : List Char × Token}

/-- An operator that is over within a text does not look at what comes after. -/
theorem sign?_of_append (found : sign? (cs ++ more) = some e) (within : e.1.length ≤ cs.length) :
    sign? cs = some e := by
  unfold sign? at found ⊢
  rw [List.find?_eq_some_iff_append] at found ⊢
  obtain ⟨here, longer, shorter, split, away⟩ := found
  rw [List.isPrefixOf_iff_prefix] at here
  refine ⟨?_, longer, shorter, split, fun other listed => ?_⟩
  · rw [List.isPrefixOf_iff_prefix]
    exact List.prefix_of_prefix_length_le here (List.prefix_append cs more) within
  · have absent := away other listed
    simp only [Bool.not_eq_true', Bool.eq_false_iff, ne_eq, List.isPrefixOf_iff_prefix] at absent ⊢
    exact fun present => absent (present.trans (List.prefix_append cs more))

/-- An operator is over where a blank comes next. -/
theorem sign?_append (found : sign? cs = some e) (blank : AtBlank more) :
    sign? (cs ++ more) = some e := by
  unfold sign? at found ⊢
  rw [List.find?_eq_some_iff_append] at found ⊢
  obtain ⟨here, longer, shorter, split, away⟩ := found
  rw [List.isPrefixOf_iff_prefix] at here
  refine ⟨?_, longer, shorter, split, fun other listed => ?_⟩
  · rw [List.isPrefixOf_iff_prefix]
    exact here.trans (List.prefix_append cs more)
  · have absent := away other listed
    simp only [Bool.not_eq_true', Bool.eq_false_iff, ne_eq, List.isPrefixOf_iff_prefix] at absent ⊢
    rintro ⟨left, reaches⟩
    rcases List.append_eq_append_iff.mp reaches with ⟨after, whole, -⟩ | ⟨after, spelt, whole⟩
    · exact absent ⟨after, whole.symm⟩
    · rcases after with _ | ⟨c, after⟩
      · exact absent ⟨[], by rw [spelt, List.append_nil, List.append_nil]⟩
      · -- the operator would go on over the blank
        have one : other ∈ spellings := split ▸ List.mem_append_left _ listed
        have mem : c ∈ other.1 := spelt ▸ List.mem_append_right cs List.mem_cons_self
        have none := isBlank_of_mem_spellings other one c mem
        rw [blank c (whole ▸ rfl)] at none
        cases none

end Sign

theorem isLocal_operator (c : Char) : IsLocal (operator c) := by
  -- the operator, from the token and its width
  have sign {rest : List Char} {t : Token} {w : Nat} (read : operator c rest = .ok (t, w)) :
      ∃ text, sign? (c :: rest) = some (text, t) ∧ w = text.length := by
    rw [operator_eq] at read
    split at read
    · rename_i e found
      cases read
      exact ⟨e.1, found, rfl⟩
    · cases read
  have whole {rest text : List Char} {t : Token} (found : sign? (c :: rest) = some (text, t)) :
      operator c rest = .ok (t, text.length) := by
    rw [operator_eq, found]
  have listed {rest text : List Char} {t : Token} (found : sign? (c :: rest) = some (text, t)) :
      (text, t) ∈ spellings ∧ text <+: c :: rest :=
    ⟨List.mem_of_find?_eq_some found,
      List.isPrefixOf_iff_prefix.mp (List.find?_eq_some_iff_append.mp found).1⟩
  constructor
  · intro rest t w read
    obtain ⟨text, found, rfl⟩ := sign read
    exact length_pos_of_mem_spellings _ (listed found).1
  · intro rest t w read
    obtain ⟨text, found, rfl⟩ := sign read
    exact (listed found).2.length_le
  · intro rest more t w read within
    obtain ⟨text, found, rfl⟩ := sign read
    rw [← List.cons_append] at found
    exact whole (sign?_of_append found within)
  · intro rest more t w read blank
    obtain ⟨text, found, rfl⟩ := sign read
    have longer := sign?_append found blank
    exact whole longer

/-! ### Any token -/

/-- **Every token is read locally.** -/
theorem isLocal_next (afterDot : Bool) (c : Char) : IsLocal (next afterDot c) := by
  by_cases digit : c.isDigit = true
  · have same : next afterDot c = fun rest => .ok (numeral afterDot (c :: rest)) := by
      funext rest
      rw [next, if_pos digit]
    exact same ▸ isLocal_numeral afterDot digit
  by_cases start : isWordStart c = true
  · have same : next afterDot c = fun rest =>
        .ok (.word (String.ofList ((c :: rest).takeWhile isWordChar)),
          ((c :: rest).takeWhile isWordChar).length) := by
      funext rest
      rw [next, if_neg digit, if_pos start]
    exact same ▸ isLocal_word start
  by_cases quote : c = '"' ∨ c = '\''
  · have same : next afterDot c = fun rest => do
        let (content, n) ← textBody c rest
        return (.str (String.ofList content), n + 1) := by
      funext rest
      rw [next, if_neg digit, if_neg start, if_pos quote]
    exact same ▸ isLocal_text c
  · have same : next afterDot c = operator c := by
      funext rest
      rw [next, if_neg digit, if_neg start, if_neg quote]
    exact same ▸ isLocal_operator c

/-- A token is the beginning of the text. -/
theorem exists_of_next {afterDot : Bool} {c : Char} {rest : List Char} {t : Token} {w : Nat}
    (read : next afterDot c rest = .ok (t, w)) :
    ∃ taken after, rest = taken ++ after ∧ w = taken.length + 1 := by
  have pos := (isLocal_next afterDot c).width_pos read
  have le := (isLocal_next afterDot c).width_le read
  refine ⟨rest.take (w - 1), rest.drop (w - 1), (List.take_append_drop _ _).symm, ?_⟩
  rw [List.length_take]
  omega

/-! ### Token by token -/

/-- How many bytes characters take. -/
def bytes : List Char → Nat
  | [] => 0
  | c :: cs => c.utf8Size + bytes cs

theorem bytes_append (cs ds : List Char) : bytes (cs ++ ds) = bytes cs + bytes ds := by
  induction cs with
  | nil => exact (Nat.zero_add _).symm
  | cons c cs ih => rw [List.cons_append, bytes, ih, bytes, Nat.add_assoc]

theorem utf8ByteSize_ofList (cs : List Char) : (String.ofList cs).utf8ByteSize = bytes cs := by
  induction cs with
  | nil => rfl
  | cons c cs ih =>
    rw [String.ofList_cons, String.utf8ByteSize_append, String.utf8ByteSize_singleton, ih,
      bytes]

/-- Characters are passed over. -/
theorem lexemesFrom_skip (taken rest : List Char) (position : Nat) (afterDot : Bool) :
    lexemesFrom taken.length position afterDot (taken ++ rest) =
      lexemesFrom 0 (position + bytes taken) afterDot rest := by
  induction taken generalizing position with
  | nil => rfl
  | cons c taken ih =>
    rw [List.cons_append, List.length_cons, lexemesFrom, ih, bytes, Nat.add_assoc]

/-- **A token is read and passed over.** -/
theorem lexemesFrom_token {afterDot : Bool} {c : Char} {taken rest : List Char} {t : Token}
    (visible : isBlank c = false)
    (read : next afterDot c (taken ++ rest) = .ok (t, taken.length + 1)) (position : Nat) :
    lexemesFrom 0 position afterDot (c :: taken ++ rest) =
      (⟨t, position⟩ :: ·) <$>
        lexemesFrom 0 (position + bytes (c :: taken)) (decide (t = .dot)) rest := by
  rw [List.cons_append, lexemesFrom, if_neg (by rw [visible]; exact Bool.false_ne_true), read]
  simp only [Nat.add_sub_cancel, lexemesFrom_skip]
  rw [bytes, Nat.add_assoc]

/-- **How a text is cut into lexemes**, from a byte offset on: blanks are passed over, and where
none is a token begins, which the lexer reads with all that follows in sight. -/
inductive Cut : (position : Nat) → (afterDot : Bool) → List Char → List Lexeme → Prop
  | done (position : Nat) (afterDot : Bool) : Cut position afterDot [] []
  | blank {position : Nat} {afterDot : Bool} {c : Char} {rest : List Char} {ls : List Lexeme}
      (blank : isBlank c = true) (after : Cut (position + c.utf8Size) afterDot rest ls) :
      Cut position afterDot (c :: rest) ls
  | token {position : Nat} {afterDot : Bool} {c : Char} {taken rest : List Char} {t : Token}
      {ls : List Lexeme} (visible : isBlank c = false)
      (read : next afterDot c (taken ++ rest) = .ok (t, taken.length + 1))
      (after : Cut (position + bytes (c :: taken)) (decide (t = .dot)) rest ls) :
      Cut position afterDot (c :: taken ++ rest) (⟨t, position⟩ :: ls)

/-- **The lexer cuts a text into lexemes.** -/
theorem lexemesFrom_eq_ok_iff {position : Nat} {afterDot : Bool} {cs : List Char}
    {ls : List Lexeme} :
    lexemesFrom 0 position afterDot cs = .ok ls ↔ Cut position afterDot cs ls := by
  constructor
  · -- on the length of the text, since a token is passed over at once
    intro read
    induction hn : cs.length using Nat.strongRecOn generalizing position afterDot cs ls with
    | ind n ih =>
      rcases cs with _ | ⟨c, rest⟩
      · cases read
        exact .done position afterDot
      · cases blank : isBlank c with
        | true =>
          rw [lexemesFrom, if_pos blank] at read
          exact .blank blank (ih rest.length (by rw [← hn, List.length_cons]; omega) read rfl)
        | false =>
          cases first : next afterDot c rest with
          | error complaint =>
            rw [lexemesFrom, blank, if_neg Bool.false_ne_true, first] at read
            cases read
          | ok token =>
            obtain ⟨taken, after, rfl, width⟩ := exists_of_next first
            have first := first.trans (congrArg (fun w => Except.ok (token.1, w)) width)
            have shorter : after.length < n := by
              rw [← hn, List.length_cons, List.length_append]
              omega
            rw [← List.cons_append, lexemesFrom_token blank first] at read
            cases others : lexemesFrom 0 (position + bytes (c :: taken)) (decide (token.1 = .dot))
                after with
            | error e =>
              rw [others] at read
              cases read
            | ok ls =>
              rw [others] at read
              cases read
              exact .token blank first (ih after.length shorter others rfl)
  · intro cut
    induction cut with
    | done position afterDot => rfl
    | blank blank _ ih => rw [lexemesFrom, if_pos blank, ih]
    | token visible read _ ih =>
      rw [lexemesFrom_token visible read, ih]
      rfl

end StepFlow.Expression
