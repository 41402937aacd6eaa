import StepFlow.Proofs.Expression.Lexemes
import StepFlow.Proofs.Expression.Outcomes

/-!
# Blanks between tokens

Blanks may be put at either end of a text and between any two of its tokens, where none stood
before as well: the tokens stay the same, and so does what the text comes to (`reading_of_spaced`).

`Spaced` says where blanks may be put, token by token as the lexer cuts the original text.  That
leaves out the inside of a token only: a text that is cut into lexemes may have blanks put before
each of them and at its end (`exists_spaced`).

**Why a token is still read.**  A token may stand next to a character that the lexer looks at
before it ends the token, and a blank that comes between takes that character out of sight.  But up
to the first blank put in the two texts are the same (`Spaced.exists_first`).  A token that is over
by then is read alike if the text is cut off at that place, and alike again if the text goes on
there with a blank (`IsLocal`).

After a dot a numeral takes no fraction.  The lexer keeps in mind over blanks that a dot was last,
so `a. 0.1` is a path of two indices as `a.0.1` is.
-/

namespace StepFlow.Expression

open Unicode

/-- **A text with blanks put in**: at its beginning, at its end, and between any two tokens that
the lexer cuts it into.  A blank of the spaced text is put in (`insert`) or is one of the original
(`blank`); the tokens are those of the original, read with what follows them there. -/
inductive Spaced : (afterDot : Bool) → (cs spaced : List Char) → Prop
  | done (afterDot : Bool) : Spaced afterDot [] []
  | insert {afterDot : Bool} {c : Char} {cs cs' : List Char} (blank : isBlank c = true)
      (after : Spaced afterDot cs cs') : Spaced afterDot cs (c :: cs')
  | blank {afterDot : Bool} {c : Char} {cs cs' : List Char} (blank : isBlank c = true)
      (after : Spaced afterDot cs cs') : Spaced afterDot (c :: cs) (c :: cs')
  | token {afterDot : Bool} {c : Char} (taken : List Char) {rest rest' : List Char} {t : Token}
      (visible : isBlank c = false)
      (read : next afterDot c (taken ++ rest) = .ok (t, taken.length + 1))
      (after : Spaced (decide (t = .dot)) rest rest') :
      Spaced afterDot (c :: taken ++ rest) (c :: taken ++ rest')

namespace Spaced

variable {afterDot : Bool} {cs cs' : List Char}

/-! ### Where blanks may be put -/

/-- Blanks at the beginning. -/
theorem insert_all {blanks : List Char} (blank : ∀ c ∈ blanks, isBlank c = true)
    (h : Spaced afterDot cs cs') : Spaced afterDot cs (blanks ++ cs') := by
  induction blanks with
  | nil => exact h
  | cons c blanks ih =>
    rw [List.forall_mem_cons] at blank
    exact .insert blank.1 (ih blank.2)

/-- A text that is cut into lexemes, with no blank put in. -/
theorem refl {position : Nat} {ls : List Lexeme} (cut : Cut position afterDot cs ls) :
    Spaced afterDot cs cs := by
  induction cut with
  | done _ afterDot => exact .done afterDot
  | blank blank _ ih => exact .blank blank ih
  | token visible read _ ih => exact .token _ visible read ih

/-- Blanks at the end. -/
theorem append_all {blanks : List Char} (blank : ∀ c ∈ blanks, isBlank c = true)
    (h : Spaced afterDot cs cs') : Spaced afterDot cs (cs' ++ blanks) := by
  induction h with
  | done afterDot =>
    have only := insert_all blank (.done afterDot)
    rwa [List.append_nil] at only
  | insert here _ ih => exact .insert here ih
  | blank here _ ih => exact .blank here ih
  | token taken visible read _ ih =>
    rw [List.append_assoc]
    exact .token taken visible read ih

/-- **Blanks before a lexeme**, at the byte where it starts. -/
theorem exists_before {position : Nat} {ls : List Lexeme} (cut : Cut position afterDot cs ls)
    {l : Lexeme} (mem : l ∈ ls) {blanks : List Char} (blank : ∀ c ∈ blanks, isBlank c = true) :
    ∃ before after, cs = before ++ after ∧ position + bytes before = l.position ∧
      Spaced afterDot cs (before ++ blanks ++ after) := by
  induction cut with
  | done => cases mem
  | @blank position _ c rest _ here _ ih =>
    obtain ⟨before, after, rfl, place, spaced⟩ := ih mem
    refine ⟨c :: before, after, rfl, ?_, .blank here spaced⟩
    rw [← place, bytes, Nat.add_assoc]
  | @token position _ c taken rest t _ visible read cut ih =>
    rcases List.mem_cons.mp mem with rfl | mem
    · exact ⟨[], c :: taken ++ rest, rfl, rfl,
        insert_all blank (.token taken visible read (.refl cut))⟩
    · obtain ⟨before, after, rfl, place, spaced⟩ := ih mem
      refine ⟨c :: taken ++ before, after, (List.append_assoc ..).symm, ?_, ?_⟩
      · rw [← place, bytes_append, Nat.add_assoc]
      · rw [List.append_assoc] at spaced ⊢
        rw [List.append_assoc]
        exact .token taken visible read spaced

/-! ### What blanks leave alone -/

/-- **Up to the first blank put in** the two texts are the same. -/
theorem exists_first (h : Spaced afterDot cs cs') :
    ∃ same more more', cs = same ++ more ∧ cs' = same ++ more' ∧ AtBlank more' := by
  induction h with
  | done => exact ⟨[], [], [], rfl, rfl, fun c none => by cases none⟩
  | @insert _ c cs cs' blank =>
    exact ⟨[], cs, c :: cs', rfl, rfl, fun d first => by cases first; exact blank⟩
  | @blank _ c _ _ _ _ ih =>
    obtain ⟨same, more, more', rfl, rfl, first⟩ := ih
    exact ⟨c :: same, more, more', rfl, rfl, first⟩
  | @token _ c taken _ _ _ _ _ _ ih =>
    obtain ⟨same, more, more', rfl, rfl, first⟩ := ih
    exact ⟨c :: taken ++ same, more, more', (List.append_assoc ..).symm,
      (List.append_assoc ..).symm, first⟩

/-- **A token is read as before.** -/
theorem next_eq {d afterDot : Bool} {c : Char} {taken rest rest' : List Char} {t : Token}
    (h : Spaced d rest rest')
    (read : next afterDot c (taken ++ rest) = .ok (t, taken.length + 1)) :
    next afterDot c (taken ++ rest') = .ok (t, taken.length + 1) := by
  obtain ⟨same, more, more', rfl, rfl, first⟩ := h.exists_first
  rw [← List.append_assoc] at read ⊢
  have within : taken.length + 1 ≤ (taken ++ same).length + 1 := by
    rw [List.length_append]
    omega
  have cut := (isLocal_next afterDot c).cut read within
  exact (isLocal_next afterDot c).extend cut first

/-- **The tokens stay the same**, wherever the two texts stand. -/
theorem exists_cut (h : Spaced afterDot cs cs') (position position' : Nat) :
    ∃ ls ls', Cut position afterDot cs ls ∧ Cut position' afterDot cs' ls' ∧
      ls'.map (·.token) = ls.map (·.token) := by
  induction h generalizing position position' with
  | done afterDot => exact ⟨[], [], .done position afterDot, .done position' afterDot, rfl⟩
  | insert blank _ ih =>
    obtain ⟨ls, ls', cut, cut', same⟩ := ih position _
    exact ⟨ls, ls', cut, .blank blank cut', same⟩
  | blank blank _ ih =>
    obtain ⟨ls, ls', cut, cut', same⟩ := ih _ _
    exact ⟨ls, ls', .blank blank cut, .blank blank cut', same⟩
  | @token _ c taken rest rest' t visible read spaced ih =>
    obtain ⟨ls, ls', cut, cut', same⟩ := ih _ _
    exact ⟨⟨t, position⟩ :: ls, ⟨t, position'⟩ :: ls', .token visible read cut,
      .token visible (spaced.next_eq read) cut', congrArg (t :: ·) same⟩

end Spaced

/-! ### Source texts -/

/-- **The text `s'` is the text `s` with blanks put in** at its ends and between its tokens. -/
def IsSpaced (s s' : String) : Prop := Spaced false s.toList s'.toList

section

variable {s s' : String} {ls : List Lexeme}

/-- **Where blanks may be put**: at the beginning, at the end, and before every lexeme. -/
theorem exists_spaced (read : tokenize s = .ok ls) {blanks : String}
    (blank : ∀ c ∈ blanks.toList, isBlank c = true) :
    IsSpaced s (blanks ++ s) ∧ IsSpaced s (s ++ blanks) ∧
      ∀ l ∈ ls, ∃ before after : String, s = before ++ after ∧
        before.utf8ByteSize = l.position ∧ IsSpaced s (before ++ blanks ++ after) := by
  have cut := lexemesFrom_eq_ok_iff.mp read
  simp only [IsSpaced, String.toList_append]
  refine ⟨(Spaced.refl cut).insert_all blank, (Spaced.refl cut).append_all blank, ?_⟩
  intro l mem
  obtain ⟨before, after, whole, place, spaced⟩ := Spaced.exists_before cut mem blank
  refine ⟨String.ofList before, String.ofList after, ?_, ?_, ?_⟩
  · rw [← String.ofList_append, ← whole, String.ofList_toList]
  · rw [utf8ByteSize_ofList, ← place, Nat.zero_add]
  · rw [String.toList_ofList, String.toList_ofList]
    exact spaced

/-- **Blanks between tokens change nothing.**  If a text is cut into lexemes, then so it is with
blanks put in at its ends and between its tokens, into the same tokens; and it comes to the same
tree, or to the same complaint. -/
theorem reading_of_spaced (read : tokenize s = .ok ls) (spaced : IsSpaced s s') :
    (∃ ls', tokenize s' = .ok ls' ∧ ls'.map (·.token) = ls.map (·.token)) ∧
      outcome s' = outcome s := by
  obtain ⟨ls₁, ls', cut, cut', same⟩ := Spaced.exists_cut spaced 0 0
  have read₁ : tokenize s = .ok ls₁ := lexemesFrom_eq_ok_iff.mpr cut
  have read' : tokenize s' = .ok ls' := lexemesFrom_eq_ok_iff.mpr cut'
  obtain rfl : ls₁ = ls := Except.ok.inj (read₁.symm.trans read)
  exact ⟨⟨ls', read', same⟩, outcome_eq_of_tokens read read' same⟩

end

/-- A numeral after a dot, an operator of two characters and a fraction, with a blank before each
of them. -/
theorem reading_of_spaced_comparison :
    IsSpaced "a.0>=1.5" "a. 0 >= 1.5" ∧ ∃ ls, tokenize "a.0>=1.5" = .ok ls ∧
      (∃ ls', tokenize "a. 0 >= 1.5" = .ok ls' ∧ ls'.map (·.token) = ls.map (·.token)) ∧
        outcome "a. 0 >= 1.5" = outcome "a.0>=1.5" := by
  have spaced : IsSpaced "a.0>=1.5" "a. 0 >= 1.5" :=
    .token [] (by decide) rfl <|
    .token [] (by decide) rfl <|
    .insert (by decide) <|
    .token [] (by decide) rfl <|
    .insert (by decide) <|
    .token ['='] (by decide) rfl <|
    .insert (by decide) <|
    .token ['.', '5'] (by decide) rfl <|
    .done false
  exact ⟨spaced, _, rfl, reading_of_spaced rfl spaced⟩

end StepFlow.Expression
