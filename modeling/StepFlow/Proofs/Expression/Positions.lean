import StepFlow.Proofs.Expression.Lexemes

/-!
# Where lexemes stand

A lexeme is placed by the byte at which it starts, while the lexer counts characters.  The two
counts stay in step: wherever a lexeme starts or the lexer complains, a character of the source
starts, and lexemes start one after the other (`lexemesFrom_placed`).

**Why the lexer stops.**  It is a walk along the characters, and `Scan.turn` is one turn of it: a
blank is passed over, or a whole token is taken.  A turn takes one character at least
(`Scan.length_turn`), so that after as many turns as there are characters nothing is left, and what
the turns have found is what the lexer answers (`Scan.turns_eq`).
-/

namespace StepFlow.Expression

open Unicode

/-! ### Places in a text -/

/-- **A boundary of a text**: a byte offset at which a character starts or the text ends. -/
def IsBoundary (source : String) (position : Nat) : Prop :=
  String.Pos.Raw.IsValid source ⟨position⟩

instance (source : String) (position : Nat) : Decidable (IsBoundary source position) :=
  decidable_of_iff _ String.Pos.Raw.isValid_eq_true_iff

theorem IsBoundary.le {source : String} {position : Nat} (h : IsBoundary source position) :
    position ≤ source.utf8ByteSize :=
  h.le_rawEndPos

theorem isBoundary_end (source : String) : IsBoundary source source.utf8ByteSize :=
  String.Pos.Raw.isValid_iff_exists_append.mpr ⟨source, "", String.append_empty.symm, rfl⟩

/-- **A character of a text starts at a byte offset**, where the text starts at `start`. -/
def Starts (start : Nat) (cs : List Char) (position : Nat) : Prop :=
  ∃ before c after, cs = before ++ c :: after ∧ position = start + bytes before

section Starts

variable {start position : Nat} {cs : List Char} {source : String}

theorem Starts.le (h : Starts start cs position) : start ≤ position := by
  obtain ⟨before, -, -, -, rfl⟩ := h
  exact Nat.le_add_right start _

/-- The first character starts where the text does. -/
theorem starts_cons (start : Nat) (c : Char) (cs : List Char) : Starts start (c :: cs) start :=
  ⟨[], c, cs, rfl, rfl⟩

/-- A character of the rest of a text is one of the text. -/
theorem Starts.cons {c : Char} (h : Starts (start + c.utf8Size) cs position) :
    Starts start (c :: cs) position := by
  obtain ⟨before, d, after, rfl, rfl⟩ := h
  exact ⟨c :: before, d, after, rfl, by rw [bytes, Nat.add_assoc]⟩

/-- Where a character of a source starts is a boundary of it. -/
theorem Starts.isBoundary (h : Starts 0 source.toList position) : IsBoundary source position := by
  obtain ⟨before, c, after, split, rfl⟩ := h
  refine String.Pos.Raw.isValid_iff_exists_append.mpr
    ⟨String.ofList before, String.ofList (c :: after), ?_, ?_⟩
  · rw [← String.ofList_append, ← split, String.ofList_toList]
  · rw [Nat.zero_add, ← utf8ByteSize_ofList]
    rfl

/-- No character starts where a source ends. -/
theorem Starts.lt (h : Starts 0 source.toList position) : position < source.utf8ByteSize := by
  obtain ⟨before, c, after, split, rfl⟩ := h
  have size : source.utf8ByteSize = bytes (before ++ c :: after) := by
    rw [← split, ← utf8ByteSize_ofList, String.ofList_toList]
  have wide := c.utf8Size_pos
  rw [size, bytes_append, bytes]
  omega

end Starts

/-! ### The lexer -/

/-- The lexemes come one after the other. -/
def Ascend (ls : List Lexeme) : Prop := ls.Pairwise fun l m => l.position < m.position

/-- **Lexemes stand where characters start**, one after the other, and so does a complaint. -/
inductive Placed (start : Nat) (cs : List Char) : Except ReadError (List Lexeme) → Prop
  | ok {ls : List Lexeme} (starts : ∀ l ∈ ls, Starts start cs l.position) (ascend : Ascend ls) :
      Placed start cs (.ok ls)
  | error {e : ReadError} (starts : Starts start cs e.position) : Placed start cs (.error e)

section Placed

variable {start : Nat} {c : Char} {cs : List Char} {r : Except ReadError (List Lexeme)}

/-- What is placed in the rest of a text is placed in the text. -/
theorem Placed.cons (h : Placed (start + c.utf8Size) cs r) : Placed start (c :: cs) r := by
  cases h with
  | ok starts ascend => exact .ok (fun l mem => (starts l mem).cons) ascend
  | error starts => exact .error starts.cons

/-- A lexeme at the beginning comes before all that is placed in the rest. -/
theorem Placed.lexeme (h : Placed (start + c.utf8Size) cs r) (t : Token) :
    Placed start (c :: cs) ((⟨t, start⟩ :: ·) <$> r) := by
  cases h with
  | @ok ls starts ascend =>
    have all : ∀ l ∈ (⟨t, start⟩ :: ls : List Lexeme), Starts start (c :: cs) l.position :=
      List.forall_mem_cons.mpr ⟨starts_cons start c cs, fun l mem => (starts l mem).cons⟩
    have first : ∀ l ∈ ls, start < l.position := by
      intro l mem
      have later := (starts l mem).le
      have wide := c.utf8Size_pos
      omega
    exact .ok all (List.pairwise_cons.mpr ⟨first, ascend⟩)
  | error starts => exact .error starts.cons

/-- **The lexer places what it finds.** -/
theorem lexemesFrom_placed (skip start : Nat) (afterDot : Bool) (cs : List Char) :
    Placed start cs (lexemesFrom skip start afterDot cs) := by
  fun_induction lexemesFrom skip start afterDot cs with
  | case1 => exact .ok (fun l mem => absurd mem List.not_mem_nil) List.Pairwise.nil
  | case2 skip start afterDot c rest ih => exact ih.cons
  | case3 start afterDot c rest blank ih => exact ih.cons
  | case4 start afterDot c rest visible complaint failed => exact .error (starts_cons start c rest)
  | case5 start afterDot c rest visible t width read ih => exact ih.lexeme t

end Placed

/-! ### Turn by turn -/

/-- **Where the lexer stands between two turns**: the characters that are left, the byte offset at
which they start, and the lexemes so far. -/
structure Scan where
  rest : List Char
  position : Nat
  lexemes : List Lexeme

namespace Scan

/-- The lexer before its first turn. -/
def start (source : String) : Scan := ⟨source.toList, 0, []⟩

/-- Was the last token a dot? -/
def afterDot (s : Scan) : Bool := s.lexemes.getLast?.any fun l => l.token = .dot

/-- **One turn**: a blank is passed over, or a token is taken.  Nothing happens at the end. -/
def turn (s : Scan) : Except ReadError Scan :=
  match s.rest with
  | [] => .ok s
  | c :: rest =>
    if isBlank c then .ok ⟨rest, s.position + c.utf8Size, s.lexemes⟩
    else match next s.afterDot c rest with
      | .error complaint => .error ⟨s.position, complaint⟩
      | .ok (t, width) =>
        .ok ⟨(c :: rest).drop width, s.position + bytes ((c :: rest).take width),
          s.lexemes ++ [⟨t, s.position⟩]⟩

/-- A number of turns. -/
def turns : (n : Nat) → Scan → Except ReadError Scan
  | 0, s => .ok s
  | n + 1, s => s.turn >>= turns n

/-- **What a turn can do.** -/
inductive Turns (s : Scan) : Except ReadError Scan → Prop
  | ended (none : s.rest = []) : Turns s (.ok s)
  | blank {c : Char} {rest : List Char} (split : s.rest = c :: rest) (blank : isBlank c = true) :
      Turns s (.ok ⟨rest, s.position + c.utf8Size, s.lexemes⟩)
  | failed {c : Char} {rest : List Char} {complaint : Complaint} (split : s.rest = c :: rest)
      (visible : isBlank c = false) (failed : next s.afterDot c rest = .error complaint) :
      Turns s (.error ⟨s.position, complaint⟩)
  | token {c : Char} {taken rest : List Char} {t : Token} (split : s.rest = c :: taken ++ rest)
      (visible : isBlank c = false)
      (read : next s.afterDot c (taken ++ rest) = .ok (t, taken.length + 1)) :
      Turns s (.ok ⟨rest, s.position + bytes (c :: taken), s.lexemes ++ [⟨t, s.position⟩]⟩)

theorem turns_turn (s : Scan) : s.Turns s.turn := by
  unfold turn
  split
  · rename_i none
    exact .ended none
  · rename_i c rest split
    cases blank : isBlank c with
    | true => exact .blank split blank
    | false =>
      cases read : next s.afterDot c rest with
      | error complaint => exact .failed split blank read
      | ok token =>
        obtain ⟨t, width⟩ := token
        obtain ⟨taken, after, rfl, rfl⟩ := exists_of_next read
        have took : (c :: (taken ++ after)).take (taken.length + 1) = c :: taken :=
          @List.take_left _ (c :: taken) after
        have left : (c :: (taken ++ after)).drop (taken.length + 1) = after :=
          @List.drop_left _ (c :: taken) after
        simp only [Bool.false_eq_true, if_false, took, left]
        exact .token split blank read

variable {s s' : Scan}

/-- **A turn takes one character at least**, if there is one. -/
theorem length_turn (turned : s.turn = .ok s') : s'.rest.length ≤ s.rest.length - 1 := by
  have turns := s.turns_turn
  rw [turned] at turns
  cases turns with
  | ended none =>
    rw [none]
    exact Nat.le_refl _
  | blank split =>
    rw [split]
    exact Nat.le_refl _
  | @token _ taken rest _ split =>
    rw [split, List.cons_append, List.length_cons, List.length_append, Nat.add_sub_cancel]
    exact Nat.le_add_left rest.length taken.length

/-- What the lexer answers in the end, when it has come this far. -/
def answer (s : Scan) : Except ReadError (List Lexeme) :=
  (s.lexemes ++ ·) <$> lexemesFrom 0 s.position s.afterDot s.rest

/-- **A turn does not change the answer.** -/
theorem answer_turn (s : Scan) : s.turn >>= answer = s.answer := by
  have turns := s.turns_turn
  generalize s.turn = turned at turns ⊢
  change _ = (s.lexemes ++ ·) <$> lexemesFrom 0 s.position s.afterDot s.rest
  cases turns with
  | ended none => rfl
  | blank split blank =>
    rw [split, lexemesFrom, if_pos blank]
    rfl
  | failed split visible failed =>
    rw [split, lexemesFrom, visible, if_neg Bool.false_ne_true, failed]
    rfl
  | @token c taken rest t split visible read =>
    have dot : afterDot ⟨rest, s.position + bytes (c :: taken), s.lexemes ++ [⟨t, s.position⟩]⟩ =
        decide (t = .dot) := by
      simp [afterDot]
    rw [split, lexemesFrom_token visible read]
    change answer _ = _
    rw [answer, dot]
    cases lexemesFrom 0 (s.position + bytes (c :: taken)) (decide (t = .dot)) rest with
    | error e => rfl
    | ok ls =>
      exact congrArg Except.ok (List.append_assoc s.lexemes [⟨t, s.position⟩] ls)

/-- **The lexer stops**: after as many turns as there are characters nothing is left, unless it has
complained, and what has been found is the answer. -/
theorem turns_eq {n : Nat} (enough : s.rest.length ≤ n) :
    (turns n s).map (·.lexemes) = s.answer ∧ ∀ s', turns n s = .ok s' → s'.rest = [] := by
  induction n generalizing s with
  | zero =>
    have none : s.rest = [] := List.length_eq_zero_iff.mp (Nat.le_zero.mp enough)
    refine ⟨?_, fun s' stopped => ?_⟩
    · rw [answer, none]
      exact congrArg Except.ok (List.append_nil s.lexemes).symm
    · cases stopped
      exact none
  | succ n ih =>
    rw [← answer_turn]
    cases turned : s.turn with
    | error e =>
      rw [turns, turned]
      exact ⟨rfl, nofun⟩
    | ok s' =>
      rw [turns, turned]
      exact ih (Nat.le_trans (length_turn turned) (Nat.sub_le_of_le_add enough))

theorem answer_start (source : String) : (start source).answer = tokenize source := by
  have same (r : Except ReadError (List Lexeme)) : (([] : List Lexeme) ++ ·) <$> r = r := by
    cases r <;> rfl
  exact same (lexemesFrom 0 0 false source.toList)

end Scan

/-! ### Whole texts -/

variable {source : String} {ls : List Lexeme} {e : ReadError}

theorem tokenize_placed (source : String) : Placed 0 source.toList (tokenize source) :=
  lexemesFrom_placed 0 0 false source.toList

/-- Where the lexemes of a source stand. -/
theorem placed_of_tokenize (read : tokenize source = .ok ls) :
    Ascend ls ∧ ∀ l ∈ ls, IsBoundary source l.position ∧ l.position < source.utf8ByteSize := by
  have placed := tokenize_placed source
  rw [read] at placed
  cases placed with
  | ok starts ascend =>
    exact ⟨ascend, fun l mem => ⟨(starts l mem).isBoundary, (starts l mem).lt⟩⟩

/-- Where the lexer complains. -/
theorem isBoundary_of_tokenize (failed : tokenize source = .error e) :
    IsBoundary source e.position := by
  have placed := tokenize_placed source
  rw [failed] at placed
  cases placed with
  | error starts => exact starts.isBoundary

end StepFlow.Expression
