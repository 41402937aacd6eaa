import StepFlow.Proofs.Expression.Recognition

/-!
# The parser does not look at positions

Lexemes carry the place where they stand, and an error is reported at one of these places.  That is
all the parser does with them: lexemes with the same tokens come to the same tree or to the same
complaint (`alike_parseLexemes`), wherever they stand and wherever the text ends.  So the outcome
of a text is decided by its tokens (`outcome_eq_of_tokens`).

That the parser recognizes a grammar says on which tokens it succeeds, and with which tree; it does
not say what it complains of on the others.  Here both are one statement about two runs of the same
parser from places that are `Alike`, and each way of building parsers keeps it.
-/

namespace StepFlow.Expression

section

variable {α β : Type} {same : α → α → Prop} {same' : β → β → Prop}

/-- **Two readings are alike**: they come to the same result, or to the same complaint, which may
be about different places. -/
inductive Alike (same : α → α → Prop) : Except ReadError α → Except ReadError α → Prop
  | ok {a b : α} (h : same a b) : Alike same (.ok a) (.ok b)
  | error (complaint : Complaint) (p q : Nat) :
      Alike same (.error ⟨p, complaint⟩) (.error ⟨q, complaint⟩)

/-- Readings in two parts are alike if both parts are. -/
theorem Alike.bind {x y : Except ReadError α} {f g : α → Except ReadError β}
    (first : Alike same x y) (second : ∀ a b, same a b → Alike same' (f a) (g b)) :
    Alike same' (x >>= f) (y >>= g) := by
  cases first with
  | ok h => exact second _ _ h
  | error complaint p q => exact .error complaint p q

end

/-! ### Places -/

/-- **Two places between lexemes are alike**: the same tokens follow, and as many nodes may still
be built. -/
structure Cursor.Alike (c d : Cursor) : Prop where
  tokens : c.tokens = d.tokens
  nodes : c.nodes = d.nodes

namespace Cursor.Alike

variable {c d : Cursor}

theorem token? (h : c.Alike d) : c.token? = d.token? := by
  rw [token?_eq, token?_eq, h.tokens]

theorem length (h : c.Alike d) : c.rest.length = d.rest.length := by
  simpa [Cursor.tokens] using congrArg List.length h.tokens

theorem advance (h : c.Alike d) : c.advance.Alike d.advance where
  tokens := by rw [tokens_advance, tokens_advance, h.tokens]
  nodes := by rw [nodes_advance, nodes_advance, h.nodes]

/-- Paying for a node. -/
theorem spend (h : c.Alike d) : Expression.Alike Cursor.Alike c.spend d.spend := by
  unfold Cursor.spend
  rw [h.nodes]
  split
  · exact .error .tooComplex c.position d.position
  · exact .ok ⟨h.tokens, rfl⟩

/-- If no lexeme is left on one side, none is left on the other. -/
theorem rest_eq_nil (h : c.Alike d) (ends : c.rest = []) : d.rest = [] := by
  have none : d.tokens = [] := by rw [← h.tokens, Cursor.tokens, ends, List.map_nil]
  exact List.map_eq_nil_iff.mp none

/-- The first lexeme on the other side. -/
theorem exists_rest (h : c.Alike d) {t : Token} {p : Nat} {ls : List Lexeme}
    (first : c.rest = ⟨t, p⟩ :: ls) :
    ∃ q ls', d.rest = ⟨t, q⟩ :: ls' ∧ ls'.map (·.token) = ls.map (·.token) := by
  refine exists_rest_of_tokens_eq_cons (u := d) ?_
  rw [← h.tokens, Cursor.tokens, first, List.map_cons]

end Cursor.Alike

/-- The same tree, and places that are alike. -/
inductive TakenAlike : Tree × Cursor → Tree × Cursor → Prop
  | intro (t : Tree) {c d : Cursor} (h : c.Alike d) : TakenAlike (t, c) (t, d)

/-- **A parser is blind** if it does not look at positions: from places that are alike it reads
alike. -/
def Blind (p : Parser) : Prop := ∀ ⦃c d : Cursor⦄, c.Alike d → Alike TakenAlike (p c) (p d)

/-! ### Paths -/

/-- The same hops, and the same tokens after them. -/
inductive HoppedAlike : List Segment × List Lexeme × Nat → List Segment × List Lexeme × Nat → Prop
  | intro (ss : List Segment) {ls ls' : List Lexeme} (last last' : Nat)
      (h : ls'.map (·.token) = ls.map (·.token)) : HoppedAlike (ss, ls, last) (ss, ls', last')

/-- One hop more in front. -/
theorem HoppedAlike.cons {a b : List Segment × List Lexeme × Nat} (s : Segment)
    (h : HoppedAlike a b) : HoppedAlike (s :: a.1, a.2) (s :: b.1, b.2) := by
  cases h with
  | intro ss last last' h => exact .intro (s :: ss) last last' h

/-- **The hops of a path are taken alike.** -/
theorem alike_hops {last last' : Nat} {ls ls' : List Lexeme}
    (h : ls'.map (·.token) = ls.map (·.token)) :
    Alike HoppedAlike (hops last ls) (hops last' ls') := by
  fun_induction hops last ls generalizing last' ls' with
  | case1 _ _ t p ls ht =>
    obtain ⟨_, _, rfl, h₁⟩ := exists_lexeme_of_map_eq_cons h
    obtain ⟨q, ls', rfl, -⟩ := exists_lexeme_of_map_eq_cons h₁
    rw [hops, ht]
    exact .error .expectedFieldName p q
  | case2 _ _ t p ls s ht ih =>
    obtain ⟨_, _, rfl, h₁⟩ := exists_lexeme_of_map_eq_cons h
    obtain ⟨q, ls', rfl, h₂⟩ := exists_lexeme_of_map_eq_cons h₁
    rw [hops, ht]
    exact (ih h₂).bind fun _ _ same => .ok (same.cons s)
  | case3 _ p =>
    obtain ⟨q, ls', rfl, h₁⟩ := exists_lexeme_of_map_eq_cons h
    rw [List.map_eq_nil_iff.mp h₁]
    exact .error .expectedFieldName p q
  | case4 _ _ t p u _ ls ht =>
    obtain ⟨_, _, rfl, h₁⟩ := exists_lexeme_of_map_eq_cons h
    obtain ⟨q, _, rfl, h₂⟩ := exists_lexeme_of_map_eq_cons h₁
    obtain ⟨_, _, rfl, -⟩ := exists_lexeme_of_map_eq_cons h₂
    rw [hops, ht]
    exact .error .expectedKeyOrIndex p q
  | case5 _ _ t p q ls s ht ih =>
    obtain ⟨_, _, rfl, h₁⟩ := exists_lexeme_of_map_eq_cons h
    obtain ⟨_, _, rfl, h₂⟩ := exists_lexeme_of_map_eq_cons h₁
    obtain ⟨q', ls', rfl, h₃⟩ := exists_lexeme_of_map_eq_cons h₂
    rw [hops, ht]
    exact (ih h₃).bind fun _ _ same => .ok (same.cons s)
  | case6 _ _ t p u q ls s ht noClose =>
    obtain ⟨_, _, rfl, h₁⟩ := exists_lexeme_of_map_eq_cons h
    obtain ⟨_, _, rfl, h₂⟩ := exists_lexeme_of_map_eq_cons h₁
    obtain ⟨q', ls', rfl, -⟩ := exists_lexeme_of_map_eq_cons h₂
    simp only [hops, ht, if_neg noClose]
    exact .error .expectedClosingBracket q q'
  | case7 _ _ t p ht =>
    obtain ⟨_, _, rfl, h₁⟩ := exists_lexeme_of_map_eq_cons h
    obtain ⟨q, ls', rfl, h₂⟩ := exists_lexeme_of_map_eq_cons h₁
    rw [List.map_eq_nil_iff.mp h₂, hops, ht]
    exact .error .expectedKeyOrIndex p q
  | case8 _ _ t p s ht =>
    obtain ⟨_, _, rfl, h₁⟩ := exists_lexeme_of_map_eq_cons h
    obtain ⟨q, ls', rfl, h₂⟩ := exists_lexeme_of_map_eq_cons h₁
    rw [List.map_eq_nil_iff.mp h₂, hops, ht]
    exact .error .expectedClosingBracket p q
  | case9 _ p =>
    obtain ⟨q, ls', rfl, h₁⟩ := exists_lexeme_of_map_eq_cons h
    rw [List.map_eq_nil_iff.mp h₁]
    exact .error .expectedKeyOrIndex p q
  | case10 last ls noDot noDotEnd noBracket noBracketEnd noBracketEnd' =>
    -- no hop begins here, so none begins there
    have stops : ∀ k ∈ (ls.map (·.token)).head?, k ∉ hopSigns := by
      intro k first sign
      rcases ls with _ | ⟨⟨t, p⟩, ls⟩
      · cases first
      · cases first
        rw [hopSigns, List.mem_cons, List.mem_singleton] at sign
        rcases sign with rfl | rfl
        · rcases ls with _ | ⟨⟨u, q⟩, ls⟩
          · exact noDotEnd p rfl
          · exact noDot p u q ls rfl
        · rcases ls with _ | ⟨⟨u, q⟩, _ | ⟨⟨v, r⟩, ls⟩⟩
          · exact noBracketEnd' p rfl
          · exact noBracketEnd p u q rfl
          · exact noBracket p u q v r ls rfl
    rw [hops_of_not_mem (by rwa [h])]
    exact .ok ⟨[], last, last', h⟩

/-! ### Chains -/

section Chains

variable {op? : Token → Option BinaryOp} {operand : Parser}

theorem alike_chainFrom (hp : Blind operand) (n : Nat) (left : Tree) {c d : Cursor}
    (h : c.Alike d) :
    Alike TakenAlike (chainFrom op? operand n left c) (chainFrom op? operand n left d) := by
  induction n generalizing left c d with
  | zero => exact .ok ⟨left, h⟩
  | succ n ih =>
    rw [chainFrom, chainFrom, h.token?]
    cases d.token?.bind op? with
    | none => exact .ok ⟨left, h⟩
    | some op =>
      refine (hp h.advance).bind ?_
      rintro _ _ ⟨right, h⟩
      exact h.spend.bind fun _ _ h => ih (.binary op left right) h

/-- **Chains are read alike** if their operands are. -/
theorem Blind.chain (hp : Blind operand) : Blind (chain op? operand) := by
  intro c d h
  refine (hp h).bind ?_
  rintro _ _ ⟨left, h⟩
  simp only [h.length]
  exact alike_chainFrom hp _ left h

end Chains

/-! ### The other categories -/

/-- **The parsers one level deeper are blind.** -/
structure Deeper.Blind (deeper : Deeper) : Prop where
  whole : Expression.Blind deeper.whole
  negated : Expression.Blind deeper.negated
  negative : Expression.Blind deeper.negative

section

variable {deeper : Deeper}

theorem blind_primary (hd : deeper.Blind) : Blind (primary deeper) := by
  intro c d h
  unfold primary
  split
  case h_1 ends =>
    rw [h.rest_eq_nil ends]
    exact .error .unexpectedEnd c.stop d.stop
  case h_2 x p ls first =>
    obtain ⟨q, ls', first', same⟩ := h.exists_rest first
    rw [first']
    exact .ok ⟨_, same.symm, h.nodes⟩
  case h_3 s p ls first =>
    obtain ⟨q, ls', first', same⟩ := h.exists_rest first
    rw [first']
    exact .ok ⟨_, same.symm, h.nodes⟩
  case h_4 p ls first =>
    obtain ⟨q, ls', first', -⟩ := h.exists_rest first
    rw [first']
    refine (hd.whole h.advance).bind ?_
    rintro _ _ @⟨inner, c, d, h⟩
    simp only [h.token?]
    split
    · exact .ok ⟨inner, h.advance⟩
    · exact .error .expectedClosingParen c.gap d.gap
  case h_5 w p ls first =>
    obtain ⟨q, ls', first', same⟩ := h.exists_rest first
    rw [first']
    cases hw : literalWord? w with
    | some v =>
      simp only [hw]
      exact .ok ⟨.literal v, same.symm, h.nodes⟩
    | none =>
      simp only [hw]
      refine (alike_hops same).bind ?_
      rintro _ _ ⟨ss, _, _, same⟩
      exact .ok ⟨.path (.key w :: ss), same.symm, h.nodes⟩
  case h_6 t p ls noNumber noText noParen noWord first =>
    obtain ⟨q, ls', first', -⟩ := h.exists_rest first
    rw [first']
    cases t with
    | number x => exact absurd rfl (noNumber x)
    | str s => exact absurd rfl (noText s)
    | leftParen => exact absurd rfl noParen
    | word w => exact absurd rfl (noWord w)
    | _ => exact .error (.unexpectedToken _) p q

theorem blind_unary (hd : deeper.Blind) : Blind (unary deeper) := by
  intro c d h
  unfold unary
  rw [h.token?]
  split
  · refine (hd.negative h.advance).bind ?_
    rintro _ _ ⟨x, h⟩
    exact h.spend.bind fun _ _ h => .ok ⟨_, h⟩
  · exact blind_primary hd h

theorem blind_sum (hd : deeper.Blind) : Blind (sum deeper) :=
  Blind.chain (Blind.chain (blind_unary hd))

theorem blind_comparison (hd : deeper.Blind) : Blind (comparison deeper) := by
  intro c d h
  refine (blind_sum hd h).bind ?_
  rintro _ _ @⟨left, c, d, h⟩
  dsimp only
  rw [h.token?]
  cases d.token?.bind comparisonOp? with
  | none => exact .ok ⟨left, h⟩
  | some op =>
    refine (blind_sum hd h.advance).bind ?_
    rintro _ _ ⟨right, h⟩
    exact h.spend.bind fun _ _ h => .ok ⟨.binary op left right, h⟩

theorem blind_negation (hd : deeper.Blind) : Blind (negation deeper) := by
  intro c d h
  unfold negation
  rw [h.token?]
  split
  · refine (hd.negated h.advance).bind ?_
    rintro _ _ ⟨x, h⟩
    exact h.spend.bind fun _ _ h => .ok ⟨_, h⟩
  · exact blind_comparison hd h

theorem blind_disjunction (hd : deeper.Blind) : Blind (disjunction deeper) :=
  Blind.chain (Blind.chain (blind_negation hd))

end

/-! ### Whole expressions -/

/-- The parsers of every level are blind. -/
theorem blind_levels (d : Nat) : (levels d).Blind := by
  induction d with
  | zero =>
    have fails : Blind fun c => .error ⟨c.position, .nestedTooDeeply⟩ :=
      fun {c d} _ => .error .nestedTooDeeply c.position d.position
    exact ⟨fails, fails, fails⟩
  | succ d ih => exact ⟨blind_disjunction ih, blind_negation ih, blind_unary ih⟩

/-- **Lexemes with the same tokens are parsed alike**, wherever they stand. -/
theorem alike_parseLexemes {ls ls' : List Lexeme} (h : ls'.map (·.token) = ls.map (·.token))
    (stop stop' : Nat) : Alike Eq (parseLexemes stop ls) (parseLexemes stop' ls') := by
  have start : Cursor.Alike ⟨ls, 0, maxNodes, stop⟩ ⟨ls', 0, maxNodes, stop'⟩ := ⟨h.symm, rfl⟩
  refine ((blind_levels maxDepth).whole start).bind ?_
  rintro _ _ @⟨tree, c, d, same⟩
  dsimp only
  rcases first : c.rest with _ | ⟨⟨t, p⟩, ls⟩
  · rw [same.rest_eq_nil first]
    exact .ok rfl
  · obtain ⟨q, ls', first', -⟩ := same.exists_rest first
    rw [first']
    exact .error (.unexpectedToken t) p q

/-- **What a text comes to, positions aside**: its tree, or the complaint about it, which the
message of the error puts in words. -/
def outcome (source : String) : Except Complaint Tree :=
  ((parse source).map (·.root)).mapError (·.complaint)

/-- **The tokens of a text decide its outcome.** -/
theorem outcome_eq_of_tokens {s s' : String} {ls ls' : List Lexeme} (read : tokenize s = .ok ls)
    (read' : tokenize s' = .ok ls') (same : ls'.map (·.token) = ls.map (·.token)) :
    outcome s' = outcome s := by
  have alike := alike_parseLexemes same s.utf8ByteSize s'.utf8ByteSize
  unfold outcome parse
  rw [read, read']
  change Except.mapError _ (Except.map _ ((parseLexemes _ ls').bind _)) =
    Except.mapError _ (Except.map _ ((parseLexemes _ ls).bind _))
  generalize parseLexemes s.utf8ByteSize ls = x at alike ⊢
  generalize parseLexemes s'.utf8ByteSize ls' = y at alike ⊢
  cases alike with
  | ok h =>
    cases h
    rfl
  | error complaint p q => rfl

end StepFlow.Expression
