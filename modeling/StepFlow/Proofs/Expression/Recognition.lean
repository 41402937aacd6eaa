import StepFlow.Proofs.Expression.Grammar

/-!
# The parser recognizes the grammar

A parser `Reads` a set of phrases if it takes a phrase whenever one is there that
cannot go on, and takes nothing else.  Both directions are one statement about
one parser, so each way of building parsers from parsers has one lemma:

* `Reads.chain`: chains of operands between operators;
* `reads_primary`, `reads_unary`, `reads_comparison`, `reads_negation`: the other
  categories, each from the next tighter one.

**Where a phrase ends.**  The parser takes as much as it can.  It agrees with the
grammar because no token that goes on with a phrase may stand behind one
(`Category.followers`): the operators of a chain go on with none of its operands.

**Depth.**  `reads_levels` is the induction on the levels that are left: the
parsers of a level are built from those one level deeper, and every phrase that
may stand there nests one less deep.
-/

namespace StepFlow.Expression

/-- A computation in two parts succeeds if both parts do. -/
theorem bind_eq_ok_iff {ε α β : Type} {x : Except ε α} {f : α → Except ε β} {b : β} :
    x >>= f = .ok b ↔ ∃ a, x = .ok a ∧ f a = .ok b := by
  cases x with
  | error e => simp [bind, Except.bind]
  | ok a => simp [bind, Except.bind]

/-! ### Cursors -/

namespace Cursor

/-- The tokens that follow. -/
def tokens (c : Cursor) : List Token := c.rest.map (·.token)

theorem token?_eq (c : Cursor) : c.token? = c.tokens.head? := by
  simp [token?, tokens]

@[simp] theorem tokens_advance (c : Cursor) : c.advance.tokens = c.tokens.tail := by
  unfold advance
  split <;> simp_all [tokens]

@[simp] theorem nodes_advance (c : Cursor) : c.advance.nodes = c.nodes := by
  unfold advance
  split <;> rfl

/-- The next token, and those after it. -/
theorem tokens_eq_cons {c : Cursor} {k : Token} (h : c.token? = some k) :
    c.tokens = k :: c.advance.tokens := by
  rw [token?_eq, List.head?_eq_some_iff] at h
  obtain ⟨ts, hts⟩ := h
  simp [hts]

/-- Paying for a node takes nothing else. -/
theorem spend_eq_ok {c c' : Cursor} (h : c.spend = .ok c') :
    c'.tokens = c.tokens ∧ c.nodes = c'.nodes + 1 := by
  unfold spend at h
  split at h
  · cases h
  · cases h
    exact ⟨rfl, by simp; omega⟩

theorem exists_spend {c : Cursor} (h : c.nodes ≠ 0) :
    ∃ c', c.spend = .ok c' ∧ c'.tokens = c.tokens ∧ c.nodes = c'.nodes + 1 := by
  refine ⟨{ c with nodes := c.nodes - 1 }, by simp [spend, h], rfl, ?_⟩
  simp only
  omega

end Cursor

/-! ### Reading phrases -/

/-- Sequences of tokens and their trees. -/
abbrev Phrases := List Token → Tree → Prop

/-- **A parser reads phrases**: what it takes is a phrase with its tree, one node
is paid for every operator of the tree, and every phrase is taken that no token
of `followers` stands behind and for which enough nodes are left. -/
structure Reads (p : Parser) (phrases : Phrases) (followers : List Token) : Prop where
  sound : ∀ {c c' : Cursor} {t : Tree}, p c = .ok (t, c') →
    ∃ ts, phrases ts t ∧ c.tokens = ts ++ c'.tokens ∧ c.nodes = c'.nodes + t.operators
  complete : ∀ {c : Cursor} {ts rest : List Token} {t : Tree}, phrases ts t →
    c.tokens = ts ++ rest → (∀ k ∈ rest.head?, k ∉ followers) → t.operators ≤ c.nodes →
    ∃ c', p c = .ok (t, c') ∧ c'.tokens = rest ∧ c.nodes = c'.nodes + t.operators

/-- The phrases of the category `a` of a depth below `d`. -/
def Below (a : Category) : (d : Nat) → Phrases
  | 0, _, _ => False
  | d + 1, ts, t => Derives a d ts t

/-- The tokens with which the hops of a path go on. -/
def hopSigns : List Token := [.dot, .leftBracket]

/-- The tokens between the operands of a chain. -/
def Chain.tokens (c : Chain) : List Token := c.signs.map (·.1)

/-- The tokens with which a sum may go on. -/
def sumFollowers : List Token := hopSigns ++ Chain.product.tokens ++ Chain.sum.tokens

/-- The tokens with which a comparison may go on. -/
def comparisonFollowers : List Token := sumFollowers ++ comparisonSigns.map (·.1)

/-- **The tokens with which a phrase may go on**, so that the parser would take
them for a part of it. -/
def Category.followers : Category → List Token
  | .primary => hopSigns
  | .unary => hopSigns
  | .chain .product => hopSigns ++ Chain.product.tokens
  | .chain .sum => sumFollowers
  | .comparison => comparisonFollowers
  | .negation => comparisonFollowers
  | .chain .conjunction => comparisonFollowers ++ Chain.conjunction.tokens
  | .chain .disjunction =>
      comparisonFollowers ++ Chain.conjunction.tokens ++ Chain.disjunction.tokens

/-- A chain goes on as its operands do, and with its own operators. -/
theorem followers_chain (c : Chain) :
    (Category.chain c).followers = c.operand.followers ++ c.tokens := by
  cases c <;> rfl

/-- No operator of a chain goes on with an operand. -/
theorem not_mem_followers_of_mem_signs {c : Chain} {k : Token} {op : BinaryOp}
    (h : (k, op) ∈ c.signs) : k ∉ c.operand.followers := by
  have disjoint : ∀ k ∈ c.tokens, k ∉ c.operand.followers := by
    cases c <;> decide
  exact disjoint k (List.mem_map_of_mem h)

/-- No sign of comparison goes on with a sum. -/
theorem not_mem_sumFollowers_of_mem_comparisonSigns {k : Token} {op : BinaryOp}
    (h : (k, op) ∈ comparisonSigns) : k ∉ sumFollowers := by
  have disjoint : ∀ k ∈ comparisonSigns.map (·.1), k ∉ sumFollowers := by decide
  exact disjoint k (List.mem_map_of_mem h)

/-! ### Paths -/

theorem indexOf?_eq_some_iff {x : Option Double} {n : Nat} :
    indexOf? x = some n ↔ Denotes x n := by
  cases x with
  | none => simp [indexOf?, Denotes]
  | some y =>
      cases hy : y.toInt? with
      | none => simp [indexOf?, Denotes, hy]
      | some m =>
          simp only [indexOf?, Denotes, Option.bind_some, hy, Option.some.injEq]
          constructor
          · intro h
            split at h
            · cases h
              exact ⟨y, m.toNat, rfl, by rw [hy]; simp; omega, rfl⟩
            · cases h
          · rintro ⟨_, m', rfl, hm, rfl⟩
            rw [hy, Option.some.injEq] at hm
            subst hm
            simp

theorem Hops.afterDot {t : Token} {s : Segment} {ts : List Token} {ss : List Segment}
    (ht : fieldAfterDot? t = some s) (h : Hops ts ss) : Hops (.dot :: t :: ts) (s :: ss) := by
  unfold fieldAfterDot? at ht
  split at ht
  · cases ht
    exact .field _ h
  · obtain ⟨n, hn, rfl⟩ := Option.map_eq_some_iff.mp ht
    exact .item (indexOf?_eq_some_iff.mp hn) h
  · cases ht

theorem Hops.inBrackets {t : Token} {s : Segment} {ts : List Token} {ss : List Segment}
    (ht : keyInBrackets? t = some s) (h : Hops ts ss) :
    Hops (.leftBracket :: t :: .rightBracket :: ts) (s :: ss) := by
  unfold keyInBrackets? at ht
  split at ht
  · cases ht
    exact .key _ h
  · obtain ⟨n, hn, rfl⟩ := Option.map_eq_some_iff.mp ht
    exact .index (indexOf?_eq_some_iff.mp hn) h
  · cases ht

/-- What the parser takes for the hops of a path are hops. -/
theorem hops_sound {last last' : Nat} {ls rest : List Lexeme} {ss : List Segment}
    (h : hops last ls = .ok (ss, rest, last')) :
    ∃ ts, Hops ts ss ∧ ls.map (·.token) = ts ++ rest.map (·.token) := by
  fun_induction hops last ls generalizing ss rest last' with
  | case2 _ _ t p ls s hs ih =>
      obtain ⟨⟨ss', rest', p'⟩, hrest, hss⟩ := bind_eq_ok_iff.mp h
      cases hss
      obtain ⟨ts, hts, split⟩ := ih hrest
      exact ⟨.dot :: t :: ts, hts.afterDot hs, by simp [split]⟩
  | case5 _ _ t p q ls s hs ih =>
      obtain ⟨⟨ss', rest', p'⟩, hrest, hss⟩ := bind_eq_ok_iff.mp h
      cases hss
      obtain ⟨ts, hts, split⟩ := ih hrest
      exact ⟨.leftBracket :: t :: .rightBracket :: ts, hts.inBrackets hs, by simp [split]⟩
  | case10 =>
      cases h
      exact ⟨[], .nil, rfl⟩
  | _ => cases h

/-- Where no hop begins, the path ends. -/
theorem hops_of_not_mem {last : Nat} {ls : List Lexeme}
    (h : ∀ k ∈ (ls.map (·.token)).head?, k ∉ hopSigns) : hops last ls = .ok ([], ls, last) := by
  rcases ls with _ | ⟨⟨t, p⟩, ls⟩
  · rfl
  · have ht : t ∉ hopSigns := h t rfl
    simp only [hopSigns, List.mem_cons, List.not_mem_nil, or_false, not_or] at ht
    unfold hops
    split <;> simp_all

/-- Lexemes with the tokens `k :: ts` begin with one whose token is `k`. -/
theorem exists_lexeme_of_map_eq_cons {ls : List Lexeme} {k : Token} {ts : List Token}
    (h : ls.map (·.token) = k :: ts) : ∃ p ls', ls = ⟨k, p⟩ :: ls' ∧ ls'.map (·.token) = ts := by
  rcases ls with _ | ⟨⟨t, p⟩, ls⟩
  · cases h
  · simp only [List.map_cons, List.cons.injEq] at h
    obtain ⟨rfl, h⟩ := h
    exact ⟨p, ls, rfl, h⟩

/-- The parser takes the tokens `ts` before `rest` for the hops `ss`. -/
def HopsTaken (rest ts : List Token) (ss : List Segment) : Prop :=
  ∀ (last : Nat) {ls : List Lexeme}, ls.map (·.token) = ts ++ rest →
    ∃ ls' last', hops last ls = .ok (ss, ls', last') ∧ ls'.map (·.token) = rest

theorem HopsTaken.dot {rest ts : List Token} {ss : List Segment} {t : Token} {s : Segment}
    (ht : fieldAfterDot? t = some s) (h : HopsTaken rest ts ss) :
    HopsTaken rest (.dot :: t :: ts) (s :: ss) := by
  intro last ls split
  obtain ⟨p, ls₁, rfl, split₁⟩ := exists_lexeme_of_map_eq_cons split
  obtain ⟨q, ls₂, rfl, split₂⟩ := exists_lexeme_of_map_eq_cons split₁
  obtain ⟨ls', last', taken, hrest⟩ := h q split₂
  exact ⟨ls', last', by simp [hops, ht, taken, bind, Except.bind, pure, Except.pure], hrest⟩

theorem HopsTaken.brackets {rest ts : List Token} {ss : List Segment} {t : Token} {s : Segment}
    (ht : keyInBrackets? t = some s) (h : HopsTaken rest ts ss) :
    HopsTaken rest (.leftBracket :: t :: .rightBracket :: ts) (s :: ss) := by
  intro last ls split
  obtain ⟨p, ls₁, rfl, split₁⟩ := exists_lexeme_of_map_eq_cons split
  obtain ⟨q, ls₂, rfl, split₂⟩ := exists_lexeme_of_map_eq_cons split₁
  obtain ⟨r, ls₃, rfl, split₃⟩ := exists_lexeme_of_map_eq_cons split₂
  obtain ⟨ls', last', taken, hrest⟩ := h r split₃
  exact ⟨ls', last', by simp [hops, ht, taken, bind, Except.bind, pure, Except.pure], hrest⟩

/-- Hops that no hop follows are taken. -/
theorem hops_complete {ts rest : List Token} {ss : List Segment} (h : Hops ts ss)
    (ends : ∀ k ∈ rest.head?, k ∉ hopSigns) : HopsTaken rest ts ss := by
  induction h with
  | nil =>
      intro last ls split
      exact ⟨ls, last, hops_of_not_mem (by rwa [split]), split⟩
  | field w _ ih => exact ih.dot rfl
  | item hx _ ih => exact ih.dot (by simp [fieldAfterDot?, indexOf?_eq_some_iff.mpr hx])
  | key k _ ih => exact ih.brackets rfl
  | index hx _ ih => exact ih.brackets (by simp [keyInBrackets?, indexOf?_eq_some_iff.mpr hx])

/-! ### Chains -/

/-- The operator of a chain that a token is. -/
def Chain.op? : Chain → Token → Option BinaryOp
  | .disjunction => orOp?
  | .conjunction => andOp?
  | .sum => sumOp?
  | .product => productOp?

theorem Chain.op?_eq_some_iff {c : Chain} {k : Token} {op : BinaryOp} :
    c.op? k = some op ↔ (k, op) ∈ c.signs := by
  cases c <;> cases k <;> simp [Chain.op?, Chain.signs, orOp?, andOp?, sumOp?, productOp?, eq_comm]

theorem comparisonOp?_eq_some_iff {k : Token} {op : BinaryOp} :
    comparisonOp? k = some op ↔ (k, op) ∈ comparisonSigns := by
  cases k <;> simp [comparisonOp?, comparisonSigns, eq_comm]

section

variable {c : Chain} {d : Nat} {p : Parser}

/-- Going on with a chain takes links of the chain only. -/
theorem chainFrom_sound (hp : Reads p (Derives c.operand d) c.operand.followers) {n : Nat}
    {left t : Tree} {u u' : Cursor} (h : chainFrom c.op? p n left u = .ok (t, u'))
    {ts : List Token} (hl : Derives (.chain c) d ts left) :
    ∃ us, Derives (.chain c) d (ts ++ us) t ∧ u.tokens = us ++ u'.tokens ∧
      u.nodes + left.operators = u'.nodes + t.operators := by
  induction n generalizing left u ts with
  | zero =>
      cases h
      exact ⟨[], by simpa using hl, rfl, rfl⟩
  | succ n ih =>
      unfold chainFrom at h
      cases hop : u.token?.bind c.op? with
      | none =>
          rw [hop] at h
          cases h
          exact ⟨[], by simpa using hl, rfl, rfl⟩
      | some op =>
          rw [hop] at h
          obtain ⟨⟨r, v⟩, hr, h⟩ := bind_eq_ok_iff.mp h
          obtain ⟨w, hw, h⟩ := bind_eq_ok_iff.mp h
          obtain ⟨k, hk, hkop⟩ := Option.bind_eq_some_iff.mp hop
          obtain ⟨rs, hrs, rtokens, rnodes⟩ := hp.sound hr
          obtain ⟨wtokens, wnodes⟩ := Cursor.spend_eq_ok hw
          -- the chain so far is the left operand of the link
          obtain ⟨us, hus, utokens, unodes⟩ := ih h (hl.link (Chain.op?_eq_some_iff.mp hkop) hrs)
          refine ⟨k :: rs ++ us, by simpa using hus, ?_, ?_⟩
          · rw [Cursor.tokens_eq_cons hk, rtokens, ← wtokens, utokens]
            simp
          · simp only [Tree.operators, Cursor.nodes_advance] at unodes rnodes
            omega

/-- **The loop of a chain takes a chain link by link**: whatever has been taken of
the chain is the left operand of what is still to come. -/
theorem chain_reaches (hp : Reads p (Derives c.operand d) c.operand.followers) {u : Cursor}
    {ts rest : List Token} {t : Tree} (h : Derives (.chain c) d ts t)
    (split : u.tokens = ts ++ rest) (ends : ∀ k ∈ rest.head?, k ∉ c.operand.followers)
    (enough : t.operators ≤ u.nodes) :
    ∃ n u', chain c.op? p u = chainFrom c.op? p n t u' ∧ u'.tokens = rest ∧
      u.nodes = u'.nodes + t.operators ∧ rest.length ≤ n := by
  -- on the derivation, whose last link is the outermost: the loop reaches it after
  -- the links to the left of it
  generalize ha : Category.chain c = a at h
  induction h generalizing rest with
  | operand h =>
      cases ha
      obtain ⟨u', hu', tokens, nodes⟩ := hp.complete h split ends enough
      refine ⟨u'.rest.length, u', ?_, tokens, nodes, ?_⟩
      · simp [chain, hu', bind, Except.bind]
      · rw [← tokens]; simp [Cursor.tokens]
  | @link _ _ ts us l r k op _ hk hr ih _ =>
      cases ha
      simp only [Tree.operators] at enough
      have split_left : u.tokens = ts ++ (k :: us ++ rest) := by simpa using split
      obtain ⟨n, v, hv, vtokens, vnodes, hn⟩ := ih hp split_left
        (by simpa using not_mem_followers_of_mem_signs hk) (by omega) rfl
      -- a token is left, so the loop has a round left
      obtain ⟨n, rfl⟩ : ∃ m, n = m + 1 := ⟨n - 1, by simp at hn; omega⟩
      have split_right : v.advance.tokens = us ++ rest := by simp [vtokens]
      obtain ⟨w, hw, wtokens, wnodes⟩ := hp.complete hr split_right ends (by simp; omega)
      obtain ⟨w', hw', wtokens', wnodes'⟩ := Cursor.exists_spend (c := w)
        (by simp at wnodes; omega)
      refine ⟨n, w', ?_, by rw [wtokens', wtokens], ?_, by simp at hn; omega⟩
      · have hop : v.token?.bind c.op? = some op := by
          rw [Cursor.token?_eq, vtokens]
          simpa using Chain.op?_eq_some_iff.mpr hk
        rw [hv, chainFrom, hop]
        simp [hw, hw', bind, Except.bind]
      · simp only [Tree.operators, Cursor.nodes_advance] at wnodes ⊢
        omega
  | _ => cases ha

/-- **Chains are read** if their operands are. -/
theorem Reads.chain (hp : Reads p (Derives c.operand d) c.operand.followers) :
    Reads (chain c.op? p) (Derives (.chain c) d) (Category.chain c).followers where
  sound := by
    intro u u' t h
    obtain ⟨⟨l, v⟩, hl, h⟩ := bind_eq_ok_iff.mp h
    obtain ⟨ts, hts, tokens, nodes⟩ := hp.sound hl
    obtain ⟨us, hus, utokens, unodes⟩ := chainFrom_sound hp h (.operand hts)
    exact ⟨ts ++ us, hus, by rw [tokens, utokens, List.append_assoc], by omega⟩
  complete := by
    intro u ts rest t h split ends enough
    simp only [followers_chain, List.mem_append, not_or] at ends
    obtain ⟨n, u', hu', tokens, nodes, -⟩ :=
      chain_reaches hp h split (fun k hk => (ends k hk).1) enough
    refine ⟨u', ?_, tokens, nodes⟩
    rw [hu']
    -- behind the chain stands none of its operators, so the loop stops
    cases n with
    | zero => rfl
    | succ n =>
        have hop : u'.token?.bind c.op? = none := by
          rw [Cursor.token?_eq, tokens, Option.bind_eq_none_iff]
          intro k hk
          rw [Option.eq_none_iff_forall_ne_some]
          intro op hkop
          exact (ends k hk).2 (List.mem_map_of_mem (Chain.op?_eq_some_iff.mp hkop))
        rw [chainFrom, hop]

end

/-! ### The other categories -/

theorem literalWord?_eq_some_iff {w : String} {v : Value} :
    literalWord? w = some v ↔ (w, v) ∈ literalWords := by
  unfold literalWord? literalWords
  split
  · subst_vars; simp [eq_comm]
  · split
    · subst_vars; simp [eq_comm]
    · split
      · rename_i h
        rcases h with rfl | rfl <;> simp [eq_comm]
      · simp_all

theorem literalWord?_eq_none_iff {w : String} :
    literalWord? w = none ↔ ∀ v, (w, v) ∉ literalWords := by
  simp only [Option.eq_none_iff_forall_ne_some, ne_eq, literalWord?_eq_some_iff]

theorem isNegation_iff {k : Token} : isNegation k = true ↔ k ∈ negationSigns := by
  cases k <;> simp [isNegation, negationSigns]

/-- **The parsers one level deeper read** what nests one less deep. -/
structure Deeper.Reading (deeper : Deeper) (d : Nat) : Prop where
  whole : Reads deeper.whole (Below (.chain .disjunction) d)
    (Category.chain .disjunction).followers
  negated : Reads deeper.negated (Below .negation d) Category.negation.followers
  negative : Reads deeper.negative (Below .unary d) Category.unary.followers

/-- The first lexeme has the first token. -/
theorem exists_rest_of_tokens_eq_cons {u : Cursor} {k : Token} {ts : List Token}
    (h : u.tokens = k :: ts) : ∃ p ls, u.rest = ⟨k, p⟩ :: ls ∧ ls.map (·.token) = ts :=
  exists_lexeme_of_map_eq_cons h

section

variable {deeper : Deeper} {d : Nat}

theorem reads_primary (hd : deeper.Reading d) :
    Reads (primary deeper) (Derives .primary d) Category.primary.followers where
  sound := by
    intro u u' t h
    unfold primary at h
    split at h
    case h_1 => cases h
    case h_2 x p ls hrest =>
      cases h
      exact ⟨[.number x], .number x, by simp [Cursor.tokens, hrest], rfl⟩
    case h_3 s p ls hrest =>
      cases h
      exact ⟨[.str s], .text s, by simp [Cursor.tokens, hrest], rfl⟩
    case h_4 p ls hrest =>
      obtain ⟨⟨inner, v⟩, hinner, h⟩ := bind_eq_ok_iff.mp h
      by_cases hclose : v.token? = some .rightParen
      · simp only [hclose, if_true] at h
        cases h
        obtain ⟨ts, hts, tokens, nodes⟩ := hd.whole.sound hinner
        rw [Cursor.tokens_eq_cons hclose] at tokens
        cases d with
        | zero => exact hts.elim
        | succ d =>
            refine ⟨_, .parens hts, ?_, by simpa using nodes⟩
            have hopen : u.token? = some .leftParen := by simp [Cursor.token?, hrest]
            rw [Cursor.tokens_eq_cons hopen, tokens]
            simp
      · simp only [hclose, if_false] at h
        cases h
    case h_5 w p ls hrest =>
      split at h
      · rename_i v hv
        cases h
        exact ⟨[.word w], .literal (literalWord?_eq_some_iff.mp hv),
          by simp [Cursor.tokens, hrest], rfl⟩
      · rename_i hw
        obtain ⟨⟨ss, ls', p'⟩, hhops, h⟩ := bind_eq_ok_iff.mp h
        cases h
        obtain ⟨ts, hts, split⟩ := hops_sound hhops
        exact ⟨.word w :: ts, .path (literalWord?_eq_none_iff.mp hw) hts,
          by simp [Cursor.tokens, hrest, split], rfl⟩
    case h_6 => cases h
  complete := by
    intro u ts rest t h split ends enough
    cases h with
    | number x =>
        obtain ⟨p, ls, hrest, rfl⟩ := exists_rest_of_tokens_eq_cons split
        exact ⟨{ u with rest := ls, last := p }, by simp [primary, hrest], rfl, rfl⟩
    | text s =>
        obtain ⟨p, ls, hrest, rfl⟩ := exists_rest_of_tokens_eq_cons split
        exact ⟨{ u with rest := ls, last := p }, by simp [primary, hrest], rfl, rfl⟩
    | literal hw =>
        obtain ⟨p, ls, hrest, rfl⟩ := exists_rest_of_tokens_eq_cons split
        refine ⟨{ u with rest := ls, last := p }, ?_, rfl, rfl⟩
        simp only [primary, hrest, literalWord?_eq_some_iff.mpr hw]
    | parens h =>
        obtain ⟨p, ls, hrest, -⟩ := exists_rest_of_tokens_eq_cons split
        rename_i inner
        -- a closing parenthesis goes on with no phrase
        have split_inner : u.advance.tokens = inner ++ .rightParen :: rest := by simp [split]
        obtain ⟨v, hv, vtokens, vnodes⟩ := hd.whole.complete h split_inner (by simp; decide)
          (by simpa using enough)
        refine ⟨v.advance, ?_, by simp [vtokens], by simpa using vnodes⟩
        have hclose : v.token? = some .rightParen := by simp [Cursor.token?_eq, vtokens]
        simp [primary, hrest, hv, hclose, bind, Except.bind, pure, Except.pure]
    | path hw hs =>
        obtain ⟨p, ls, hrest, tail⟩ := exists_rest_of_tokens_eq_cons split
        obtain ⟨ls', p', taken, rfl⟩ := hops_complete hs ends p tail
        refine ⟨{ u with rest := ls', last := p' }, ?_, rfl, rfl⟩
        simp [primary, hrest, literalWord?_eq_none_iff.mpr hw, taken, bind, Except.bind, pure,
          Except.pure]

theorem reads_unary (hd : deeper.Reading d) :
    Reads (unary deeper) (Derives .unary d) Category.unary.followers where
  sound := by
    intro u u' t h
    unfold unary at h
    by_cases hminus : u.token? = some .minus
    · rw [if_pos hminus] at h
      obtain ⟨⟨x, v⟩, hx, h⟩ := bind_eq_ok_iff.mp h
      obtain ⟨w, hw, h⟩ := bind_eq_ok_iff.mp h
      cases h
      obtain ⟨ts, hts, tokens, nodes⟩ := hd.negative.sound hx
      obtain ⟨wtokens, wnodes⟩ := Cursor.spend_eq_ok hw
      cases d with
      | zero => exact hts.elim
      | succ d =>
          refine ⟨.minus :: ts, .minus hts, ?_, ?_⟩
          · rw [Cursor.tokens_eq_cons hminus, tokens, wtokens, List.cons_append]
          · simp only [Tree.operators, Cursor.nodes_advance] at nodes ⊢
            omega
    · rw [if_neg hminus] at h
      obtain ⟨ts, hts, rest⟩ := (reads_primary hd).sound h
      exact ⟨ts, .primary hts, rest⟩
  complete := by
    intro u ts rest t h split ends enough
    cases h with
    | minus h =>
        simp only [Tree.operators] at enough
        have hminus : u.token? = some .minus := by simp [Cursor.token?_eq, split]
        obtain ⟨v, hv, vtokens, vnodes⟩ := hd.negative.complete (c := u.advance) h
          (by simp [split]) ends (by simp; omega)
        obtain ⟨w, hw, wtokens, wnodes⟩ := Cursor.exists_spend (c := v) (by simp at vnodes; omega)
        refine ⟨w, ?_, by rw [wtokens, vtokens], ?_⟩
        · simp [unary, hminus, hv, hw, bind, Except.bind, pure, Except.pure]
        · simp only [Tree.operators, Cursor.nodes_advance] at vnodes ⊢
          omega
    | primary h =>
        have hminus : u.token? ≠ some .minus := by
          rw [Cursor.token?_eq, split, h.head?_append]
          exact h.head?_ne_minus
        obtain ⟨v, hv, rest⟩ := (reads_primary hd).complete h split ends enough
        exact ⟨v, by rw [unary, if_neg hminus, hv], rest⟩

theorem reads_product (hd : deeper.Reading d) :
    Reads (product deeper) (Derives (.chain .product) d) (Category.chain .product).followers :=
  Reads.chain (c := .product) (reads_unary hd)

theorem reads_sum (hd : deeper.Reading d) :
    Reads (sum deeper) (Derives (.chain .sum) d) (Category.chain .sum).followers :=
  Reads.chain (c := .sum) (reads_product hd)

theorem reads_comparison (hd : deeper.Reading d) :
    Reads (comparison deeper) (Derives .comparison d) Category.comparison.followers where
  sound := by
    intro u u' t h
    obtain ⟨⟨l, v⟩, hl, h⟩ := bind_eq_ok_iff.mp h
    obtain ⟨ts, hts, tokens, nodes⟩ := (reads_sum hd).sound hl
    cases hop : v.token?.bind comparisonOp? with
    | none =>
        simp only [hop] at h
        cases h
        exact ⟨ts, .sum hts, tokens, nodes⟩
    | some op =>
        simp only [hop] at h
        obtain ⟨⟨r, w⟩, hr, h⟩ := bind_eq_ok_iff.mp h
        obtain ⟨w', hw', h⟩ := bind_eq_ok_iff.mp h
        cases h
        obtain ⟨k, hk, hkop⟩ := Option.bind_eq_some_iff.mp hop
        obtain ⟨us, hus, utokens, unodes⟩ := (reads_sum hd).sound hr
        obtain ⟨wtokens, wnodes⟩ := Cursor.spend_eq_ok (c := w) hw'
        refine ⟨_, .compare hts (comparisonOp?_eq_some_iff.mp hkop) hus, ?_, ?_⟩
        · rw [tokens, Cursor.tokens_eq_cons hk, utokens, wtokens]
          simp
        · simp only [Tree.operators, Cursor.nodes_advance] at unodes ⊢
          omega
  complete := by
    intro u ts rest t h split ends enough
    have sumEnds : ∀ k ∈ rest.head?, k ∉ sumFollowers := fun k hk hmem =>
      ends k hk (List.mem_append_left _ hmem)
    cases h with
    | sum h =>
        obtain ⟨v, hv, vtokens, vnodes⟩ := (reads_sum hd).complete h split sumEnds enough
        refine ⟨v, ?_, vtokens, vnodes⟩
        have hop : v.token?.bind comparisonOp? = none := by
          rw [Cursor.token?_eq, vtokens, Option.bind_eq_none_iff]
          intro k hk
          rw [Option.eq_none_iff_forall_ne_some]
          intro op hkop
          exact ends k hk (List.mem_append_right _
            (List.mem_map_of_mem (comparisonOp?_eq_some_iff.mp hkop)))
        simp [comparison, hv, hop, bind, Except.bind, pure, Except.pure]
    | @compare _ ts us l r k op hl hk hr =>
        simp only [Tree.operators] at enough
        have split_left : u.tokens = ts ++ (k :: us ++ rest) := by simpa using split
        obtain ⟨v, hv, vtokens, vnodes⟩ := (reads_sum hd).complete hl split_left
          (by rintro _ ⟨⟩; exact not_mem_sumFollowers_of_mem_comparisonSigns hk) (by omega)
        have split_right : v.advance.tokens = us ++ rest := by simp [vtokens]
        obtain ⟨w, hw, wtokens, wnodes⟩ := (reads_sum hd).complete hr split_right sumEnds
          (by simp; omega)
        obtain ⟨w', hw', wtokens', wnodes'⟩ := Cursor.exists_spend (c := w)
          (by simp at wnodes; omega)
        refine ⟨w', ?_, by rw [wtokens', wtokens], ?_⟩
        · have hop : v.token?.bind comparisonOp? = some op := by
            rw [Cursor.token?_eq, vtokens]
            simpa using comparisonOp?_eq_some_iff.mpr hk
          simp [comparison, hv, hop, hw, hw', bind, Except.bind, pure, Except.pure]
        · simp only [Tree.operators, Cursor.nodes_advance] at wnodes ⊢
          omega

theorem reads_negation (hd : deeper.Reading d) :
    Reads (negation deeper) (Derives .negation d) Category.negation.followers where
  sound := by
    intro u u' t h
    unfold negation at h
    cases hneg : u.token?.any isNegation with
    | true =>
        rw [if_pos hneg] at h
        obtain ⟨⟨x, v⟩, hx, h⟩ := bind_eq_ok_iff.mp h
        obtain ⟨w, hw, h⟩ := bind_eq_ok_iff.mp h
        cases h
        obtain ⟨k, hk, hkneg⟩ := (Option.any_eq_true _ _).mp hneg
        obtain ⟨ts, hts, tokens, nodes⟩ := hd.negated.sound hx
        obtain ⟨wtokens, wnodes⟩ := Cursor.spend_eq_ok (c := v) hw
        cases d with
        | zero => exact hts.elim
        | succ d =>
            refine ⟨k :: ts, .not (isNegation_iff.mp hkneg) hts, ?_, ?_⟩
            · rw [Cursor.tokens_eq_cons hk, tokens, wtokens, List.cons_append]
            · simp only [Tree.operators, Cursor.nodes_advance] at nodes ⊢
              omega
    | false =>
        rw [hneg] at h
        obtain ⟨ts, hts, tokens, nodes⟩ := (reads_comparison hd).sound h
        refine ⟨ts, .comparison ?_ hts, tokens, nodes⟩
        intro hnot
        rw [Cursor.token?_eq, tokens, hts.head?_append, hnot] at hneg
        cases hneg
  complete := by
    intro u ts rest t h split ends enough
    cases h with
    | @not _ ts t k hk h =>
        simp only [Tree.operators] at enough
        have hneg : u.token?.any isNegation = true := by
          rw [Cursor.token?_eq, split]
          exact isNegation_iff.mpr hk
        obtain ⟨v, hv, vtokens, vnodes⟩ := hd.negated.complete (c := u.advance) h
          (by simp [split]) ends (by simp; omega)
        obtain ⟨w, hw, wtokens, wnodes⟩ := Cursor.exists_spend (c := v) (by simp at vnodes; omega)
        refine ⟨w, ?_, by rw [wtokens, vtokens], ?_⟩
        · simp [negation, hneg, hv, hw, bind, Except.bind, pure, Except.pure]
        · simp only [Tree.operators, Cursor.nodes_advance] at vnodes ⊢
          omega
    | comparison hk h =>
        have hneg : u.token?.any isNegation = false := by
          rw [Cursor.token?_eq, split, h.head?_append, Option.any_eq_false]
          intro k hkt
          rw [Bool.eq_false_iff]
          intro hkneg
          -- the grammar excludes the word, and no comparison begins with the mark
          have mem := isNegation_iff.mp hkneg
          simp only [negationSigns, List.mem_cons, List.not_mem_nil, or_false] at mem
          rcases mem with rfl | rfl
          · exact h.head?_ne_bang rfl hkt
          · exact hk hkt
        obtain ⟨v, hv, rest⟩ := (reads_comparison hd).complete h split ends enough
        exact ⟨v, by rw [negation, hneg]; exact hv, rest⟩

theorem reads_conjunction (hd : deeper.Reading d) :
    Reads (conjunction deeper) (Derives (.chain .conjunction) d)
      (Category.chain .conjunction).followers :=
  Reads.chain (c := .conjunction) (reads_negation hd)

theorem reads_disjunction (hd : deeper.Reading d) :
    Reads (disjunction deeper) (Derives (.chain .disjunction) d)
      (Category.chain .disjunction).followers :=
  Reads.chain (c := .disjunction) (reads_conjunction hd)

end

/-! ### Levels -/

/-- Where no level is left, nothing is read. -/
theorem reads_exhausted {a : Category} {followers : List Token} :
    Reads (fun u => .error ⟨u.position, .nestedTooDeeply⟩) (Below a 0) followers where
  sound h := by cases h
  complete h := h.elim

/-- **The parsers with `d` levels left read what nests less than `d` deep.** -/
theorem reading_levels (d : Nat) : (levels d).Reading d := by
  induction d with
  | zero =>
      exact ⟨reads_exhausted, reads_exhausted, reads_exhausted⟩
  | succ d ih => exact ⟨reads_disjunction ih, reads_negation ih, reads_unary ih⟩

/-! ### Whole expressions -/

/-- **The grammar is unambiguous**: tokens are an expression of one tree at most,
however deep it nests and however many operators it has. -/
theorem Derives.tree_unique {d d' : Nat} {ts : List Token} {t t' : Tree}
    (h : Derives (.chain .disjunction) d ts t) (h' : Derives (.chain .disjunction) d' ts t') :
    t = t' := by
  -- One parser with room for both trees takes the tokens for both of them.
  have reads := reads_disjunction (reading_levels (max d d'))
  have split : Cursor.tokens ⟨ts.map (⟨·, 0⟩), 0, max t.operators t'.operators, 0⟩ = ts ++ [] := by
    simp [Cursor.tokens, Function.comp_def]
  obtain ⟨u, hu, -⟩ :=
    reads.complete (h.mono (Nat.le_max_left d d')) split (by simp) (Nat.le_max_left _ _)
  obtain ⟨u', hu', -⟩ :=
    reads.complete (h'.mono (Nat.le_max_right d d')) split (by simp) (Nat.le_max_right _ _)
  rw [hu] at hu'
  cases hu'
  rfl

theorem parseLexemes_sound {stop : Nat} {ls : List Lexeme} {t : Tree}
    (h : parseLexemes stop ls = .ok t) :
    Derives (.chain .disjunction) 63 (ls.map (·.token)) t ∧ t.operators ≤ 512 := by
  obtain ⟨⟨t', u⟩, hu, h⟩ := bind_eq_ok_iff.mp h
  obtain ⟨ts, hts, tokens, nodes⟩ := (reading_levels maxDepth).whole.sound hu
  cases hrest : u.rest with
  | nil =>
      simp only [hrest] at h
      cases h
      have hall : ls.map (·.token) = ts := by
        simpa [Cursor.tokens, hrest] using tokens
      refine ⟨hall ▸ hts, ?_⟩
      simp only [maxNodes] at nodes
      omega
  | cons l ls =>
      simp only [hrest] at h
      cases h

theorem parseLexemes_complete {stop : Nat} {ls : List Lexeme} {t : Tree}
    (h : Derives (.chain .disjunction) 63 (ls.map (·.token)) t) (small : t.operators ≤ 512) :
    parseLexemes stop ls = .ok t := by
  have split : (⟨ls, 0, maxNodes, stop⟩ : Cursor).tokens = ls.map (·.token) ++ [] := by
    simp [Cursor.tokens]
  obtain ⟨u, hu, tokens, -⟩ := (reading_levels maxDepth).whole.complete h split (by simp) small
  have hrest : u.rest = [] := List.map_eq_nil_iff.mp tokens
  simp [parseLexemes, hu, hrest, bind, Except.bind, pure, Except.pure]

/-- **What the parser accepts.**  A sequence of lexemes is read as a tree exactly
if its tokens are an expression of that tree, with at most 512 operators and no
token under more than 63 parentheses, negations and minuses.  There is one such
tree at most, and any other sequence is refused with a reading error. -/
theorem parseLexemes_eq_ok_iff (stop : Nat) (ls : List Lexeme) :
    (∀ t, parseLexemes stop ls = .ok t ↔
      Derives (.chain .disjunction) 63 (ls.map (·.token)) t ∧ t.operators ≤ 512) ∧
    (∀ d d' t t', Derives (.chain .disjunction) d (ls.map (·.token)) t →
      Derives (.chain .disjunction) d' (ls.map (·.token)) t' → t = t') ∧
    ((¬ ∃ t, Derives (.chain .disjunction) 63 (ls.map (·.token)) t ∧ t.operators ≤ 512) →
      ∃ e, parseLexemes stop ls = .error e) := by
  refine ⟨fun t => ⟨parseLexemes_sound, fun h => parseLexemes_complete h.1 h.2⟩,
    fun d d' t t' h h' => h.tree_unique h', fun none => ?_⟩
  cases h : parseLexemes stop ls with
  | error e => exact ⟨e, rfl⟩
  | ok t => exact absurd ⟨t, parseLexemes_sound h⟩ none

/-- In `not contains` the first word is an operator and the second a path, and the
tokens have no other tree; in `contains not contains` no operator stands between
the operands, and the tokens are refused. -/
theorem parseLexemes_not_contains :
    (Derives (.chain .disjunction) 63 [.word "not", .word "contains"]
        (.unary .not (.path [.key "contains"])) ∧
      parseLexemes 12 [⟨.word "not", 0⟩, ⟨.word "contains", 4⟩]
        = .ok (.unary .not (.path [.key "contains"])) ∧
      ∀ d t, Derives (.chain .disjunction) d [.word "not", .word "contains"] t →
        t = .unary .not (.path [.key "contains"])) ∧
    (¬ ∃ t, Derives (.chain .disjunction) 63 [.word "contains", .word "not", .word "contains"] t ∧
        t.operators ≤ 512) ∧
      ∃ e, parseLexemes 21 [⟨.word "contains", 0⟩, ⟨.word "not", 9⟩, ⟨.word "contains", 13⟩]
        = .error e := by
  have derived : Derives (.chain .disjunction) 63 [.word "not", .word "contains"]
      (.unary .not (.path [.key "contains"])) :=
    .operand (.operand (.not (by decide) (.comparison (by decide) (.sum (.operand (.operand
      (.primary (.path (by simp [literalWords]) .nil))))))))
  have accepted := parseLexemes_eq_ok_iff 12 [⟨.word "not", 0⟩, ⟨.word "contains", 4⟩]
  have refused := parseLexemes_eq_ok_iff 21
    [⟨.word "contains", 0⟩, ⟨.word "not", 9⟩, ⟨.word "contains", 13⟩]
  have none : ¬ ∃ t, Derives (.chain .disjunction) 63
      [.word "contains", .word "not", .word "contains"] t ∧ t.operators ≤ 512 := by
    rintro ⟨t, ht⟩
    have := (refused.1 t).mpr ht
    cases this
  exact ⟨⟨derived, (accepted.1 _).mpr ⟨derived, by decide⟩,
    fun d t ht => (accepted.2.1 63 d _ t derived ht).symm⟩, none, refused.2.2 none⟩

end StepFlow.Expression
