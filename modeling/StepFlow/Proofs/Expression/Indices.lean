import StepFlow.Proofs.Expression.Positions
import StepFlow.Proofs.Expression.Recognition

/-!
# The parser as a walk along an index

The parser takes lexemes off a list.  Here the same parser is written as a walk: the lexemes stay
where they are, and an index goes along them (`Place`).  Taking a lexeme adds one to the index.
Where a lexeme does not fit it has been taken already, so the walk goes back by one before it
complains, and the complaint is about the lexeme at the index, or about the end of the source if
there is none.  It goes back by subtraction, and nothing keeps the index from falling below zero
but the way the parser is built.

The walk comes to the same tree or to the same error as the parser does, and every index it has
stood at on its way is one of a lexeme or the one behind the last (`Walk.exists_run_parse`).  Both
are one statement, on a cursor that follows a walk (`Follows`): a step back is only ever taken after
a lexeme, which is why there is one to go back to.

With what is known of the lexer, whatever is complained of in a text is at a boundary of it
(`reading_within`).
-/

namespace StepFlow.Expression

/-! ### Walks -/

/-- **What a parser walks along**: the lexemes of a source, and where the source ends. -/
structure Track where
  lexemes : List Lexeme
  stop : Nat

/-- **Where a walk stands**: the index of the next lexeme, the nodes that may still be built, and
the indices at which it stood before, the latest first. -/
structure Place where
  index : Int
  nodes : Nat
  past : List Int

namespace Place

/-- Goes to an index. -/
def goTo (p : Place) (i : Int) : Place := { p with index := i, past := p.index :: p.past }

/-- All indices at which a walk has stood. -/
def trail (p : Place) : List Int := p.index :: p.past

end Place

namespace Track

/-- The lexeme at an index; there is none below zero, and none behind the last. -/
def at? (k : Track) (i : Int) : Option Lexeme := if 0 ≤ i then k.lexemes[i.toNat]? else none

/-- Where the lexeme at an index stands; the end of the source if there is none. -/
def position (k : Track) (i : Int) : Nat := ((k.at? i).map (·.position)).getD k.stop

/-- **A walk has kept to the track**: it has stood at lexemes, or behind the last one. -/
def Holds (k : Track) (p : Place) : Prop := ∀ i ∈ p.trail, 0 ≤ i ∧ i ≤ k.lexemes.length

end Track

/-- **A walk** comes to a result or to an error, and stands somewhere either way. -/
abbrev Walk := EStateM ReadError Place

namespace Walk

variable {α β : Type} (k : Track)

/-- The next token. -/
def peek : Walk (Option Token) := fun p => .ok ((k.at? p.index).map (·.token)) p

/-- Takes the next lexeme, if there is one. -/
def advance : Walk (Option Token) := fun p =>
  match k.at? p.index with
  | some l => .ok (some l.token) (p.goTo (p.index + 1))
  | none => .ok none p

/-- Goes back by one. -/
def back : Walk Unit := fun p => .ok () (p.goTo (p.index - 1))

/-- Complains about the lexeme at the index. -/
def fail (complaint : Complaint) : Walk α := fun p => .error ⟨k.position p.index, complaint⟩ p

/-- Pays for one operator node. -/
def spend : Walk Unit := fun p =>
  if p.nodes = 0 then fail k .tooComplex p else .ok () { p with nodes := p.nodes - 1 }

/-- Takes a lexeme of a certain kind, and goes back to it if it is of another. -/
def expect (kind? : Token → Option α) (complaint : Complaint) : Walk α := do
  match (← advance k).bind kind? with
  | some a => return a
  | none =>
    back
    fail k complaint

/-! ### The parser -/

/-- Goes on with a chain of operators after its left operand. -/
def chainFrom (op? : Token → Option BinaryOp) (operand : Walk Tree) : (n : Nat) → Tree → Walk Tree
  | 0, left => return left
  | n + 1, left => do
    match (← peek k).bind op? with
    | none => return left
    | some op =>
      let _ ← advance k
      let right ← operand
      spend k
      chainFrom op? operand n (.binary op left right)

/-- How many lexemes are left. -/
def left : Walk Nat := fun p => .ok (k.lexemes.length - p.index).toNat p

/-- A chain of operands between operators. -/
def chain (op? : Token → Option BinaryOp) (operand : Walk Tree) : Walk Tree := do
  let first ← operand
  chainFrom k op? operand (← left k) first

/-- The hops of a path; `n` bounds their number. -/
def hops : (n : Nat) → Walk (List Segment)
  | 0 => return []
  | n + 1 => do
    match ← peek k with
    | some .dot =>
      let _ ← advance k
      let s ← expect k fieldAfterDot? .expectedFieldName
      return s :: (← hops n)
    | some .leftBracket =>
      let _ ← advance k
      let s ← expect k keyInBrackets? .expectedKeyOrIndex
      let _ ← expect k (Option.guard (· = .rightBracket)) .expectedClosingBracket
      return s :: (← hops n)
    | _ => return []

/-- The parsers that may be entered one level deeper. -/
structure Deeper where
  whole : Walk Tree
  negated : Walk Tree
  negative : Walk Tree

/-- A literal, a path, or an expression in parentheses. -/
def primary (deeper : Deeper) : Walk Tree := do
  match ← advance k with
  | none => fail k .unexpectedEnd
  | some (.number x) => return .literal (.ofComputed x)
  | some (.str s) => return .literal (.str s)
  | some .leftParen =>
    let inner ← deeper.whole
    let _ ← expect k (Option.guard (· = .rightParen)) .expectedClosingParen
    return inner
  | some (.word w) =>
    match literalWord? w with
    | some v => return .literal v
    | none => return .path (.key w :: (← hops k (← left k)))
  | some t =>
    back
    fail k (.unexpectedToken t)

/-- An operator before its operand, if it is there. -/
def prefixed (isOp : Token → Bool) (op : UnaryOp) (operand otherwise : Walk Tree) : Walk Tree := do
  if (← peek k).any isOp then
    let _ ← advance k
    let x ← operand
    spend k
    return .unary op x
  else otherwise

/-- Minuses before a primary. -/
def unary (deeper : Deeper) : Walk Tree :=
  prefixed k (· = .minus) .negate deeper.negative (primary k deeper)

/-- A product. -/
def product (deeper : Deeper) : Walk Tree := chain k productOp? (unary k deeper)

/-- A sum. -/
def sum (deeper : Deeper) : Walk Tree := chain k sumOp? (product k deeper)

/-- A sum, or a comparison of two. -/
def comparison (deeper : Deeper) : Walk Tree := do
  let left ← sum k deeper
  match (← peek k).bind comparisonOp? with
  | none => return left
  | some op =>
    let _ ← advance k
    let right ← sum k deeper
    spend k
    return .binary op left right

/-- Negations before a comparison. -/
def negation (deeper : Deeper) : Walk Tree :=
  prefixed k isNegation .not deeper.negated (comparison k deeper)

/-- A conjunction. -/
def conjunction (deeper : Deeper) : Walk Tree := chain k andOp? (negation k deeper)

/-- A disjunction, which is any expression. -/
def disjunction (deeper : Deeper) : Walk Tree := chain k orOp? (conjunction k deeper)

/-- The parsers that may be entered with `d` levels left. -/
def levels : (d : Nat) → Deeper
  | 0 => ⟨fail k .nestedTooDeeply, fail k .nestedTooDeeply, fail k .nestedTooDeeply⟩
  | d + 1 => ⟨disjunction k (levels d), negation k (levels d), unary k (levels d)⟩

/-- **Reads all lexemes as one expression.** -/
def parse : Walk Tree := do
  let tree ← (levels k maxDepth).whole
  match ← peek k with
  | none => return tree
  | some t => fail k (.unexpectedToken t)

/-- The place from which a walk sets out. -/
def start : Place := ⟨0, maxNodes, []⟩

end Walk

/-! ### Cursors and indices -/

/-- **A cursor follows a walk** along a track. -/
structure Follows (k : Track) (c : Cursor) (p : Place) : Prop where
  holds : k.Holds p
  rest : c.rest = k.lexemes.drop p.index.toNat
  /-- The lexeme taken last is the one before the index. -/
  last : ∀ l, k.at? (p.index - 1) = some l → c.last = l.position
  nodes : c.nodes = p.nodes
  stop : c.stop = k.stop

namespace Track

variable {k : Track} {p : Place}

theorem Holds.index (h : k.Holds p) : 0 ≤ p.index ∧ p.index ≤ k.lexemes.length :=
  h p.index List.mem_cons_self

theorem Holds.goTo (h : k.Holds p) {i : Int} (low : 0 ≤ i) (high : i ≤ k.lexemes.length) :
    k.Holds (p.goTo i) :=
  List.forall_mem_cons.mpr ⟨⟨low, high⟩, h⟩

end Track

namespace Follows

variable {k : Track} {c : Cursor} {p : Place}

theorem at?_eq (h : Follows k c p) : k.at? p.index = c.rest.head? := by
  rw [h.rest, Track.at?, if_pos h.holds.index.1, List.head?_drop]

theorem token?_eq (h : Follows k c p) : (k.at? p.index).map (·.token) = c.token? := by
  rw [h.at?_eq, Cursor.token?]

theorem position_eq (h : Follows k c p) : k.position p.index = c.position := by
  rw [Track.position, h.at?_eq, Cursor.position, ← h.stop]
  cases c.rest <;> rfl

theorem length_eq (h : Follows k c p) : p.index + c.rest.length = k.lexemes.length := by
  have within := h.holds.index
  rw [h.rest, List.length_drop]
  omega

/-- A lexeme is taken. -/
theorem advance (h : Follows k c p) {l : Lexeme} {ls : List Lexeme} (next : c.rest = l :: ls) :
    Follows k c.advance (p.goTo (p.index + 1)) := by
  have within := h.holds.index
  have length := h.length_eq
  rw [next, List.length_cons] at length
  have rest : ls = k.lexemes.drop (p.index + 1).toNat := by
    have tail := congrArg List.tail (h.rest.symm.trans next)
    rw [List.tail_drop, List.tail_cons] at tail
    rw [← tail]
    congr 1
    omega
  have taken : k.at? p.index = some l := by rw [h.at?_eq, next, List.head?_cons]
  have advanced : c.advance = { c with rest := ls, last := l.position } := by
    rw [Cursor.advance, next]
  rw [advanced]
  exact
    { holds := h.holds.goTo (by omega) (by omega)
      rest
      last := fun l' here => by
        rw [Place.goTo, Int.add_sub_cancel, taken] at here
        rw [Option.some.inj here]
      nodes := h.nodes
      stop := h.stop }

/-- A step back leads to the lexeme taken last, if there is one. -/
theorem position_back (h : Follows k c p) (taken : 0 < p.index) :
    k.position (p.index - 1) = c.last := by
  have within := h.holds.index
  have inside : (p.index - 1).toNat < k.lexemes.length := by omega
  have before : k.at? (p.index - 1) = some k.lexemes[(p.index - 1).toNat] := by
    rw [Track.at?, if_pos (by omega), List.getElem?_eq_getElem inside]
  rw [h.last _ before, Track.position, before]
  rfl

end Follows

namespace Cursor

variable {c : Cursor} {t : Token} {l : Lexeme} {ls : List Lexeme}

theorem token?_nil (ends : c.rest = []) : c.token? = none := by
  rw [token?, ends]
  rfl

theorem token?_cons (next : c.rest = l :: ls) : c.token? = some l.token := by
  rw [token?, next]
  rfl

theorem exists_rest (first : c.token? = some t) : ∃ l ls, c.rest = l :: ls := by
  cases next : c.rest with
  | nil =>
    rw [token?_nil next] at first
    cases first
  | cons l ls => exact ⟨l, ls, rfl⟩

end Cursor

/-! ### The same steps -/

section Same

variable {k : Track} {α β : Type}

/-- **A walk does what a parser of cursors does**: it comes to the same result at a place that is
not before the index `i`, or it complains of the same about the lexeme at which it stands. -/
inductive Same (k : Track) (i : Int) :
    Except ReadError (α × Cursor) → EStateM.Result ReadError Place α → Prop
  | ok {a : α} {c : Cursor} {p : Place} (follows : Follows k c p) (ahead : i ≤ p.index) :
      Same k i (.ok (a, c)) (.ok a p)
  | error {p : Place} (complaint : Complaint) (holds : k.Holds p) :
      Same k i (.error ⟨k.position p.index, complaint⟩)
        (.error ⟨k.position p.index, complaint⟩ p)

theorem Same.mono {i j : Int} {x : Except ReadError (α × Cursor)}
    {r : EStateM.Result ReadError Place α} (h : Same k i x r) (le : j ≤ i) : Same k j x r := by
  cases h with
  | ok follows ahead => exact .ok follows (Int.le_trans le ahead)
  | error complaint holds => exact .error complaint holds

/-- Two parts do the same if each of them does. -/
theorem Same.bind {i j : Int} {x : Except ReadError (α × Cursor)} {w : Walk α}
    {f : α × Cursor → Except ReadError (β × Cursor)} {g : α → Walk β} {p : Place}
    (first : Same k i x (w.run p))
    (second : ∀ a c q, Follows k c q → i ≤ q.index → Same k j (f (a, c)) ((g a).run q)) :
    Same k j (x >>= f) ((w >>= g).run p) := by
  rw [EStateM.run_bind]
  generalize w.run p = r at first
  cases first with
  | ok follows ahead => exact second _ _ _ follows ahead
  | error complaint holds => exact .error complaint holds

/-- **A walk keeps pace with a parser of cursors.** -/
def KeepsPace (k : Track) (parser : Cursor → Except ReadError (α × Cursor)) (w : Walk α) : Prop :=
  ∀ ⦃c : Cursor⦄ ⦃p : Place⦄, Follows k c p → Same k p.index (parser c) (w.run p)

end Same

section Steps

variable {k : Track} {α β : Type} {c : Cursor} {p : Place} {l : Lexeme} {ls : List Lexeme}

namespace Walk

theorem run_peek_bind (h : Follows k c p) (g : Option Token → Walk β) :
    (peek k >>= g).run p = (g c.token?).run p := by
  rw [← h.token?_eq]
  rfl

theorem run_advance_bind (h : Follows k c p) (next : c.rest = l :: ls)
    (g : Option Token → Walk β) :
    (advance k >>= g).run p = (g (some l.token)).run (p.goTo (p.index + 1)) := by
  have here : k.at? p.index = some l := by rw [h.at?_eq, next, List.head?_cons]
  have step : (advance k).run p = .ok (some l.token) (p.goTo (p.index + 1)) := by
    change advance k p = _
    rw [advance, here]
  rw [EStateM.run_bind, step]

theorem run_advance_bind_end (h : Follows k c p) (none : c.rest = [])
    (g : Option Token → Walk β) : (advance k >>= g).run p = (g .none).run p := by
  have here : k.at? p.index = .none := by rw [h.at?_eq, none, List.head?_nil]
  have step : (advance k).run p = .ok .none p := by
    change advance k p = _
    rw [advance, here]
  rw [EStateM.run_bind, step]

theorem run_left_bind (h : Follows k c p) (g : Nat → Walk β) :
    (left k >>= g).run p = (g c.rest.length).run p := by
  have count : (k.lexemes.length - p.index).toNat = c.rest.length := by
    have length := h.length_eq
    omega
  rw [← count]
  rfl

end Walk

/-- Complaining of the lexeme at the index. -/
theorem Follows.fail (h : Follows k c p) (complaint : Complaint) :
    Same (α := α) k p.index (.error ⟨c.position, complaint⟩) ((Walk.fail k complaint).run p) := by
  rw [← h.position_eq]
  exact .error complaint h.holds

/-- **Going back to complain**: the complaint is about the lexeme taken last, and there is one. -/
theorem Follows.fail_back (h : Follows k c p) (taken : 0 < p.index) (i : Int)
    (complaint : Complaint) :
    Same (α := α) k i (.error ⟨c.last, complaint⟩)
      ((do Walk.back; Walk.fail k complaint : Walk α).run p) := by
  have within := h.holds.index
  rw [← h.position_back taken]
  exact .error complaint (h.holds.goTo (by omega) (by omega))

/-- **Taking a lexeme that is there**, and going on from behind it. -/
theorem Follows.take {x : Except ReadError (β × Cursor)} {g : Option Token → Walk β}
    (h : Follows k c p) (next : c.rest = l :: ls)
    (rest : ∀ q, Follows k c.advance q → p.index < q.index →
      Same k p.index x ((g (some l.token)).run q)) :
    Same k p.index x ((Walk.advance k >>= g).run p) := by
  rw [Walk.run_advance_bind h next]
  exact rest _ (h.advance next) (Int.lt_succ p.index)

/-- Paying for a node. -/
theorem Follows.spend {i : Int} (h : Follows k c p) (ahead : i ≤ p.index)
    {f : Cursor → Except ReadError (β × Cursor)} {g : Unit → Walk β}
    (rest : ∀ c q, Follows k c q → i ≤ q.index → Same k i (f c) ((g ()).run q)) :
    Same k i (c.spend >>= f) ((Walk.spend k >>= g).run p) := by
  have run : (Walk.spend k).run p =
      if p.nodes = 0 then Walk.fail k .tooComplex p else .ok () { p with nodes := p.nodes - 1 } :=
    rfl
  rw [EStateM.run_bind, run, Cursor.spend, h.nodes]
  split
  · exact (h.fail .tooComplex).mono ahead
  · exact rest _ _ ⟨h.holds, h.rest, h.last, rfl, h.stop⟩ ahead

/-! ### Lexemes of a certain kind -/

/-- Takes a lexeme of a certain kind. -/
def Cursor.expect (kind? : Token → Option α) (complaint : Complaint) (c : Cursor) :
    Except ReadError (α × Cursor) :=
  match c.token?.bind kind? with
  | some a => .ok (a, c.advance)
  | none => .error ⟨c.gap, complaint⟩

variable {kind? : Token → Option α} {complaint : Complaint}

theorem Cursor.expect_cons (next : c.rest = l :: ls) :
    c.expect kind? complaint =
      match kind? l.token with
      | some a => .ok (a, c.advance)
      | none => .error ⟨l.position, complaint⟩ := by
  rw [Cursor.expect, Cursor.token?, Cursor.gap, next]
  rfl

theorem Cursor.expect_nil (none : c.rest = []) :
    c.expect kind? complaint = .error ⟨c.last, complaint⟩ := by
  rw [Cursor.expect, Cursor.token?, Cursor.gap, none]
  rfl

/-- **Taking a lexeme of a certain kind.**  Something has been taken before, so there is a lexeme to
go back to. -/
theorem Follows.expect (h : Follows k c p) (taken : 0 < p.index) (kind? : Token → Option α)
    (complaint : Complaint) :
    Same k p.index (c.expect kind? complaint) ((Walk.expect k kind? complaint).run p) := by
  rw [Walk.expect]
  cases next : c.rest with
  | nil =>
    rw [Walk.run_advance_bind_end h next, Cursor.expect_nil next]
    exact h.fail_back taken p.index complaint
  | cons l ls =>
    rw [Cursor.expect_cons next]
    refine h.take next ?_
    intro q follows ahead
    rw [Option.bind_some]
    cases kind? l.token with
    | some a => exact .ok follows (Int.le_of_lt ahead)
    | none =>
      have last : c.advance.last = l.position := by rw [Cursor.advance, next]
      rw [← last]
      exact follows.fail_back (Int.lt_trans taken ahead) p.index complaint

/-- Taking one certain token, and going on. -/
theorem Cursor.expect_guard (t : Token) (complaint : Complaint)
    (f : Cursor → Except ReadError (β × Cursor)) :
    (c.expect (Option.guard (· = t)) complaint >>= fun a => f a.2) =
      if c.token? = some t then f c.advance else .error ⟨c.gap, complaint⟩ := by
  rw [Cursor.expect]
  cases next : c.token? with
  | none => rfl
  | some u =>
    by_cases same : u = t
    · subst same
      simp only [Option.bind_some, Option.guard, decide_true, if_true]
      rfl
    · simp only [Option.bind_some, Option.guard, same, decide_false, Bool.false_eq_true, if_false,
        Option.some.injEq]
      rfl

end Steps

/-! ### Chains -/

section Chains

variable {k : Track} {op? : Token → Option BinaryOp} {operand : Parser} {w : Walk Tree}

theorem keepsPace_chainFrom (h : KeepsPace k operand w) (n : Nat) (left : Tree) :
    KeepsPace k (chainFrom op? operand n left) (Walk.chainFrom k op? w n left) := by
  induction n generalizing left with
  | zero =>
    intro c p follows
    exact .ok follows (Int.le_refl _)
  | succ n ih =>
    intro c p follows
    rw [chainFrom, Walk.chainFrom, Walk.run_peek_bind follows]
    cases op : c.token?.bind op? with
    | none => exact .ok follows (Int.le_refl _)
    | some o =>
      obtain ⟨t, first, -⟩ := Option.bind_eq_some_iff.mp op
      obtain ⟨l, ls, next⟩ := Cursor.exists_rest first
      refine follows.take next ?_
      intro q follows ahead
      refine ((h follows).mono (Int.le_of_lt ahead)).bind ?_
      intro right c q follows ahead
      refine follows.spend ahead ?_
      intro c q follows ahead
      exact (ih _ follows).mono ahead

/-- **A walk along a chain keeps pace** if it does along the operands. -/
theorem KeepsPace.chain (h : KeepsPace k operand w) :
    KeepsPace k (chain op? operand) (Walk.chain k op? w) := by
  intro c p follows
  refine (h follows).bind ?_
  intro left c q follows ahead
  rw [Walk.run_left_bind follows]
  exact (keepsPace_chainFrom h c.rest.length left follows).mono ahead

end Chains

/-! ### Paths -/

section Paths

variable {k : Track} {c : Cursor} {p : Place}

/-- The hops of a path from a cursor. -/
def Cursor.hops (c : Cursor) : Except ReadError (List Segment × Cursor) := do
  let (ss, rest, last) ← Expression.hops c.last c.rest
  return (ss, { c with rest, last })

theorem Cursor.bind_hops {β : Type} (f : List Segment × Cursor → Except ReadError β) :
    c.hops >>= f =
      Expression.hops c.last c.rest >>= fun (ss, rest, last) => f (ss, { c with rest, last }) := by
  rw [Cursor.hops]
  cases Expression.hops c.last c.rest <;> rfl

variable {q : Nat} {ls : List Lexeme}

/-- A hop that begins with a dot. -/
theorem Cursor.hops_dot (next : c.rest = ⟨.dot, q⟩ :: ls) :
    c.hops = (do
      let (s, c) ← c.advance.expect fieldAfterDot? .expectedFieldName
      let (ss, c) ← c.hops
      return (s :: ss, c)) := by
  obtain ⟨rest, last, nodes, stop⟩ := c
  cases next
  rcases ls with _ | ⟨⟨t, r⟩, ls⟩
  · rfl
  · rw [Cursor.hops, Expression.hops, Cursor.expect_cons rfl]
    cases fieldAfterDot? t with
    | none => rfl
    | some s =>
      refine Eq.trans ?_ (Cursor.bind_hops (c := ⟨ls, r, nodes, stop⟩) _).symm
      cases Expression.hops r ls <;> rfl

/-- A hop that begins with a bracket. -/
theorem Cursor.hops_bracket (next : c.rest = ⟨.leftBracket, q⟩ :: ls) :
    c.hops = (do
      let (s, c) ← c.advance.expect keyInBrackets? .expectedKeyOrIndex
      let (_, c) ← c.expect (Option.guard (· = .rightBracket)) .expectedClosingBracket
      let (ss, c) ← c.hops
      return (s :: ss, c)) := by
  obtain ⟨rest, last, nodes, stop⟩ := c
  cases next
  rcases ls with _ | ⟨⟨t, r⟩, ls⟩
  · rfl
  · rw [Cursor.expect_cons rfl]
    rcases ls with _ | ⟨⟨u, o⟩, ls⟩
    · rw [Cursor.hops, Expression.hops]
      cases keyInBrackets? t <;> rfl
    · rw [Cursor.hops, Expression.hops]
      cases keyInBrackets? t with
      | none => rfl
      | some s =>
        refine Eq.trans ?_ (Cursor.expect_guard (c := ⟨⟨u, o⟩ :: ls, r, nodes, stop⟩)
          .rightBracket .expectedClosingBracket fun c =>
            c.hops >>= fun (ss, c) => .ok (s :: ss, c)).symm
        by_cases close : u = .rightBracket
        · subst close
          refine Eq.trans ?_ (Cursor.bind_hops (c := ⟨ls, o, nodes, stop⟩) _).symm
          cases Expression.hops o ls <;> rfl
        · have other : Cursor.token? ⟨⟨u, o⟩ :: ls, r, nodes, stop⟩ ≠ some .rightBracket :=
            fun same => close (Option.some.inj same)
          rw [if_neg other]
          simp only [if_neg close]
          rfl

/-- Where no hop begins, a cursor stays. -/
theorem Cursor.hops_end (none : ∀ t ∈ c.token?, t ∉ hopSigns) : c.hops = .ok ([], c) := by
  have first : ∀ t ∈ (c.rest.map (·.token)).head?, t ∉ hopSigns := by
    rwa [List.head?_map]
  rw [Cursor.hops, hops_of_not_mem first]
  rfl

/-- **A walk along the hops of a path keeps pace**, if it may take as many as there are lexemes. -/
theorem Follows.hops {n : Nat} (h : Follows k c p) (enough : c.rest.length ≤ n) :
    Same k p.index c.hops ((Walk.hops k n).run p) := by
  induction n generalizing c p with
  | zero =>
    have ends := Cursor.token?_nil (List.length_eq_zero_iff.mp (Nat.le_zero.mp enough))
    rw [Cursor.hops_end (by rw [ends]; exact fun t mem => nomatch mem)]
    exact .ok h (Int.le_refl _)
  | succ n ih =>
    -- fewer lexemes follow a hop, since at least its sign has been taken
    have rest : ∀ (s : Segment) (c' : Cursor) (q : Place), Follows k c' q → p.index < q.index →
        Same k p.index (c'.hops >>= fun (ss, c) => .ok (s :: ss, c))
          ((Walk.hops k n >>= fun ss => pure (s :: ss)).run q) := by
      intro s c' q follows ahead
      have fewer : c'.rest.length ≤ n := by
        have before := h.length_eq
        have after := follows.length_eq
        omega
      refine ((ih follows fewer).mono (Int.le_of_lt ahead)).bind ?_
      intro ss c q follows ahead
      exact .ok follows ahead
    rw [Walk.hops, Walk.run_peek_bind h]
    cases next : c.rest with
    | nil =>
      have ends := Cursor.token?_nil next
      rw [Cursor.hops_end (by rw [ends]; exact fun t mem => nomatch mem), ends]
      exact .ok h (Int.le_refl _)
    | cons l ls =>
      obtain ⟨t, r⟩ := l
      have first := Cursor.token?_cons next
      have low := h.holds.index.1
      rw [first]
      cases t with
      | dot =>
        rw [Cursor.hops_dot next]
        refine h.take next ?_
        intro q follows ahead
        have taken := Int.lt_of_le_of_lt low ahead
        refine (follows.expect taken fieldAfterDot? .expectedFieldName).bind ?_
        intro s c q follows ahead'
        exact rest s c q follows (Int.lt_of_lt_of_le ahead ahead')
      | leftBracket =>
        rw [Cursor.hops_bracket next]
        refine h.take next ?_
        intro q follows ahead
        have taken := Int.lt_of_le_of_lt low ahead
        refine (follows.expect taken keyInBrackets? .expectedKeyOrIndex).bind ?_
        intro s c q follows ahead'
        refine (follows.expect (Int.lt_of_lt_of_le taken ahead') _ _).bind ?_
        intro _ c q follows ahead''
        exact rest s c q follows (Int.lt_of_lt_of_le ahead (Int.le_trans ahead' ahead''))
      | _ =>
        rw [Cursor.hops_end (by rw [first]; rintro _ ⟨⟩; simp [hopSigns])]
        exact .ok h (Int.le_refl _)

end Paths

/-! ### The grammar -/

section Grammar

variable {k : Track}

/-- Walks from one level deeper keep pace. -/
structure Deeper.KeepsPace (k : Track) (d : Deeper) (w : Walk.Deeper) : Prop where
  whole : Expression.KeepsPace k d.whole w.whole
  negated : Expression.KeepsPace k d.negated w.negated
  negative : Expression.KeepsPace k d.negative w.negative

variable {d : Deeper} {w : Walk.Deeper}

theorem Deeper.KeepsPace.primary (h : d.KeepsPace k w) :
    Expression.KeepsPace k (primary d) (Walk.primary k w) := by
  rintro ⟨_ | ⟨⟨t, r⟩, ls⟩, last, nodes, stop⟩ p follows
  · rw [Walk.primary, Walk.run_advance_bind_end follows rfl]
    exact follows.fail .unexpectedEnd
  · have low := follows.holds.index.1
    refine follows.take rfl ?_
    intro q follows ahead
    have taken := Int.lt_of_le_of_lt low ahead
    cases t with
    | number x => exact .ok follows (Int.le_of_lt ahead)
    | str s => exact .ok follows (Int.le_of_lt ahead)
    | leftParen =>
      refine (h.whole follows).bind ?_
      intro inner c q follows ahead'
      have close := Cursor.expect_guard (c := c) .rightParen .expectedClosingParen
        fun c => .ok (inner, c)
      refine Eq.subst (motive := fun x => Same k _ x _) close ?_
      refine (follows.expect (Int.lt_of_lt_of_le taken ahead') _ _).bind ?_
      intro _ c q follows ahead''
      exact .ok follows (Int.le_trans (Int.le_of_lt ahead) (Int.le_trans ahead' ahead''))
    | word w =>
      simp only [Expression.primary]
      cases literalWord? w with
      | some v => exact .ok follows (Int.le_of_lt ahead)
      | none =>
        have path := Cursor.bind_hops (c := ⟨ls, r, nodes, stop⟩)
          fun (ss, c) => .ok (Tree.path (.key w :: ss), c)
        refine Eq.subst (motive := fun x => Same k _ x _) path ?_
        simp only [Walk.run_left_bind follows]
        refine ((follows.hops (Nat.le_refl _)).mono (Int.le_of_lt ahead)).bind ?_
        intro ss c q follows ahead
        exact .ok follows ahead
    | _ =>
      rw [Expression.primary]
      exact follows.fail_back taken p.index (.unexpectedToken _)

/-- **A walk past an operator before its operand keeps pace.** -/
theorem KeepsPace.prefixed (isOp : Token → Bool) (op : UnaryOp) {operand otherwise : Parser}
    {w w' : Walk Tree} (some : KeepsPace k operand w) (none : KeepsPace k otherwise w') :
    KeepsPace k
      (fun c =>
        if c.token?.any isOp then do
          let (x, c) ← operand c.advance
          let c ← c.spend
          return (.unary op x, c)
        else otherwise c)
      (Walk.prefixed k isOp op w w') := by
  intro c p follows
  simp only [Walk.prefixed, Walk.run_peek_bind follows]
  split
  · rename_i here
    obtain ⟨t, first, -⟩ := (Option.any_eq_true isOp c.token?).mp here
    obtain ⟨l, ls, next⟩ := Cursor.exists_rest first
    refine follows.take next ?_
    intro q follows ahead
    refine ((some follows).mono (Int.le_of_lt ahead)).bind ?_
    intro x c q follows ahead
    refine follows.spend ahead ?_
    intro c q follows ahead
    exact .ok follows ahead
  · exact none follows

namespace Deeper.KeepsPace

theorem unary (h : d.KeepsPace k w) : Expression.KeepsPace k (unary d) (Walk.unary k w) := by
  have minus (c : Cursor) : (c.token?.any fun t => decide (t = .minus)) = true ↔
      c.token? = some .minus := by
    cases c.token? <;> simp
  have prefixed := h.negative.prefixed (· = .minus) .negate h.primary
  simp only [minus] at prefixed
  exact prefixed

theorem product (h : d.KeepsPace k w) : Expression.KeepsPace k (product d) (Walk.product k w) :=
  h.unary.chain

theorem sum (h : d.KeepsPace k w) : Expression.KeepsPace k (sum d) (Walk.sum k w) :=
  h.product.chain

theorem comparison (h : d.KeepsPace k w) :
    Expression.KeepsPace k (comparison d) (Walk.comparison k w) := by
  intro c p follows
  refine (h.sum follows).bind ?_
  intro left c q follows ahead
  simp only [Walk.run_peek_bind follows]
  cases op : c.token?.bind comparisonOp? with
  | none => exact .ok follows ahead
  | some o =>
    obtain ⟨t, first, -⟩ := Option.bind_eq_some_iff.mp op
    obtain ⟨l, ls, next⟩ := Cursor.exists_rest first
    refine (follows.take next ?_).mono ahead
    intro q follows ahead
    refine ((h.sum follows).mono (Int.le_of_lt ahead)).bind ?_
    intro right c q follows ahead
    refine follows.spend ahead ?_
    intro c q follows ahead
    exact .ok follows ahead

theorem negation (h : d.KeepsPace k w) :
    Expression.KeepsPace k (negation d) (Walk.negation k w) :=
  h.negated.prefixed isNegation .not h.comparison

theorem disjunction (h : d.KeepsPace k w) :
    Expression.KeepsPace k (disjunction d) (Walk.disjunction k w) :=
  h.negation.chain.chain

end Deeper.KeepsPace

/-- **Walks keep pace however many levels are left.** -/
theorem keepsPace_levels (n : Nat) : (levels n).KeepsPace k (Walk.levels k n) := by
  induction n with
  | zero =>
    have exhausted : KeepsPace (α := Tree) k (fun c => .error ⟨c.position, .nestedTooDeeply⟩)
        (Walk.fail k .nestedTooDeeply) := fun c p follows => follows.fail .nestedTooDeeply
    exact ⟨exhausted, exhausted, exhausted⟩
  | succ n ih => exact ⟨ih.disjunction, ih.negation, ih.unary⟩

end Grammar

/-! ### The whole parser -/

namespace Walk

theorem follows_start (ls : List Lexeme) (stop : Nat) :
    Follows ⟨ls, stop⟩ ⟨ls, 0, maxNodes, stop⟩ start where
  holds := List.forall_mem_singleton.mpr ⟨Int.le_refl 0, Int.natCast_nonneg ls.length⟩
  rest := rfl
  last l here := by simp [Track.at?, start] at here
  nodes := rfl
  stop := rfl

/-- A walk that ends at a place with what a reading comes to. -/
def ends {α : Type} (p : Place) : Except ReadError α → EStateM.Result ReadError Place α
  | .ok a => .ok a p
  | .error e => .error e p

/-- **The walk does what the parser does**: it comes to the same tree, or to the same error about
the lexeme at which it stands in the end, and it has kept to the track. -/
theorem exists_run_parse (stop : Nat) (ls : List Lexeme) :
    ∃ p, (parse ⟨ls, stop⟩).run start = ends p (parseLexemes stop ls) ∧
      (⟨ls, stop⟩ : Track).Holds p ∧
      ∀ e, parseLexemes stop ls = .error e →
        e.position = (⟨ls, stop⟩ : Track).position p.index := by
  have same := (keepsPace_levels maxDepth).whole (follows_start ls stop)
  rw [parseLexemes, parse, EStateM.run_bind]
  generalize (levels ⟨ls, stop⟩ maxDepth).whole.run start = r at same ⊢
  generalize (Expression.levels maxDepth).whole ⟨ls, 0, maxNodes, stop⟩ = x at same ⊢
  cases same with
  | @error p complaint holds =>
    refine ⟨p, rfl, holds, ?_⟩
    rintro _ ⟨⟩
    rfl
  | @ok tree c p follows ahead =>
    simp only [run_peek_bind follows]
    obtain ⟨_ | ⟨l, rest⟩, last, nodes, final⟩ := c
    · refine ⟨p, rfl, follows.holds, ?_⟩
      rintro _ ⟨⟩
    · have here : l.position = Track.position ⟨ls, stop⟩ p.index := by
        rw [follows.position_eq, Cursor.position]
      refine ⟨p, ?_, follows.holds, ?_⟩
      · change _ = EStateM.Result.error (ReadError.mk l.position _) p
        rw [here]
        rfl
      · rintro _ ⟨⟩
        exact here

end Walk

/-! ### Whole texts -/

section Source

variable {source : String} {ls : List Lexeme} {e : ReadError}

/-- Every index of a track leads to a boundary: to a lexeme, or to the end of the source. -/
theorem isBoundary_position (read : tokenize source = .ok ls) (i : Int) :
    IsBoundary source (Track.position ⟨ls, source.utf8ByteSize⟩ i) := by
  rw [Track.position]
  cases here : Track.at? ⟨ls, source.utf8ByteSize⟩ i with
  | none => exact isBoundary_end source
  | some l =>
    have mem : l ∈ ls := by
      rw [Track.at?] at here
      split at here
      · exact List.mem_of_getElem? here
      · cases here
    exact ((placed_of_tokenize read).2 l mem).1

/-- Where reading a text complains. -/
theorem isBoundary_of_parse (failed : parse source = .error e) : IsBoundary source e.position := by
  rw [parse] at failed
  cases read : tokenize source with
  | error complaint =>
    rw [read] at failed
    cases failed
    exact isBoundary_of_tokenize read
  | ok ls =>
    obtain ⟨p, -, -, position⟩ := Walk.exists_run_parse source.utf8ByteSize ls
    rw [read] at failed
    change (parseLexemes source.utf8ByteSize ls >>= _) = _ at failed
    cases outcome : parseLexemes source.utf8ByteSize ls with
    | error complaint =>
      rw [outcome] at failed
      cases failed
      rw [position e outcome]
      exact isBoundary_position read p.index
    | ok tree =>
      rw [outcome] at failed
      cases failed

end Source

/-- **Reading a text stays within it.**  The lexer stops, after at most one turn for each character.
Its lexemes stand at boundaries of the text, each behind the one before and all before the end.
Whatever is complained of is at a boundary too, be it the lexer or the parser that complains.  And
the parser, as a walk along an index, has only stood at lexemes or behind the last one. -/
theorem reading_within (source : String) :
    (((Scan.start source).turns source.length).map (·.lexemes) = tokenize source ∧
      ∀ s, (Scan.start source).turns source.length = .ok s → s.rest = []) ∧
    (∀ ls, tokenize source = .ok ls →
      Ascend ls ∧ ∀ l ∈ ls, IsBoundary source l.position ∧ l.position < source.utf8ByteSize) ∧
    (∀ e, parse source = .error e →
      IsBoundary source e.position ∧ e.position ≤ source.utf8ByteSize) ∧
    ∀ ls, tokenize source = .ok ls → ∃ p,
      (Walk.parse ⟨ls, source.utf8ByteSize⟩).run Walk.start =
          Walk.ends p (parseLexemes source.utf8ByteSize ls) ∧
        ∀ i ∈ p.trail, 0 ≤ i ∧ i ≤ ls.length := by
  have length : (Scan.start source).rest.length ≤ source.length :=
    Nat.le_of_eq source.length_toList
  refine ⟨?_, fun ls read => placed_of_tokenize read, fun e failed => ?_, fun ls read => ?_⟩
  · rw [← Scan.answer_start]
    exact Scan.turns_eq length
  · have boundary := isBoundary_of_parse failed
    exact ⟨boundary, boundary.le⟩
  · obtain ⟨p, run, holds, -⟩ := Walk.exists_run_parse source.utf8ByteSize ls
    exact ⟨p, run, holds⟩

/-- The lexemes of `é.a[`, whose first letter takes two bytes. -/
def cutOff : List Lexeme := [⟨.word "é", 0⟩, ⟨.dot, 2⟩, ⟨.word "a", 3⟩, ⟨.leftBracket, 4⟩]

/-- The text ends after the bracket, so the walk goes back to it from behind the last lexeme. -/
theorem reading_within_cutOff :
    tokenize "é.a[" = .ok cutOff ∧ parse "é.a[" = .error ⟨4, .expectedKeyOrIndex⟩ ∧
      Ascend cutOff ∧ IsBoundary "é.a[" 4 ∧ ¬ IsBoundary "é.a[" 1 ∧
        (Walk.parse ⟨cutOff, 5⟩).run Walk.start =
          .error ⟨4, .expectedKeyOrIndex⟩ ⟨3, 512, [4, 3, 2, 1, 0]⟩ ∧
        ∃ p, (Walk.parse ⟨cutOff, 5⟩).run Walk.start = Walk.ends p (parseLexemes 5 cutOff) ∧
          ∀ i ∈ p.trail, 0 ≤ i ∧ i ≤ 4 := by
  have read : tokenize "é.a[" = .ok cutOff := by rfl
  have failed : parse "é.a[" = .error ⟨4, .expectedKeyOrIndex⟩ := by rfl
  obtain ⟨-, placed, complaint, kept⟩ := reading_within "é.a["
  exact
    ⟨read, failed, (placed cutOff read).1, (complaint _ failed).1, by decide, by rfl,
      kept cutOff read⟩

end StepFlow.Expression
