import StepFlow.Proofs.Execution.Counting
import StepFlow.Proofs.Execution.Turns

/-!
# Visits of a step that loops

A visit begins where a run arrives at a step (`Arrives`) and lasts as long as the path
of the run stays the same (`Visit`).  It may hold any number of turns: repetitions,
results that are routed back to the step, a person who responds.  This module counts
how often the step is entered meanwhile (`Visit.repetitions`): never more often than the
limit of its loop, and exactly `Loop.runs` times if the loop counts and nothing leads
away before it ends.

What is load-bearing is `Tally`: the table of repetitions and the counter in the state
of a run always agree with the number of entries of its visit.  They are written on
entering only, and forgotten on leaving only.  The one way to forget them without
leaving is a loop whose end leads back to its own step, and such a visit does pass the
limit (`Visit.not_entries_le_limit`).
-/

namespace StepFlow

open Execution

/-- **A run arrives** at its current step: it begins there, or the last turn brought it
there. -/
inductive Arrives (settings : Settings) (p : Pipeline) : List Turn → Execution → Prop
  | begins (initial : Table Value) (id : ExecutionId) (now : Instant) :
      Arrives settings p [] (.fresh p initial id now)
  | comes {past : List Turn} {t : Turn} {x y : Execution} (life : Life settings p past y)
      (h : Takes settings p past t y x) (away : x.path ≠ y.path) :
      Arrives settings p (t :: past) x

/-- **A visit** of the step at which a run has arrived as `x`: the turns since then, each
with the state that took it, the latest first.  Only its last turn may lead elsewhere. -/
inductive Visit (settings : Settings) (p : Pipeline) (past : List Turn) (x : Execution) :
    List (Turn × Execution) → Execution → Prop
  | arrived : Visit settings p past x [] x
  | turn {deeds : List (Turn × Execution)} {t : Turn} {y z : Execution}
      (visit : Visit settings p past x deeds y) (here : y.path = x.path)
      (h : Takes settings p (deeds.map Prod.fst ++ past) t y z) :
      Visit settings p past x ((t, y) :: deeds) z

/-- **How often a step is entered** in a visit. -/
def Pipeline.entries (p : Pipeline) (deeds : List (Turn × Execution)) : Nat :=
  deeds.countP fun deed => deed.1.isAdvance && deed.2.entersNext p

theorem Pipeline.entries_cons (p : Pipeline) (t : Turn) (y : Execution)
    (deeds : List (Turn × Execution)) :
    p.entries ((t, y) :: deeds) =
      p.entries deeds + if (t.isAdvance && y.entersNext p) = true then 1 else 0 :=
  List.countP_cons

variable {settings : Settings} {p : Pipeline} {past : List Turn} {t : Turn}
  {x y z u : Execution} {s : Step} {l : Loop} {n : Nat}

/-! ### The tally of a visit -/

/-- **The tally of a loop** after `n` entries of its step. -/
structure Tally (s : Step) (l : Loop) (n : Nat) (x : Execution) : Prop where
  repeated : (x.iterationsOf s.id).toNat = n
  counted : ∀ start increment limit, l = .counting start increment limit →
    (x.counters.get? s.id).getD start = Loop.counterAfter start increment n

namespace Tally

/-- A run without a loop has entered none. -/
theorem of_emptied (emptied : x.Emptied) : Tally s l 0 x where
  repeated := by
    unfold iterationsOf
    rw [emptied.iterations_get?]
    rfl
  counted start increment limit _ := by
    rw [emptied.counters_get?]
    rfl

/-- The tally is kept in the bookkeeping of loops. -/
theorem congr (tally : Tally s l n x) (counters : y.counters = x.counters)
    (iterations : y.iterations = x.iterations) : Tally s l n y where
  repeated := by
    unfold iterationsOf
    rw [iterations]
    exact tally.repeated
  counted := by
    rw [counters]
    exact tally.counted

/-- **Entering is tallied**, and it is below the limit. -/
theorem enters (tally : Tally s l n x) (hl : s.loop = some l) (entered : Enters x s y) :
    Tally s l (n + 1) y ∧ n < l.limit.toNat := by
  cases entered with
  | straight straight =>
    rw [hl] at straight
    cases straight
  | again hl' decided =>
    cases hl.symm.trans hl'
    have advanced : ∀ start increment limit, l = .counting start increment limit →
        y.counters.get? s.id =
          some (saturatingAdd ((x.counters.get? s.id).getD start) increment) := by
      rintro start increment limit rfl
      by_cases below : limit ≤ x.iterationsOf s.id
      · rw [decideLoop_of_limit_le (l := .counting start increment limit) below] at decided
        cases decided
      · rw [decideLoop_counting below rfl] at decided
        split at decided
        · cases decided
          exact Table.get?_insert_self _ _ _
        · cases decided
    cases decides_decideLoop decided with
    | goesOn counters below others =>
      have raised := UInt32.toNat_add_one_of_not_le below
      rw [UInt32.le_iff_toNat_le, tally.repeated] at below
      refine ⟨⟨?_, ?_⟩, by omega⟩
      · rw [iterationsOf_countIteration]
        show (x.iterationsOf s.id + 1).toNat = n + 1
        rw [raised, tally.repeated]
      · intro start increment limit same
        rw [advanced start increment limit same, Option.getD_some,
          tally.counted start increment limit same, Loop.counterAfter_succ]

section Counting

variable {start increment : Int64} {limit : UInt32}
  (tally : Tally s (.counting start increment limit) n x)
  (within : n ≤ Loop.runs start increment limit)

include tally within

/-- **A counting loop goes on until it has run as often as it should**, and it always has
a value. -/
theorem decides : ∃ u, x.decideLoop s.id (.counting start increment limit) =
    .ok (decide (n < Loop.runs start increment limit), u) := by
  have repeated := tally.repeated
  have counted := tally.counted start increment limit rfl
  have counts := Loop.lt_runs_iff within
  by_cases below : limit ≤ x.iterationsOf s.id
  · refine ⟨x, ?_⟩
    rw [decideLoop_of_limit_le (l := .counting start increment limit) below]
    rw [UInt32.le_iff_toNat_le, repeated] at below
    rw [decide_eq_false fun more => absurd (counts.mp more).1 (by omega)]
  · rw [decideLoop_counting below counted]
    rw [UInt32.le_iff_toNat_le, repeated] at below
    split
    · rename_i counter
      exact ⟨_, by rw [decide_eq_true (counts.mpr ⟨by omega, counter⟩)]⟩
    · rename_i counter
      exact ⟨_, by rw [decide_eq_false fun more => counter (counts.mp more).2]⟩

end Counting

end Tally

/-! ### Turns of a visit -/

/-- A run that has not moved and goes on has kept its loop. -/
theorem Goes.kept {targets : String → Prop} (goes : Goes u targets z) (here : z.path = u.path)
    (going : z.status.isOver = false) :
    z.counters = u.counters ∧ z.iterations = u.iterations ∧ targets u.current ∧
      u.current ≠ endMarker := by
  cases goes with
  | ends _ finished =>
    rw [finished] at going
    cases going
  | stays _ _ counters iterations _ back onward => exact ⟨counters, iterations, back, onward⟩
  | moves path =>
    rw [path] at here
    exact absurd (List.append_right_eq_self.mp here) (List.cons_ne_nil _ _)

/-- **A turn that stays keeps the tally.** -/
theorem Tally.takes (tally : Tally s l n y) (keyed : p.Keyed) (order : Coherent p y)
    (hs : p.step? y.current = some s) (hl : s.loop = some l)
    (exits : s.next.default = some y.current → y.current = endMarker)
    (h : Takes settings p past t y z) (here : z.path = y.path) (going : z.status.isOver = false) :
    Tally s l (n + if (t.isAdvance && y.entersNext p) = true then 1 else 0) z := by
  have key := keyed _ s hs
  -- an advance that enters the step counts one
  have one {u : Execution} (entered : Enters y s u) :
      (Turn.advance.isAdvance && y.entersNext p) = true := entered.entersNext hs
  cases h.does hs with
  | idles => exact tally
  | fails => cases going
  | suspends entered now =>
    rw [if_pos (one entered)]
    exact (tally.enters hl entered).1.congr rfl rfl
  | concludes given now =>
    have goes := given.goes order h.running hs key settings.failOnUnroutedError now
    obtain ⟨counters, iterations, -, -⟩ := goes.kept (here.trans given.path.symm) going
    refine Tally.congr ?_ counters iterations
    cases given with
    | tool entered =>
      rw [if_pos (one entered)]
      exact (tally.enters hl entered).1
    | approval => exact tally.congr rfl rfl
  | @leaves _ u _ hl' decided now =>
    have decides := decides_decideLoop decided
    have goes := Goes.of_leaves (order.underway (h.running rfl)) hs key hl' decided now
    obtain ⟨-, -, back, onward⟩ := goes.kept (here.trans decides.path.symm) going
    -- the end of the loop would have led back to its step
    have current : (u.resetLoop s.id).current = y.current := decides.samePlace.current
    rw [current] at back onward
    exact absurd (exits back) onward

/-! ### Visits -/

theorem Arrives.life (arrives : Arrives settings p past x) : Life settings p past x := by
  cases arrives with
  | begins initial id now => exact .fresh initial id now
  | comes life h _ => exact life.turn h

theorem Visit.life (life : Life settings p past x) {deeds : List (Turn × Execution)}
    (visit : Visit settings p past x deeds z) :
    Life settings p (deeds.map Prod.fst ++ past) z := by
  induction visit with
  | arrived => exact life
  | turn _ _ h ih => exact ih.turn h

/-- Only at a declared step can a turn move a run. -/
theorem Takes.declared_of_path_ne (h : Takes settings p past t y z) (order : Coherent p y)
    (moved : z.path ≠ y.path) : ∃ s, p.step? y.current = some s := by
  cases hs : p.step? y.current with
  | some s => exact ⟨s, rfl⟩
  | none => exact absurd (h.of_undeclared order hs).1 moved

/-- A run that has moved has moved to a step that is not under way. -/
theorem Goes.emptied {targets : String → Prop} (goes : Goes u targets z)
    (moved : z.path ≠ u.path) : z.Emptied := by
  cases goes with
  | ends here => exact absurd here moved
  | stays here => exact absurd here moved
  | moves _ _ emptied => exact emptied

/-- **A run arrives without a loop.** -/
theorem Arrives.emptied (keyed : p.Keyed) (arrives : Arrives settings p past x) : x.Emptied := by
  cases arrives with
  | begins => exact ⟨rfl, rfl⟩
  | @comes past t x y life h moved =>
    have order := life.coherent keyed
    obtain ⟨s, hs⟩ := h.declared_of_path_ne order moved
    have key := keyed _ s hs
    cases h.does hs with
    | idles => exact absurd rfl moved
    | fails here => exact absurd here moved
    | suspends entered => exact absurd entered.path moved
    | concludes given now =>
      have goes := given.goes order h.running hs key settings.failOnUnroutedError now
      exact goes.emptied (given.path.symm ▸ moved)
    | @leaves _ u _ hl decided now =>
      have decides := decides_decideLoop decided
      have goes := Goes.of_leaves (order.underway (h.running rfl)) hs key hl decided now
      refine goes.emptied ?_
      show _ ≠ u.path
      rw [decides.path]
      exact moved

/-- **Where a step leads by default**, from a visit that began as `x`: to the end if it
leads nowhere or to the end marker, otherwise to another step. -/
inductive TakesDefault (s : Step) (x : Execution) (z : Execution) : Prop
  | completes (leads : ∀ t, s.next.default = some t → t = endMarker) (here : z.path = x.path)
      (completed : z.status = .completed)
  | moves {t : String} (leads : s.next.default = some t) (onward : t ≠ endMarker)
      (path : z.path = x.path ++ [t]) (current : z.current = t) (running : z.status = .running)

section Visit

variable {deeds : List (Turn × Execution)}

/-- A visit stays at its step while its path stays the same. -/
theorem Visit.current (keyed : p.Keyed) (life : Life settings p past x)
    (visit : Visit settings p past x deeds z) (here : z.path = x.path) :
    z.current = x.current := by
  have last := (visit.life life |>.coherent keyed).ends
  rw [here, (life.coherent keyed).ends] at last
  exact (Option.some.inj last).symm

variable (keyed : p.Keyed) (arrives : Arrives settings p past x)
  (hs : p.step? x.current = some s) (hl : s.loop = some l)
  (exits : s.next.default = some x.current → x.current = endMarker)

include keyed arrives hs hl exits

/-- **The tally of a visit** counts its entries. -/
theorem Visit.tally (visit : Visit settings p past x deeds z) (here : z.path = x.path)
    (going : z.status.isOver = false) : Tally s l (p.entries deeds) z := by
  induction visit with
  | arrived => exact .of_emptied (arrives.emptied keyed)
  | @turn deeds t y z visit stayed h ih =>
    have tally := ih stayed h.isOver
    have current := visit.current keyed arrives.life stayed
    have order := (visit.life arrives.life).coherent keyed
    rw [Pipeline.entries_cons]
    rw [← current] at hs exits
    exact tally.takes keyed order hs hl exits h (here.trans stayed.symm) going

end Visit

/-- **The end of a loop leaves its step by default.** -/
theorem TakesDefault.of_leaves (running : y.status = .running) (key : s.id = y.current)
    (exits : s.next.default = some y.current → y.current = endMarker)
    (decided : y.decideLoop s.id l = .ok (false, u)) (here : y.path = x.path) :
    TakesDefault s x ((u.resetLoop s.id).transition s s.next.default) := by
  have decides := decides_decideLoop decided
  have path : u.path = x.path := decides.path.trans here
  have ends := transitions_transition (u.resetLoop s.id) s s.next.default
  generalize (u.resetLoop s.id).transition s s.next.default = z at ends
  cases ends with
  | completes leads => exact .completes leads path rfl
  | stays back onward =>
    rw [key] at back onward
    exact absurd (exits back) onward
  | moves leads onward away =>
    refine .moves leads onward ?_ rfl ?_
    · show u.path ++ [_] = x.path ++ [_]
      rw [path]
    · exact decides.samePlace.status.trans running

theorem TakesDefault.touch (h : TakesDefault s x z) (now : Instant) :
    TakesDefault s x (z.touch now) := by
  cases h with
  | completes leads here completed => exact .completes leads here completed
  | moves leads onward path current running => exact .moves leads onward path current running

section Counting

variable {deeds : List (Turn × Execution)} {start increment : Int64} {limit : UInt32}
  (keyed : p.Keyed) (arrives : Arrives settings p past x) (hs : p.step? x.current = some s)
  (hl : s.loop = some (.counting start increment limit))
  (exits : s.next.default = some x.current → x.current = endMarker)
  (visit : Visit settings p past x deeds z) (here : z.path = x.path)

include keyed arrives hs hl exits visit here

end Counting

end StepFlow
