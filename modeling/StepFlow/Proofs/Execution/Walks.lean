import StepFlow.Proofs.Execution.Turns

/-!
# The walk of a run

A pipeline declares a graph: each of its steps names the steps that it can lead to.  The path
of a run is a walk in this graph, and a run completes only where its step led nowhere or to the
end marker (`Life.walks`).  Nothing is assumed about the pipeline but that its steps are declared
under their ids: a target that is not declared ends the walk, because the run fails there.

What is load-bearing is that a step which leads to itself is no move.  So a looping step that
repeats, which is no target that it names, never shows in the path (`Takes.path_cases`).
-/

namespace StepFlow

/-- **An edge of the graph that a pipeline declares**: a declared step names another one as a
target.  The end marker is no node of the graph. -/
def Pipeline.HasEdge (p : Pipeline) (a b : String) : Prop :=
  b ≠ a ∧ b ≠ endMarker ∧ ∃ s, p.step? a = some s ∧ ∃ m, (m, b) ∈ s.references

open Execution

/-- **A turn resolves the successor of a step**, and the run is to go there as `w`. -/
inductive Resolves (s : Step) : Turn → Execution → Execution → Option String → Prop
  /-- The loop of the step has ended, and the successor is its default. -/
  | ended {y u : Execution} {l : Loop} (hl : s.loop = some l)
      (decided : y.decideLoop s.id l = .ok (false, u)) :
      Resolves s .advance y (u.resetLoop s.id) s.next.default
  /-- The step was given a result, and the successor is where its route leads. -/
  | routed {t : Turn} {y u : Execution} {r : ToolResult} {route : Route}
      (given : Delivers s t y u r)
      (chosen : (u.record s.id r).chooseRoute s r.toOutcome = .ok route) :
      Resolves s t y (u.record s.id r) (nextTarget s route)

/-- **A turn chooses the successor of a step**, and the run goes there. -/
def Chooses (s : Step) (t : Turn) (y : Execution) (next : Option String) (z : Execution) : Prop :=
  ∃ w now, Resolves s t y w next ∧ z = (w.transition s next).touch now

variable {settings : Settings} {p : Pipeline} {past : List Turn} {t : Turn} {x y z u w : Execution}
  {s : Step}

/-! ### Moves -/

/-- A run that goes to targets of its step takes an edge, if it moves. -/
theorem Goes.path_cases {targets : String → Prop} (goes : Goes u targets z)
    (hs : p.step? u.current = some s)
    (named : ∀ b, targets b → b ≠ u.current → ∃ m, (m, b) ∈ s.references) :
    z.path = u.path ∨ ∃ b, z.path = u.path ++ [b] ∧ p.HasEdge u.current b := by
  cases goes with
  | ends here => exact .inl here
  | stays here => exact .inl here
  | @moves b path _ _ _ target onward away =>
    exact .inr ⟨b, path, away, onward, s, hs, named b target away⟩

/-- **A turn takes one edge**, or leaves the path as it was. -/
theorem Takes.path_cases (keyed : p.Keyed) (h : Takes settings p past t y z)
    (order : Coherent p y) :
    z.path = y.path ∨ ∃ b, z.path = y.path ++ [b] ∧ p.HasEdge y.current b := by
  cases hs : p.step? y.current with
  | none => exact .inl (h.of_undeclared order hs).1
  | some s =>
    have key := keyed _ s hs
    cases h.does hs with
    | idles => exact .inl rfl
    | fails here => exact .inl here
    | suspends entered => exact .inl entered.path
    | concludes given now =>
      have goes := given.goes order h.running hs key settings.failOnUnroutedError now
      rw [← given.current] at hs key
      rw [← given.path, ← given.current]
      refine goes.path_cases hs fun b target away => ?_
      -- a looping step that repeats stays where it is
      exact target.resolve_left fun repeats => away (repeats.2.trans key)
    | @leaves _ u l hl decided now =>
      have goes := Goes.of_leaves (order.underway (h.running rfl)) hs key hl decided now
      have decides := decides_decideLoop decided
      have current : (u.resetLoop s.id).current = y.current := decides.samePlace.current
      have path : (u.resetLoop s.id).path = y.path := decides.path
      rw [← current] at hs
      rw [← path, ← current]
      refine goes.path_cases hs fun b target _ => ⟨.next, ?_⟩
      exact (s.mem_references_iff .next b).mpr (.inl ⟨rfl, target⟩)

/-! ### The end -/

/-- A transition that completes a run has nowhere to go. -/
theorem Execution.target_eq_of_transition_completed {next : Option String}
    (running : w.status = .running) (completed : (w.transition s next).status = .completed) :
    (w.transition s next).current = w.current ∧
      ∀ target, next = some target → target = endMarker := by
  have ends := transitions_transition w s next
  generalize w.transition s next = z at ends completed
  cases ends with
  | completes ends => exact ⟨rfl, ends⟩
  | stays =>
    rw [running] at completed
    cases completed
  | moves =>
    change w.status = .completed at completed
    rw [running] at completed
    cases completed

/-- **A turn settles what becomes of the step.**  It asks a running run to stop, the run fails or
waits, or a successor is chosen. -/
theorem Takes.chooses (h : Takes settings p past t y z) (hs : p.step? y.current = some s) :
    (t = .cancel ∧ z = y) ∨ z.status = .failed ∨ z.status = .waiting ∨
      ∃ next, Chooses s t y next z := by
  cases h.does hs with
  | idles => exact .inl ⟨rfl, rfl⟩
  | fails => exact .inr (.inl rfl)
  | suspends => exact .inr (.inr (.inl rfl))
  | @concludes _ _ u r given now =>
    have ends := concludes_conclude u settings.failOnUnroutedError s r
    generalize (u.conclude settings.failOnUnroutedError s r).2 = z' at ends
    cases ends with
    | undecided => exact .inr (.inl rfl)
    | unrouted => exact .inr (.inl rfl)
    | routed chosen => exact .inr (.inr (.inr ⟨_, _, now, .routed given chosen, rfl⟩))
  | leaves hl decided now => exact .inr (.inr (.inr ⟨_, _, now, .ended hl decided, rfl⟩))

/-- A run whose successor is resolved is running where it was. -/
theorem Resolves.place {next : Option String} (resolves : Resolves s t y w next)
    (h : Takes settings p past t y z) :
    w.status = .running ∧ w.current = y.current ∧ w.path = y.path := by
  cases resolves with
  | ended hl decided =>
    have decides := decides_decideLoop decided
    exact ⟨decides.samePlace.status.trans (h.running rfl), decides.samePlace.current, decides.path⟩
  | routed given =>
    refine ⟨?_, given.current, given.path⟩
    cases given with
    | tool entered => exact entered.samePlace.status.trans (h.running rfl)
    | approval => rfl

/-- **A turn that completes a run** resolves the successor of the current step, which is absent or
the end marker. -/
theorem Takes.resolves (h : Takes settings p past t y z) (order : Coherent p y)
    (completed : z.status = .completed) :
    ∃ s w next now, p.step? y.current = some s ∧ z.current = y.current ∧ Resolves s t y w next ∧
      z = (w.transition s next).touch now ∧ ∀ target, next = some target → target = endMarker := by
  cases hs : p.step? y.current with
  | none => exact absurd completed (h.of_undeclared order hs).2
  | some s =>
    rcases h.chooses hs with ⟨-, rfl⟩ | failed | waiting | ⟨next, w, now, resolves, rfl⟩
    · have going := h.isOver
      rw [completed] at going
      cases going
    · rw [completed] at failed
      cases failed
    · rw [completed] at waiting
      cases waiting
    · obtain ⟨running, current, -⟩ := resolves.place h
      obtain ⟨here, leads⟩ := target_eq_of_transition_completed running completed
      exact ⟨s, w, next, now, rfl, here.trans current, resolves, rfl, leads⟩

/-! ### Lives -/

/-- **The path of a run is a walk in the graph that its pipeline declares**: every step on it but
the last is declared and names the next one as a target, which is another step and not the end
marker.  A run is completed only by a turn that resolved the successor of its current step, and
the successor was absent or the end marker. -/
theorem Life.walks (keyed : p.Keyed) (life : Life settings p past x) :
    x.path.IsChain p.HasEdge ∧
      (x.status = .completed → ∃ t earlier y s w next now,
        past = t :: earlier ∧ Life settings p earlier y ∧ p.step? x.current = some s ∧
          Resolves s t y w next ∧ x = (w.transition s next).touch now ∧
          ∀ target, next = some target → target = endMarker) := by
  constructor
  · induction life with
    | fresh => exact List.isChain_singleton _
    | @turn past t x y life h chain =>
      have order := life.coherent keyed
      rcases h.path_cases keyed order with here | ⟨b, path, edge⟩
      · rw [here]
        exact chain
      · rw [path]
        refine List.isChain_append.mpr ⟨chain, List.isChain_singleton b, ?_⟩
        intro a last b' only
        -- the path so far ends with the current step
        rw [order.ends] at last
        cases last
        cases only
        exact edge
  · intro completed
    cases life with
    | fresh => cases completed
    | @turn earlier t y _ life h =>
      obtain ⟨s, w, next, now, hs, current, resolves, goes, leads⟩ :=
        h.resolves (life.coherent keyed) completed
      exact ⟨t, earlier, y, s, w, next, now, rfl, life, current ▸ hs, resolves, goes, leads⟩

/-- A run that is completed at its gate, once a person has approved. -/
theorem Life.walks_reviewed :
    let p := Definition.reviewed.toPipeline "p"
    p.Keyed ∧ ∃ past x, Life {} p past x ∧ x.status = .completed ∧ x.path = ["draft", "review"] ∧
      p.HasEdge "draft" "review" ∧
      ∃ t earlier y s w next now, past = t :: earlier ∧ Life {} p earlier y ∧
        p.step? x.current = some s ∧ Resolves s t y w next ∧
        x = (w.transition s next).touch now ∧
          ∀ target, next = some target → target = endMarker := by
  intro p
  have valid : Definition.reviewed.validate = .ok () := by rfl
  have keyed := (Definition.sound_toPipeline valid "p").keyed
  obtain ⟨past, life⟩ := exists_life_reviewed
  have approved := life.turn (.response .approve (.ofMilliseconds 1) (.ofMilliseconds 1) rfl)
  obtain ⟨chain, ends⟩ := approved.walks keyed
  exact ⟨keyed, _, _, approved, rfl, rfl, (List.isChain_cons_cons.mp chain).1, ends rfl⟩

end StepFlow
