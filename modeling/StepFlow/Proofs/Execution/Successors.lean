import StepFlow.Proofs.Execution.Safety
import StepFlow.Proofs.Execution.Walks

/-!
# Where a chosen successor leads

Validation takes the declared steps and the end marker for one set of targets.  A run asks for
the end marker first, then whether the successor is the current step, and moves to the successor
otherwise.  So a successor that is declared is where the run goes on, unless a step is declared
under the end marker itself: that step can only be where a run starts
(`Life.follows_successor`, `Life.not_forall_reaches_declared`).

What is load-bearing is that every successor is declared or the end marker
(`Chooses.isTarget`), whichever way it was found.
-/

namespace StepFlow

open Execution

variable {settings : Settings} {p : Pipeline} {past : List Turn} {t : Turn} {y z w : Execution}
  {s : Step} {next : Option String}

/-- **A run that goes on at a step** is running there, and its path shows the step, once if it
was there before. -/
structure Execution.GoesOnAt (y : Execution) (target : String) (z : Execution) : Prop where
  running : z.status = .running
  current : z.current = target
  path : z.path = if target = y.current then y.path else y.path ++ [target]

/-- **A run that is completed where it is** has moved to no other step. -/
structure Execution.CompletesHere (y z : Execution) : Prop where
  completed : z.status = .completed
  current : z.current = y.current
  path : z.path = y.path

/-- **A successor is declared or the end marker**, in a pipeline that is sound. -/
theorem Chooses.isTarget (sound : p.Sound) (hs : p.step? y.current = some s)
    (chooses : Chooses s t y next z) {target : String} (leads : next = some target) :
    target = endMarker ∨ ∃ s', p.step? target = some s' := by
  obtain ⟨w, now, resolves, -⟩ := chooses
  cases resolves with
  | ended =>
    apply sound.targets _ s hs .next target
    exact (s.mem_references_iff .next target).mpr (.inl ⟨rfl, leads⟩)
  | routed given chosen =>
    unfold nextTarget at leads
    split at leads
    · -- a looping step goes on with itself
      cases leads
      rw [sound.keyed _ s hs]
      exact .inr ⟨s, hs⟩
    · obtain ⟨m, listed⟩ := mem_references_of_chooseRoute chosen leads
      exact sound.targets _ s hs m target listed

/-- **A run goes on at its successor**, if that is not the end marker. -/
theorem Chooses.goesOnAt (h : Takes settings p past t y z) (key : s.id = y.current)
    {target : String} (chooses : Chooses s t y (some target) z) (onward : target ≠ endMarker) :
    y.GoesOnAt target z := by
  obtain ⟨w, now, resolves, rfl⟩ := chooses
  obtain ⟨running, current, path⟩ := resolves.place h
  have goes := transitions_transition w s (some target)
  generalize w.transition s (some target) = z at goes
  cases goes with
  | completes ends => exact absurd (ends target rfl) onward
  | stays back =>
    have here : target = y.current := (Option.some.inj back).trans key
    exact ⟨running, current.trans here.symm, by rw [if_pos here]; exact path⟩
  | moves leads _ away =>
    cases leads
    have away : target ≠ y.current := key ▸ away
    refine ⟨running, rfl, ?_⟩
    rw [if_neg away]
    exact congrArg (· ++ [target]) path

/-- **A run without a successor is completed**, and so is one whose successor is the end
marker. -/
theorem Chooses.completesHere (h : Takes settings p past t y z) (chooses : Chooses s t y next z)
    (ends : ∀ target, next = some target → target = endMarker) : y.CompletesHere z := by
  obtain ⟨w, now, resolves, rfl⟩ := chooses
  obtain ⟨-, current, path⟩ := resolves.place h
  have goes := transitions_transition w s next
  generalize w.transition s next = z at goes
  cases goes with
  | completes => exact ⟨rfl, current, path⟩
  | stays back onward => exact absurd (ends _ back) onward
  | moves leads onward => exact absurd (ends _ leads) onward

/-- **A run follows the successor that it chooses.**  Every turn of a run of a valid definition
asks it to stop, fails it, makes it wait, or chooses the successor of the current step.  A
successor other than the end marker is declared, and the run goes on there.  Without a successor
the run is completed; and so it is if the end marker is chosen at a step of another name,
whether or not a step is declared under it. -/
theorem Life.follows_successor {d : Definition} (valid : d.validate = .ok ()) {id : String}
    (life : Life settings (d.toPipeline id) past y)
    (turn : Takes settings (d.toPipeline id) past t y z) :
    ∃ s, (d.toPipeline id).step? y.current = some s ∧
      ((t = .cancel ∧ z = y) ∨ z.status = .failed ∨ z.status = .waiting ∨
        ∃ next, Chooses s t y next z) ∧
      (∀ target, Chooses s t y (some target) z → target ≠ endMarker →
        (∃ s', (d.toPipeline id).step? target = some s') ∧ y.GoesOnAt target z) ∧
      (Chooses s t y none z → y.CompletesHere z) ∧
      (y.current ≠ endMarker → Chooses s t y (some endMarker) z → y.CompletesHere z) := by
  have sound := Definition.sound_toPipeline valid id
  obtain ⟨s, hs⟩ := (life.safe sound).declared
  refine ⟨s, hs, turn.chooses hs, ?_, ?_, ?_⟩
  · intro target chooses onward
    have declared := (chooses.isTarget sound hs rfl).resolve_left onward
    exact ⟨declared, chooses.goesOnAt turn (sound.keyed _ s hs) onward⟩
  · exact fun chooses => chooses.completesHere turn nofun
  · exact fun _ chooses => chooses.completesHere turn fun _ leads => (Option.some.inj leads).symm

/-- A step that is repeated goes on, and so does the run when the loop has ended: the first two
turns at the draft choose the draft again, and the third chooses the review. -/
theorem Life.follows_successor_reviewed :
    let p := Definition.reviewed.toPipeline "p"
    let x := Execution.fresh p .empty ⟨0⟩ (.ofMilliseconds 0)
    let after (x : Execution) := (Host.agreeable.advance {} p x ()).1.touch (.ofMilliseconds 0)
    x.GoesOnAt "draft" (after x) ∧
      (after (after x)).GoesOnAt "review" (after (after (after x))) := by
  intro p x after
  have valid : Definition.reviewed.validate = .ok () := by rfl
  let draft : Step :=
    { id := "draft", tool := "write", next.default := some "review",
      loop := some (.counting 0 1 2) }
  let answer : ToolResult := ⟨.succeeded none, .instantaneous (.ofMilliseconds 0)⟩
  have first : Takes {} p [] .advance x (after x) :=
    .advance Host.agreeable () (.ofMilliseconds 0) rfl nofun
  have second : Takes {} p [.advance] .advance (after x) (after (after x)) :=
    .advance Host.agreeable () (.ofMilliseconds 0) rfl nofun
  have third : Takes {} p [.advance, .advance] .advance (after (after x))
      (after (after (after x))) := .advance Host.agreeable () (.ofMilliseconds 0) rfl nofun
  have fresh : Life {} p [] x := .fresh .empty ⟨0⟩ (.ofMilliseconds 0)
  constructor
  · obtain ⟨s, hs, -, goes, -⟩ := Life.follows_successor valid fresh first
    cases hs
    have again : Chooses draft .advance x (nextTarget draft (.default (some "review"))) (after x) :=
      ⟨_, _, .routed (.tool (.again rfl rfl) rfl answer) rfl, rfl⟩
    exact (goes "draft" again (by decide)).2
  · obtain ⟨s, hs, -, goes, -⟩ :=
      Life.follows_successor valid ((fresh.turn first).turn second) third
    cases hs
    exact (goes "review" ⟨_, _, .ended rfl rfl, rfl⟩ (by decide)).2

/-- A step that leads to the end marker by default, under which another step is declared. -/
def Definition.closing : Definition where
  name := "closing"
  start := "draft"
  steps := .ofEntries
    [("draft", { id := "draft", tool := "write", next.default := some "end" }),
      ("end", { id := "end", tool := "close" })]

/-- **A step that is declared under the end marker is not reached** as a successor. -/
theorem Life.not_forall_reaches_declared :
    ¬ ∀ (settings : Settings) (d : Definition) (id : String) (past : List Turn) (t : Turn)
        (y z : Execution) (s : Step) (target : String), d.validate = .ok () →
      Life settings (d.toPipeline id) past y → Takes settings (d.toPipeline id) past t y z →
        (d.toPipeline id).step? y.current = some s → Chooses s t y (some target) z →
          (∃ s', (d.toPipeline id).step? target = some s') →
            z.status = .running ∧ z.current = target := by
  intro reaches
  have valid : Definition.closing.validate = .ok () := by rfl
  let p := Definition.closing.toPipeline "p"
  let x := Execution.fresh p .empty ⟨0⟩ (.ofMilliseconds 0)
  let z := (Host.agreeable.advance {} p x ()).1.touch (.ofMilliseconds 0)
  let s : Step := { id := "draft", tool := "write", next.default := some "end" }
  let answer : ToolResult := ⟨.succeeded none, .instantaneous (.ofMilliseconds 0)⟩
  have fresh : Life {} p [] x := .fresh .empty ⟨0⟩ (.ofMilliseconds 0)
  have turn : Takes {} p [] .advance x z :=
    .advance Host.agreeable () (.ofMilliseconds 0) rfl nofun
  have closes : Chooses s .advance x (nextTarget s (.default (some "end"))) z :=
    ⟨_, _, .routed (.tool (.straight rfl) rfl answer) rfl, rfl⟩
  have reached :=
    reaches {} .closing "p" [] .advance x z s "end" valid fresh turn rfl closes ⟨_, rfl⟩
  cases reached.1

end StepFlow
