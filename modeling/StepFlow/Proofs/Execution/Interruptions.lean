import Mathlib.Data.List.Basic
import StepFlow.Proofs.Execution.Retries

/-!
# When the flag is raised between two attempts

The flag for cancellation is looked at once for each retry: when an attempt has failed, before
the retry is told and before the pause.  So a flag that is raised during an attempt keeps all
further ones from being made, while one that is raised afterwards, as the retry is told or in the
pause, is not seen before one more attempt has been made.  Then it is seen (`Errand.heeds`): no
more than one attempt that follows another is begun with the flag up, and it is the last.

That there can be one is no slip of the statement.  `Errand.interrupted` raises the flag at a
place of choice, and at two of the three places the second attempt is made all the same
(`Errand.interrupted_attempted`).
-/

namespace StepFlow

variable {σ : Type}

namespace Errand

variable {e : Errand σ} {s : σ}

/-- **The place of an attempt** among what is seen: it is the one after so many retries, and what
is seen before it is what is seen before that. -/
theorem eq_made_of_sightings {k : Nat} {before after : List (Sighting σ)} {m : Made σ}
    (seen : e.seenBefore s k ++ [.attempted (e.made s k)] = before ++ .attempted m :: after) :
    ∃ j ≤ k, m = e.made s j ∧ before = e.seenBefore s j ∧ (j = k → after = []) := by
  induction k generalizing after with
  | zero =>
    rcases List.eq_nil_or_concat' after with rfl | ⟨rest, last, rfl⟩
    · obtain ⟨rfl, same⟩ := List.append_inj' seen rfl
      cases same
      exact ⟨0, Nat.le_refl 0, rfl, rfl, fun _ => rfl⟩
    · rw [← List.cons_append, ← List.append_assoc] at seen
      obtain ⟨nothing, -⟩ := List.append_inj' seen rfl
      exact absurd nothing.symm (List.append_ne_nil_of_right_ne_nil _ (List.cons_ne_nil _ _))
  | succ k ih =>
    -- what is seen last is the attempt itself, then the word of the retry, then the one before
    rcases List.eq_nil_or_concat' after with rfl | ⟨rest, last, rfl⟩
    · obtain ⟨rfl, same⟩ := List.append_inj' seen rfl
      cases same
      exact ⟨k + 1, Nat.le_refl _, rfl, rfl, fun _ => rfl⟩
    · rw [← List.cons_append, ← List.append_assoc, seenBefore_succ] at seen
      obtain ⟨seen, -⟩ := List.append_inj' seen rfl
      rcases List.eq_nil_or_concat' rest with rfl | ⟨rest, word, rfl⟩
      · obtain ⟨-, same⟩ := List.append_inj' seen rfl
        cases same
      · rw [← List.cons_append, ← List.append_assoc] at seen
        obtain ⟨seen, -⟩ := List.append_inj' seen rfl
        obtain ⟨j, within, place, earlier, -⟩ := ih seen
        exact ⟨j, Nat.le_succ_of_le within, place, earlier, fun last => by omega⟩

/-- **A raised flag is heeded at the next look.**  Suppose that nothing takes the flag down while
an errand is run.  For each of its attempts:

* if the flag is up when the attempt is over, nothing is seen after it: neither the word of a
  retry nor another attempt;
* so it is if the flag was up when the attempt began;
* and if neither the word of a retry nor a pause raises the flag, then only the first attempt can
  begin with the flag up. -/
theorem heeds (e : Errand σ) (latched : e.attempt.Keeps fun t => e.isFlagged t = true) (s : σ)
    {before after : List (Sighting σ)} {m : Made σ}
    (seen : e.sightings s = before ++ .attempted m :: after) :
    (e.isFlagged (m.after e.host) = true → after = []) ∧
      (e.isFlagged m.state = true → after = []) ∧
      ((∀ n failure t, e.isFlagged (e.attempt.beforeRetry n failure t) = true →
          e.isFlagged t = true) →
        e.isFlagged m.state = true → before = []) := by
  obtain ⟨k, ends⟩ := e.attempt.exists_endsAfter s e.retries
  rw [sightings_of_endsAfter ends] at seen
  obtain ⟨j, within, rfl, rfl, last⟩ := eq_made_of_sightings seen
  have unheeded (i : Nat) (earlier : i < k) : e.isFlagged ((e.made s i).after e.host) ≠ true :=
    Bool.eq_false_iff.mp (ends.unheeded i earlier)
  have ended (raised : e.isFlagged ((e.made s j).after e.host) = true) : after = [] := by
    refine last (Nat.le_antisymm within (Nat.not_lt.mp fun earlier => ?_))
    exact unheeded j earlier raised
  refine ⟨ended, fun raised => ended (latched.call _ raised), ?_⟩
  intro quiet raised
  cases j with
  | zero => rfl
  | succ j => exact absurd (quiet _ _ _ raised) (unheeded j within)

/-! ### An errand that is interrupted -/

/-- Where the flag is raised: during an attempt, as a retry is told, or in the pause after that. -/
inductive Place where
  | attempt | word | pause
deriving DecidableEq

/-- **An errand that is interrupted** at one of the places.  Its tool always fails, and there is
one retry, after a pause.  All that its host knows is whether the flag is up. -/
def interrupted (place : Place) : Errand Bool where
  host :=
    { now := fun _ => .ofMilliseconds 0
      isCancelled := fun _ up => up
      call := fun _ _ up =>
        (⟨{ success := false }, .instantaneous (.ofMilliseconds 0)⟩, up || place = .attempt)
      emit := fun _ _ up => up
      pause := fun _ up => up || place = .pause
      publish := fun _ up => up
      ask := fun _ up => up }
  settings := { retryDelay := 1000 }
  execution := ⟨0⟩
  step := { id := "s", tool := "t", maxRetries := some 1 }
  parameters := .empty
  onRetry _ _ up := up || place = .word

/-- The flag of an interrupted errand is never taken down. -/
theorem latched_interrupted (place : Place) :
    (interrupted place).attempt.Keeps fun t => (interrupted place).isFlagged t = true where
  call t up := by
    obtain rfl : t = true := up
    rfl
  beforeRetry n failure t up := by
    obtain rfl : t = true := up
    cases place <;> rfl

/-- After an attempt that raises the flag nothing is seen. -/
theorem interrupted_heeds :
    ¬ ∃ before m after,
      (interrupted .attempt).sightings false = before ++ .attempted m :: after ∧ after ≠ [] := by
  rintro ⟨before, m, after, seen, more⟩
  obtain ⟨ended, -, -⟩ := (interrupted .attempt).heeds (latched_interrupted _) false seen
  exact more (ended (Bool.or_true m.state))

/-- **The second attempt is made with the flag up** if it was raised as the retry was told, or in
the pause. -/
theorem interrupted_attempted (place : Place) (between : place ≠ .attempt) :
    .attempted ((interrupted place).made false 1) ∈ (interrupted place).sightings false ∧
      (interrupted place).isFlagged ((interrupted place).made false 1).state = true := by
  have ends : (interrupted place).attempt.EndsAfter false (interrupted place).retries 1 :=
    { within := Nat.le_refl 1
      failed := fun _ _ => rfl
      unheeded := fun j earlier => by
        obtain rfl : j = 0 := Nat.lt_one_iff.mp earlier
        cases place
        · exact absurd rfl between
        · rfl
        · rfl
      last := .inr (.inl rfl) }
  rw [sightings_of_endsAfter ends]
  refine ⟨List.mem_append_right _ (List.mem_singleton_self _), ?_⟩
  cases place
  · exact absurd rfl between
  · rfl
  · rfl

/-- **Not every attempt begins with the flag down**, even if nothing takes the flag down and it
was down at the start. -/
theorem not_forall_unflagged :
    ¬ ∀ e : Errand Bool, (e.attempt.Keeps fun t => e.isFlagged t = true) →
      ∀ s, e.isFlagged s = false →
        ∀ m, .attempted m ∈ e.sightings s → e.isFlagged m.state = false := by
  intro all
  obtain ⟨made, raised⟩ := interrupted_attempted .pause nofun
  have down := all (interrupted .pause) (latched_interrupted _) false rfl _ made
  rw [raised] at down
  cases down

end Errand

end StepFlow
