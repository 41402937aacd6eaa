import StepFlow.Proofs.Execution.Rejections

/-!
# What a step is handed

The parameters of a step are resolved when a run comes to it, against the results that stand there
then.  A result stays until its step records another, so what a dynamic binding finds depends on
all that the run did before: loops and revisits record again, a failure hides the data of an earlier
success, and an approval records the input of a person.

What a step is handed is therefore told by the journal of the run (`Step.Handed`): what is bound
statically, what the last record of each source shows, and the global state, which no binding can
displace.  It is told for every call that is made on any host (`Journal.handed_of_mem_calls`).

Two facts carry this.  The results of a run are what it recorded last (`Journal.results_eq`), and
between two records a run only moves on or counts the repetitions of a loop, which no binding can
see (`Execution.Enters.books`).
-/

namespace StepFlow

open Execution

/-! ### What was recorded last -/

/-- **What was recorded last of a step.** -/
def Recorded.last? (os : List Recorded) (step : String) : Option ToolResult :=
  (os.reverse.find? fun o => o.step = step).map Recorded.result

/-- The table of what was recorded has the last of each step. -/
theorem Recorded.get?_table (os : List Recorded) (step : String) :
    (table os).get? step = last? os step := by
  -- on the records from the end: the last one decides if it is of the step
  induction os using List.reverseRecOn with
  | nil => rfl
  | append_singleton os o ih =>
    have written : table (os ++ [o]) = (table os).insert o.step o.result := List.foldl_concat ..
    rw [written, Table.get?_insert, ih, last?, last?, List.reverse_append, List.reverse_singleton,
      List.singleton_append, List.find?_cons]
    by_cases here : o.step = step <;> simp [here]

/-! ### Bindings -/

/-- **What a binding comes to** after what was recorded: its literal, or what its path finds in the
data that the last record of its source has.  Data may be null, and so may what is found. -/
inductive Binding.Yields (os : List Recorded) : Binding → Value → Prop
  | static (v : Value) : Yields os (.static v) v
  | dynamic {source path : String} {r : ToolResult} {data v : Value}
      (last : Recorded.last? os source = some r) (has : r.data = some data)
      (found : Path.resolve data path = some v) : Yields os (.dynamic source path) v

/-- **What a step is handed**, where `os` was recorded before: the global state under its own name,
and under each other name that is bound what the binding comes to, if anything. -/
structure Step.Handed (s : Step) (os : List Recorded) (globalState : Table Value)
    (parameters : Table Value) : Prop where
  keys : ∀ name, parameters.contains name = true ↔
    name = globalStateKey ∨ (∃ v, s.parameters.get? name = some (.static v)) ∨
      ∃ source path, s.parameters.get? name = some (.dynamic source path) ∧
        ∃ r data v, Recorded.last? os source = some r ∧ r.data = some data ∧
          Path.resolve data path = some v
  globalState : parameters.get? globalStateKey = some (.ofTable globalState)
  bound : ∀ name b v, name ≠ globalStateKey → s.parameters.get? name = some b →
    b.Yields os v → parameters.get? name = some v

namespace Execution

variable {x : Execution} {os : List Recorded} {b : Binding} {v : Value}

/-- A run hands over what bindings come to. -/
theorem resolve_eq_some_iff (recorded : x.results = Recorded.table os) :
    x.resolve b = some v ↔ b.Yields os v := by
  constructor
  · intro resolved
    cases b with
    | static w =>
      cases resolved
      exact .static v
    | dynamic source path =>
      obtain ⟨r, stands, resolved⟩ := Option.bind_eq_some_iff.mp resolved
      obtain ⟨data, has, found⟩ := Option.bind_eq_some_iff.mp resolved
      rw [recorded, Recorded.get?_table] at stands
      exact .dynamic stands has found
  · intro yields
    cases yields with
    | static => rfl
    | @dynamic source path r data v last has found =>
      rw [← Recorded.get?_table, ← recorded] at last
      exact Option.bind_eq_some_iff.mpr ⟨r, last, Option.bind_eq_some_iff.mpr ⟨data, has, found⟩⟩

/-- Bindings under distinct names are resolved one by one. -/
theorem get?_resolveAll (x : Execution) {bindings : Entries Binding}
    (distinct : (bindings.map (·.1)).Nodup) (t : Table Value) (name : String) :
    (x.resolveAll bindings t).get? name =
      ((bindings.get? name).bind x.resolve).or (t.get? name) := by
  induction bindings generalizing t with
  | nil => rfl
  | cons binding rest ih =>
    obtain ⟨key, b⟩ := binding
    rw [List.map_cons, List.nodup_cons] at distinct
    have spared : Entries.get? key rest = none := by
      rw [Entries.get?_eq_none_iff]
      intro other listed same
      exact distinct.1 (List.mem_map.mpr ⟨other, listed, same⟩)
    rw [Entries.get?_cons]
    by_cases here : key = name
    · subst here
      rw [if_pos rfl, Option.bind_some]
      cases resolved : x.resolve b with
      | none => simp [resolveAll, resolved, ih distinct.2, spared]
      | some v => simp [resolveAll, resolved, ih distinct.2, spared]
    · rw [if_neg here]
      cases resolved : x.resolve b with
      | none => simp only [resolveAll, resolved, ih distinct.2]
      | some v =>
        simp only [resolveAll, resolved, ih distinct.2, Table.get?_insert_of_ne t here]

/-- **The parameters of a step, name by name.** -/
theorem get?_parameters (x : Execution) (s : Step) (name : String) :
    (x.parameters s).get? name =
      if globalStateKey = name then some (.ofTable x.globalState)
      else (s.parameters.get? name).bind x.resolve := by
  unfold parameters
  rw [Table.get?_insert, x.get?_resolveAll (Entries.nodup_of_sorted s.parameters.sorted),
    Table.get?_empty, Option.or_none]
  rfl

/-- **A run hands a step what its records come to.** -/
theorem handed_parameters (recorded : x.results = Recorded.table os) (s : Step) :
    s.Handed os x.globalState (x.parameters s) where
  keys := by
    intro name
    rw [Table.contains_iff, get?_parameters]
    by_cases reserved : globalStateKey = name
    · rw [if_pos reserved]
      exact iff_of_true ⟨_, rfl⟩ (.inl reserved.symm)
    · rw [if_neg reserved]
      constructor
      · rintro ⟨v, resolved⟩
        obtain ⟨b, bound, resolved⟩ := Option.bind_eq_some_iff.mp resolved
        cases (resolve_eq_some_iff recorded).mp resolved with
        | static => exact .inr (.inl ⟨v, bound⟩)
        | dynamic last has found => exact .inr (.inr ⟨_, _, bound, _, _, v, last, has, found⟩)
      · rintro (same | ⟨v, bound⟩ | ⟨source, path, bound, r, data, v, last, has, found⟩)
        · exact absurd same.symm reserved
        · exact ⟨v, Option.bind_eq_some_iff.mpr ⟨_, bound, rfl⟩⟩
        · exact ⟨v, Option.bind_eq_some_iff.mpr
            ⟨_, bound, (resolve_eq_some_iff recorded).mpr (.dynamic last has found)⟩⟩
  globalState := by rw [get?_parameters, if_pos rfl]
  bound := by
    intro name b v other bound yields
    rw [get?_parameters, if_neg other.symm, bound]
    exact (resolve_eq_some_iff recorded).mpr yields

/-- What leaves the books alone leaves what is handed over. -/
theorem Books.handed {y : Execution} (same : Books x none y)
    (recorded : x.results = Recorded.table os) (s : Step) :
    s.Handed os x.globalState (y.parameters s) := by
  have globalState : y.globalState = x.globalState := same.globalState
  rw [← globalState]
  exact handed_parameters (same.results.trans recorded) s

end Execution

/-! ### Calls -/

section Calls

variable {σ : Type} {settings : Settings} {p : Pipeline} {initial : Table Value}
  {bs : List Booking} {x : Execution}

/-- **Every call for a step is handed what the run recorded last.**  Let a run be driven from any
state that a journal tells.  A call that is made is its hook, or it is made for a step that the run
has come to after some of its steps.  That state has a journal too, which goes on from the first.
And whatever journal tells it, the parameters of the call are these and no others: the global state
as it is then, under its own name even if the step binds that name; the literal of each static
binding; and what the path of a dynamic binding finds in the data of the last record of its source,
where there is such a record, it has data, and the path finds something there. -/
theorem Journal.handed_of_mem_calls (journal : Journal settings p initial bs x) (h : Host σ)
    (budget : Nat) (s : σ) :
    ∀ m ∈ h.calls settings (.drive p budget x) s, m.call.purpose = .hook x.id ∨
      ∃ n < budget, ∃ step, h.CallsFor settings p step (h.run settings p n x s) m ∧
        (∃ later, Journal settings p initial (later ++ bs) (h.run settings p n x s).1) ∧
        ∀ initial' bs', Journal settings p initial' bs' (h.run settings p n x s).1 →
          step.Handed (Booking.allRecorded bs') (h.run settings p n x s).1.globalState
            m.call.parameters := by
  intro m made
  refine (Host.callsFor_of_mem_drive made).imp_right ?_
  rintro ⟨n, within, step, y, called, entered, attempt⟩
  refine ⟨n, within, step, called, journal.run h n s, fun initial' bs' told => ?_⟩
  rw [attempt]
  exact entered.books.handed told.results_eq step

end Calls

/-- A step that binds what the step before it came to, and the reserved name. -/
def Definition.handover : Definition where
  name := "handover"
  start := "count"
  steps := .ofEntries
    [("count", { id := "count", tool := "count", next.default := some "report" }),
      ("report",
        { id := "report", tool := "print",
          parameters := .ofEntries
            [("total", .dynamic "count" ""), ("part", .dynamic "count" "part"),
              ("unit", .static .null), (globalStateKey, .static (.int 0))] })]

/-- The second call of the handover is handed the answer of the first, and nothing that was not
found. -/
theorem exists_handed_handover :
    let p := Definition.handover.toPipeline "p"
    let begun : Execution := .fresh p .empty ⟨0⟩ (.ofMilliseconds 0)
    ∃ m ∈ Host.slow.calls {} (.drive p 5 begun) (),
      m.call.parameters.keys = [globalStateKey, "total", "unit"] ∧
      m.call.parameters.get? globalStateKey =
        some (.ofTable (.ofEntries [(lastResultKey, .int 7)])) ∧
      m.call.parameters.get? "total" = some (.int 7) ∧
      ∃ n < 5, ∃ step, Host.slow.CallsFor {} p step (Host.slow.run {} p n begun ()) m ∧
        (∃ bs, Journal {} p .empty bs (Host.slow.run {} p n begun ()).1) ∧
        ∀ initial bs, Journal {} p initial bs (Host.slow.run {} p n begun ()).1 →
          step.Handed (Booking.allRecorded bs) (Host.slow.run {} p n begun ()).1.globalState
            m.call.parameters := by
  intro p begun
  have journal : Journal {} p .empty [] begun := .fresh ⟨0⟩ (.ofMilliseconds 0)
  refine ⟨_, List.mem_cons_self, rfl, rfl, rfl, ?_⟩
  rcases journal.handed_of_mem_calls Host.slow 5 () _ List.mem_cons_self with hook | called
  · cases hook
  · obtain ⟨n, within, step, called, ⟨later, told⟩, handed⟩ := called
    exact ⟨n, within, step, called, ⟨_, told⟩, handed⟩

end StepFlow
