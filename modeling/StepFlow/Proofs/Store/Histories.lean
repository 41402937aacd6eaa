import StepFlow.Proofs.Store.Keys
import StepFlow.Proofs.Store.Slots

/-!
# What pipelines in memory recall of their history

The plain backend is a list that is searched from its start.  What it has after any calls is told
here by the calls alone:

* under an id it has the pipeline that was saved last, unless the id was deleted after that
  (`Backend.Latest`);
* an id is present since the call that saved it when it was last absent (`Backend.PresentSince`),
  and the list is in the order of these calls.

What is load-bearing is the order.  A pipeline that is saved under a present id takes the place of
the one before, and any other comes last, so no id comes twice (`Memory.pairwise_ids`).
-/

namespace StepFlow

namespace Backend

/-- **A call of a backend.** -/
inductive Call where
  | save (p : Pipeline)
  | load (id : String)
  | delete (id : String)
  | list

/-- **What a call answers.** -/
inductive Answer where
  | saved
  | loaded (p : Except Corrupt (Option Pipeline))
  | deleted (present : Bool)
  | listed (ps : Except Corrupt (List Pipeline))

section

variable {β : Type} [Backend β]

/-- **Makes a call.** -/
def perform : Call → β → Answer × β
  | .save p, b => (.saved, save p b)
  | .load id, b => (.loaded (load id b), b)
  | .delete id, b => let (present, b) := delete id b; (.deleted present, b)
  | .list, b => (.listed (list b), b)

variable (β) in
/-- **The contents after some calls**, the earliest first. -/
def after (cs : List Call) : β := cs.foldl (fun b c => (perform c b).2) empty

theorem after_concat (cs : List Call) (c : Call) :
    after β (cs ++ [c]) = (perform c (after β cs)).2 := List.foldl_concat ..

end

/-! ### Histories -/

/-- A call saves a pipeline under an id, or deletes what is there. -/
def Call.Touches (id : String) : Call → Prop
  | .save p => p.id = id
  | .delete other => other = id
  | .load _ | .list => False

/-- **The latest pipeline under an id**: it was saved there, and no later call touched the id. -/
def Latest (cs : List Call) (id : String) (p : Pipeline) : Prop :=
  ∃ earlier later, cs = earlier ++ .save p :: later ∧ p.id = id ∧ ∀ c ∈ later, ¬ c.Touches id

/-- An id is present if some pipeline is the latest under it. -/
def Present (cs : List Call) (id : String) : Prop := ∃ p, Latest cs id p

/-- **An id is present since call number `i`**: it was absent before this call, and has been present
after it and after every later one. -/
structure PresentSince (cs : List Call) (id : String) (i : Nat) : Prop where
  made : i < cs.length
  absent : ¬ Present (cs.take i) id
  present : ∀ k, i < k → k ≤ cs.length → Present (cs.take k) id

/-- One id is present for longer than another. -/
def Precedes (cs : List Call) (a b : String) : Prop :=
  ∃ i j, PresentSince cs a i ∧ PresentSince cs b j ∧ i < j

variable {cs : List Call} {c : Call} {id a b : String} {p : Pipeline} {i j : Nat}

/-- What is latest after one more call. -/
theorem latest_concat_iff :
    Latest (cs ++ [c]) id p ↔ (c = .save p ∧ p.id = id) ∨ (¬ c.Touches id ∧ Latest cs id p) := by
  constructor
  · rintro ⟨earlier, later, split, saved, untouched⟩
    rcases List.eq_nil_or_concat' later with rfl | ⟨later, last, rfl⟩
    · obtain ⟨-, here⟩ := List.append_inj' split rfl
      exact .inl ⟨List.singleton_inj.mp here, saved⟩
    · rw [← List.cons_append, ← List.append_assoc] at split
      obtain ⟨rfl, here⟩ := List.append_inj' split rfl
      obtain rfl : c = last := List.singleton_inj.mp here
      refine .inr ⟨untouched c (by simp), earlier, later, rfl, saved, ?_⟩
      intro d listed
      exact untouched d (List.mem_append_left _ listed)
  · rintro (⟨rfl, saved⟩ | ⟨spared, earlier, later, rfl, saved, untouched⟩)
    · exact ⟨cs, [], rfl, saved, List.forall_mem_nil _⟩
    · refine ⟨earlier, later ++ [c], by simp, saved, ?_⟩
      intro d listed
      rcases List.mem_append.mp listed with before | last
      · exact untouched d before
      · rwa [List.mem_singleton.mp last]

/-- Nothing is present before the first call. -/
theorem not_present_nil (id : String) : ¬ Present [] id := by
  rintro ⟨p, earlier, later, split, -⟩
  cases earlier <;> cases split

/-- There is one call at most since which an id is present. -/
theorem PresentSince.unique (hi : PresentSince cs id i) (hj : PresentSince cs id j) : i = j := by
  rcases Nat.lt_trichotomy i j with earlier | same | later
  · exact absurd (hi.present j earlier hj.made.le) hj.absent
  · exact same
  · exact absurd (hj.present i later hi.made.le) hi.absent

/-- An id that stays present is present since the same call. -/
theorem PresentSince.concat (since : PresentSince cs id i) (stays : Present (cs ++ [c]) id) :
    PresentSince (cs ++ [c]) id i where
  made := by
    rw [List.length_append]
    exact Nat.lt_add_right _ since.made
  absent := by
    rw [List.take_append_of_le_length since.made.le]
    exact since.absent
  present := by
    intro k later within
    rcases Nat.lt_or_ge cs.length k with last | before
    · rwa [List.take_of_length_le (by simpa using last)]
    · rw [List.take_append_of_le_length before]
      exact since.present k later before

/-- An id that becomes present is present since the last call. -/
theorem PresentSince.of_absent (absent : ¬ Present cs id) (present : Present (cs ++ [c]) id) :
    PresentSince (cs ++ [c]) id cs.length where
  made := by simp
  absent := by rwa [List.take_left]
  present := by
    intro k later within
    rwa [List.take_of_length_le (by simpa using later)]

/-- An id that is present is so since one of the calls. -/
theorem Present.exists_since (present : Present cs id) : ∃ i, PresentSince cs id i := by
  induction cs using List.reverseRecOn with
  | nil => exact absurd present (not_present_nil id)
  | append_singleton cs c ih =>
    by_cases before : Present cs id
    · obtain ⟨i, since⟩ := ih before
      exact ⟨i, since.concat present⟩
    · exact ⟨cs.length, .of_absent before present⟩

theorem Precedes.concat (before : Precedes cs a b) (ha : Present (cs ++ [c]) a)
    (hb : Present (cs ++ [c]) b) : Precedes (cs ++ [c]) a b := by
  obtain ⟨i, j, since, since', lt⟩ := before
  exact ⟨i, j, since.concat ha, since'.concat hb, lt⟩

/-- No id precedes itself. -/
theorem Precedes.ne (before : Precedes cs a b) : a ≠ b := by
  rintro rfl
  obtain ⟨i, j, since, since', lt⟩ := before
  exact Nat.ne_of_lt lt (since.unique since')

end Backend

/-! ### The list -/

namespace Memory

open Backend

/-- The ids of the pipelines, in their order. -/
def ids (m : Memory) : List String := m.pipelines.map (·.id)

variable (cs : List Backend.Call) (id : String)

/-- A call that does not touch an id leaves what is found under it. -/
theorem load_perform_of_spares {c : Backend.Call} {id : String} (spared : ¬ c.Touches id)
    (m : Memory) : (perform c m).2.load id = m.load id := by
  cases c with
  | save p => exact Store.find?_put_of_ne spared m.pipelines
  | delete other => exact Store.find?_filter_other_key Pipeline.id id m.pipelines spared
  | load => rfl
  | list => rfl

/-- **What is found under an id is the latest that was saved there.** -/
theorem load_after (p : Pipeline) : (after Memory cs).load id = some p ↔ Latest cs id p := by
  induction cs using List.reverseRecOn with
  | nil =>
    constructor
    · nofun
    · intro latest
      exact absurd ⟨p, latest⟩ (not_present_nil id)
  | append_singleton cs c ih =>
    rw [after_concat, latest_concat_iff, ← ih]
    by_cases touched : c.Touches id
    · cases c with
      | save q =>
        obtain rfl : q.id = id := touched
        have found : (perform (.save q) (after Memory cs)).2.load q.id = some q :=
          Store.find?_put q (after Memory cs).pipelines
        rw [found, Option.some_inj, Backend.Call.save.injEq]
        constructor
        · rintro rfl
          exact .inl ⟨rfl, rfl⟩
        · rintro (⟨same, -⟩ | ⟨spared, -⟩)
          · exact same
          · exact absurd rfl spared
      | delete other =>
        obtain rfl : other = id := touched
        have gone : (perform (.delete other) (after Memory cs)).2.load other = none :=
          Store.find?_filter_key Pipeline.id other (after Memory cs).pipelines
        rw [gone]
        constructor
        · nofun
        · rintro (⟨same, -⟩ | ⟨spared, -⟩)
          · cases same
          · exact absurd rfl spared
      | load => cases touched
      | list => cases touched
    · rw [load_perform_of_spares touched]
      constructor
      · intro earlier
        exact .inr ⟨touched, earlier⟩
      · rintro (⟨rfl, saved⟩ | ⟨-, earlier⟩)
        · exact absurd saved touched
        · exact earlier

/-- Something is found under the ids that are present. -/
theorem isSome_load_after : ((after Memory cs).load id).isSome = true ↔ Present cs id := by
  rw [Option.isSome_iff_exists]
  exact exists_congr fun p => load_after cs id p

/-- **The ids in the list are those that are present.** -/
theorem mem_ids_after : id ∈ (after Memory cs).ids ↔ Present cs id := by
  rw [← isSome_load_after, load, List.find?_isSome, ids, List.mem_map]
  simp only [decide_eq_true_eq]

/-- Saving adds a new id at the end, and any other call takes ids away at most. -/
theorem ids_perform (m : Memory) (c : Backend.Call) :
    (perform c m).2.ids.Sublist m.ids ∨
      ∃ id, id ∉ m.ids ∧ (perform c m).2.ids = m.ids ++ [id] := by
  cases c with
  | save p =>
    have saved : (perform (.save p) m).2.ids = Store.addId p.id m.ids := Store.ids_put p m.pipelines
    rw [saved, Store.addId]
    split
    · exact .inl (List.Sublist.refl _)
    · rename_i new
      exact .inr ⟨p.id, new, rfl⟩
  | delete id => exact .inl (List.filter_sublist.map _)
  | load => exact .inl (List.Sublist.refl _)
  | list => exact .inl (List.Sublist.refl _)

/-- **The list is in the order in which its ids have been present.** -/
theorem pairwise_ids : (after Memory cs).ids.Pairwise (Precedes cs) := by
  induction cs using List.reverseRecOn with
  | nil => exact List.Pairwise.nil
  | append_singleton cs c ih =>
    -- the ids that were there before and still are keep their order
    have kept : ∀ as : List String, (∀ a ∈ as, Present (cs ++ [c]) a) →
        as.Pairwise (Precedes cs) → as.Pairwise (Precedes (cs ++ [c])) := by
      intro as present ordered
      refine ordered.imp_of_mem fun ha hb before => ?_
      exact before.concat (present _ ha) (present _ hb)
    have present : ∀ a ∈ (after Memory (cs ++ [c])).ids, Present (cs ++ [c]) a := by
      intro a
      exact (mem_ids_after _ a).mp
    rw [after_concat] at present ⊢
    rcases ids_perform (after Memory cs) c with fewer | ⟨id, new, ids⟩
    · exact kept _ present (ih.sublist fewer)
    · rw [ids] at present ⊢
      rw [List.forall_mem_append] at present
      refine List.pairwise_append.mpr
        ⟨kept _ present.1 ih, List.pairwise_singleton _ _, fun a ha b hb => ?_⟩
      obtain rfl : b = id := List.mem_singleton.mp hb
      have absent : ¬ Present cs b := fun there => new ((mem_ids_after cs b).mpr there)
      obtain ⟨i, since⟩ := ((mem_ids_after cs a).mp ha).exists_since
      exact ⟨i, cs.length, since.concat (present.1 a ha),
        .of_absent absent (present.2 b List.mem_cons_self), since.made⟩

/-- **No id comes twice.** -/
theorem nodup_ids : (after Memory cs).ids.Nodup := (pairwise_ids cs).imp Precedes.ne

/-- The list holds the latest pipelines. -/
theorem mem_pipelines_after (p : Pipeline) :
    p ∈ (after Memory cs).pipelines ↔ Latest cs p.id p := by
  rw [← load_after]
  constructor
  · intro listed
    have there : p.id ∈ (after Memory cs).ids := List.mem_map_of_mem listed
    rw [mem_ids_after, ← isSome_load_after, Option.isSome_iff_exists] at there
    obtain ⟨q, found⟩ := there
    have same : q.id = p.id := by simpa using List.find?_some found
    rwa [List.inj_on_of_nodup_map (nodup_ids cs) (List.mem_of_find?_eq_some found) listed same]
      at found
  · intro found
    exact List.mem_of_find?_eq_some found

/-- **What pipelines in memory recall** of the calls that were made. -/
structure Recalls (cs : List Backend.Call) (m : Memory) : Prop where
  /-- No id comes twice. -/
  distinct : m.ids.Nodup
  /-- Loading answers with the pipeline that was saved last under the id, since it was last
  deleted. -/
  loads : ∀ id p, (perform (.load id) m).1 = .loaded (.ok (some p)) ↔ Latest cs id p
  /-- Without such a pipeline it answers with none. -/
  misses : ∀ id, (perform (.load id) m).1 = .loaded (.ok none) ↔ ¬ Present cs id
  /-- Deleting tells whether the id was present, and takes away its pipeline and no other. -/
  deletes : ∀ id, ∃ present : Bool, (perform (.delete id) m).1 = .deleted present ∧
    (present = true ↔ Present cs id) ∧
    (perform (.delete id) m).2.pipelines = m.pipelines.filter fun q => q.id ≠ id
  /-- A pipeline that is saved under a present id takes the place of the one that is there, and
  every other stays as it is where it is. -/
  replaces : ∀ p, Present cs p.id → (perform (.save p) m).2.pipelines =
    m.pipelines.map fun q => if q.id = p.id then p else q
  /-- Any other pipeline that is saved comes last. -/
  appends : ∀ p, ¬ Present cs p.id → (perform (.save p) m).2.pipelines = m.pipelines ++ [p]
  /-- Loading and listing change nothing. -/
  looks : ∀ id, (perform (.load id) m).2 = m ∧ (perform .list m).2 = m
  /-- Listing answers with the pipelines that loading finds, in the order of the calls since which
  their ids have been present. -/
  lists : ∃ ps, (perform .list m).1 = .listed (.ok ps) ∧ (∀ p, p ∈ ps ↔ Latest cs p.id p) ∧
    ps.Pairwise fun p q => Precedes cs p.id q.id

/-- **Pipelines in memory recall what was done with them.**  After any calls, the ids are distinct;
an id has the pipeline that was saved last under it, unless it was deleted since; deleting tells
whether the id was present and takes away nothing else; saving under a present id keeps the place
and all other pipelines; and the list is ordered by the calls that saved the ids first since they
were last absent. -/
theorem recalls (cs : List Backend.Call) : Recalls cs (after Memory cs) where
  distinct := nodup_ids cs
  loads id p := by
    show Answer.loaded (.ok ((after Memory cs).load id)) = _ ↔ _
    rw [Answer.loaded.injEq, Except.ok.injEq, load_after]
  misses id := by
    show Answer.loaded (.ok ((after Memory cs).load id)) = _ ↔ _
    rw [Answer.loaded.injEq, Except.ok.injEq, ← isSome_load_after, Option.not_isSome_iff_eq_none]
  deletes id := by
    have told := congrArg Store.Slot.taken (Store.slot_memory id (after Memory cs))
    exact ⟨_, congrArg Answer.deleted told, isSome_load_after cs id, rfl⟩
  replaces p present := by
    obtain ⟨q, listed, same⟩ := List.mem_map.mp ((mem_ids_after cs p.id).mpr present)
    exact put_eq_map (List.pairwise_map.mp (nodup_ids cs)) ⟨q, listed, same⟩
  appends p absent := by
    refine put_eq_append fun q listed same => absent ((mem_ids_after cs p.id).mp ?_)
    exact same ▸ List.mem_map_of_mem listed
  looks _ := ⟨rfl, rfl⟩
  lists := ⟨_, rfl, mem_pipelines_after cs, List.pairwise_map.mp (pairwise_ids cs)⟩

/-- To save again keeps the place, and to delete before that does not. -/
example (p : String → Pipeline) (ids : ∀ id, (p id).id = id) :
    (after Memory [.save (p "c"), .save (p "a"), .save (p "b"), .save (p "a")]).ids =
        ["c", "a", "b"] ∧
      (after Memory [.save (p "c"), .save (p "a"), .delete "c", .save (p "c")]).ids =
        ["a", "c"] := by
  simp [after, perform, Backend.save, Backend.delete, Backend.empty, save, put, delete,
    Memory.ids, ids]

end Memory

end StepFlow
