import StepFlow.Proofs.Pipeline.Readings
import StepFlow.Proofs.Store.Imports

/-!
# Steps under their keys, in everything a store has ever held

A run looks steps up by their keys and books results and counters under their ids, so a stored
pipeline should have every step under its own id.  Three operations store pipelines, and each sees
to it in its own way: what is created is validated before and filled up on the way in, what is
imported has its shape checked, and patched steps take their keys.  This is enough over all
sessions, but for one gap (`Store.keepsKeys`): the check of the shape looks for an id in the fields
of a step, and a step may also be written as a list.  Such a step keeps the id that the list starts
with, whatever its key is (`Store.not_forall_keyed`).

A backend takes part in this by a few facts only (`Store.Shelves`): what can be read there is what
was saved, perhaps with missing ids filled in, and ids come in by saving and go by deleting.  A list
keeps pipelines as they are.  A table of rows keeps texts, and what is load-bearing there is that a
text is read with the same steps under the same ids as it was written with, if it is read at all
(`Definition.step_of_read_shown`); its numbers may have moved.
-/

namespace StepFlow

/-- **The value lists the step** under `key`: it is no record but a list, which starts with the
text `id`. -/
def Value.ListsStep (v : Value) (key id : String) : Prop :=
  ∃ steps items, v.field? "steps" = some (.obj steps) ∧ (key, .arr (.str id :: items)) ∈ steps

namespace Store

/-! ### The three ways in -/

/-- **The steps are under their keys**, but for those that were imported as lists under the id of
the pipeline. -/
def KeyedBut (ops : List Operation) (p : Pipeline) : Prop :=
  ∀ key s, p.step? key = some s →
    s.id = key ∨ ∃ v, .importValue p.id v ∈ ops ∧ v.ListsStep key s.id

/-- A valid definition makes a pipeline with its steps under their keys. -/
theorem keyedBut_of_valid (ops : List Operation) {d : Definition} (valid : d.validate = .ok ())
    (fresh : String) : KeyedBut ops (d.toPipeline fresh) :=
  fun key s found => .inl ((Definition.sound_toPipeline valid fresh).keyed key s found)

/-- **A patch leaves steps under their keys**: its own steps take theirs. -/
theorem KeyedBut.apply {ops : List Operation} {p : Pipeline} (h : KeyedBut ops p) (q : Patch) :
    KeyedBut ops (q.apply p) := by
  intro key s found
  change ((q.steps.map Patch.alignIds).getD p.steps).get? key = some s at found
  cases patched : q.steps with
  | none =>
    rw [patched] at found
    exact h key s found
  | some steps =>
    rw [patched, Option.map_some, Option.getD_some, Patch.alignIds, Table.get?_mapValues] at found
    obtain ⟨s', -, rfl⟩ := Option.map_eq_some_iff.mp found
    exact .inl rfl

/-- A step that passes the check of the shape takes its key, unless it is a list. -/
theorem id_withDefaultId_of_hasOwnId {key : String} {v : Value} {s : Step}
    (checked : hasOwnId key v = true) (read : Step.read v = some s) :
    (s.withDefaultId key).id = key ∨
      ∃ items, v = .arr (.str (s.withDefaultId key).id :: items) := by
  rcases Step.id_of_read_value read with written | missing | ⟨items, rfl⟩
  · rw [hasOwnId, written] at checked
    refine .inl (Step.id_withDefaultId ?_)
    simpa using checked
  · exact .inl (Step.id_withDefaultId (.inl missing))
  · unfold Step.withDefaultId
    split
    · exact .inl rfl
    · exact .inr ⟨items, rfl⟩

/-- **A value that passes the check of the shape** makes a pipeline with its steps under their
keys, but for those that it lists. -/
theorem step_of_importable? {v : Value} {d : Definition} (h : importable? v = some d)
    {fresh key : String} {s : Step} (found : (d.toPipeline fresh).step? key = some s) :
    s.id = key ∨ v.ListsStep key s.id := by
  obtain ⟨shape, read⟩ := Option.ite_none_right_eq_some.mp h
  rw [hasShape, Bool.and_eq_true] at shape
  obtain ⟨-, shape⟩ := shape
  split at shape
  · rename_i steps field
    rw [Bool.and_eq_true, List.all_eq_true] at shape
    rw [Definition.step?_toPipeline] at found
    obtain ⟨s', stored, rfl⟩ := Option.map_eq_some_iff.mp found
    cases v with
    | obj fs =>
      obtain ⟨x, raw, y, stood, opened, listed, readStep⟩ := Definition.step_of_read rfl read stored
      -- the steps that were checked are the steps that were read
      obtain rfl : x = .obj steps := by
        obtain ⟨f, kept, -⟩ := Option.bind_eq_some_iff.mp read
        have only (w : Value) :=
          Document.get?_keepNamed kept (show "steps" ∈ Definition.fieldNames by decide) w
        have checked := (only (.obj steps)).mpr
          (List.mem_map.mpr ⟨_, Entries.mem_of_get? field, rfl⟩)
        exact Option.some.inj (((only x).mpr stood).symm.trans checked)
      cases opened
      obtain ⟨⟨key', y'⟩, there, same⟩ := List.mem_map.mp listed
      cases same
      refine (id_withDefaultId_of_hasOwnId (shape.2 _ there) readStep).imp_right ?_
      rintro ⟨items, list⟩
      exact ⟨steps, items, field, list ▸ there⟩
    | _ => cases field
  · cases shape

/-! ### Backends -/

/-- **What is read back of a pipeline**: its steps, under the same ids, or under their keys. -/
structure Rereads (p q : Pipeline) : Prop where
  id : q.id = p.id
  steps : ∀ key s', q.step? key = some s' →
    s'.id = key ∨ ∃ s, p.step? key = some s ∧ s'.id = s.id

theorem Rereads.refl (p : Pipeline) : Rereads p p := ⟨rfl, fun _ s found => .inr ⟨s, found, rfl⟩⟩

theorem KeyedBut.of_rereads {ops : List Operation} {p q : Pipeline} (h : KeyedBut ops p)
    (back : Rereads p q) : KeyedBut ops q := by
  intro key s' found
  rw [back.id]
  rcases back.steps key s' found with own | ⟨s, stored, same⟩
  · exact .inl own
  · rw [same]
    exact h key s stored

/-- Takes up an id, at the end if it is new. -/
def addId (id : String) (ids : List String) : List String := if id ∈ ids then ids else ids ++ [id]

section

variable {β : Type} [Backend β]

/-- **What a store relies on in its backend**, which has the given ids taken and keeps the given
pipelines there, those that can be read. -/
structure Shelves (ids : β → List String) (kept : β → List Pipeline) : Prop where
  empty : kept (Backend.empty : β) = []
  /-- What is listed is all that can be read. -/
  listed : ∀ {b ps}, Backend.list b = .ok ps → ps = kept b
  known : ∀ b, ((kept b).map (·.id)).Sublist (ids b)
  found : ∀ {id} {b : β} {p}, Backend.load id b = .ok (some p) → p ∈ kept b ∧ p.id = id
  /-- What is kept after something was saved was kept before, or was read back of it. -/
  saved : ∀ {p q} {b : β}, q ∈ kept (Backend.save p b) → q ∈ kept b ∨ Rereads p q
  deleted : ∀ {id p} {b : β}, p ∈ kept (Backend.delete id b).2 → p ∈ kept b
  ids_save : ∀ p b, ids (Backend.save p b) = addId p.id (ids b)
  ids_delete : ∀ id b, ids (Backend.delete id b).2 = (ids b).filter fun other => other ≠ id

end

/-- What is in a list after a pipeline was put there is this pipeline, or was there before. -/
theorem mem_of_mem_put {p q : Pipeline} {ps : List Pipeline} (listed : q ∈ Memory.put p ps) :
    q ∈ ps ∨ q = p := by
  induction ps with
  | nil => exact .inr (List.mem_singleton.mp listed)
  | cons r rest ih =>
    rw [Memory.put] at listed
    split at listed
    · rcases List.mem_cons.mp listed with rfl | later
      · exact .inr rfl
      · exact .inl (List.mem_cons_of_mem _ later)
    · rcases List.mem_cons.mp listed with rfl | later
      · exact .inl List.mem_cons_self
      · exact (ih later).imp_left (List.mem_cons_of_mem _)

theorem ids_put (p : Pipeline) (ps : List Pipeline) :
    (Memory.put p ps).map (·.id) = addId p.id (ps.map (·.id)) := by
  induction ps with
  | nil => rfl
  | cons r rest ih =>
    rw [Memory.put]
    split
    · rename_i here
      rw [List.map_cons, List.map_cons, here, addId, if_pos List.mem_cons_self]
    · rename_i other
      rw [List.map_cons, ih, List.map_cons, addId, addId]
      simp only [List.mem_cons, Ne.symm other, false_or]
      split <;> rfl

/-- The list of pipelines. -/
theorem shelves_memory :
    Shelves (fun m : Memory => m.pipelines.map (·.id)) (fun m => m.pipelines) where
  empty := rfl
  listed told := (Except.ok.inj told).symm
  known _ := List.Sublist.refl _
  found looked := ⟨List.mem_of_find?_eq_some (Except.ok.inj looked), id_eq_of_get_memory looked⟩
  saved := by
    intro p q m listed
    rcases mem_of_mem_put listed with before | rfl
    · exact .inl before
    · exact .inr (.refl q)
  deleted := List.mem_of_mem_filter
  ids_save p m := ids_put p m.pipelines
  ids_delete id m := by
    show (m.pipelines.filter _).map _ = _
    rw [List.filter_map]
    rfl

/-- **A row gives back the steps that were written into it**, whatever became of the numbers. -/
theorem rereads_ofPipeline {number : Nat} {p q : Pipeline}
    (h : (Row.ofPipeline number p).pipeline? = some q) : Rereads p q := by
  refine ⟨id_of_pipeline? h, fun key s found => ?_⟩
  obtain ⟨t, parsed, h⟩ := Option.bind_eq_some_iff.mp h
  obtain ⟨d, read, rfl⟩ := Option.map_eq_some_iff.mp h
  rw [Definition.step?_toPipeline] at found
  obtain ⟨s', stored, rfl⟩ := Option.map_eq_some_iff.mp found
  obtain ⟨s, written, same⟩ :=
    Definition.step_of_read_shown (JsonText.shows_of_parse parsed) read stored
  unfold Step.withDefaultId
  split
  · exact .inl rfl
  · exact .inr ⟨s, written, same⟩

/-- What is in a table after a pipeline was saved is read back of this pipeline, or was there
before. -/
theorem mem_of_mem_save {p q : Pipeline} {t : Rows}
    (listed : q ∈ (t.save p).rows.filterMap Row.pipeline?) :
    q ∈ t.rows.filterMap Row.pipeline? ∨ Rereads p q := by
  obtain ⟨r, there, read⟩ := List.mem_filterMap.mp listed
  have before {r : Row} (old : r ∈ t.rows) (read : r.pipeline? = some q) :
      q ∈ t.rows.filterMap Row.pipeline? := List.mem_filterMap.mpr ⟨r, old, read⟩
  unfold Rows.save at there
  split at there
  · obtain ⟨r', old, rfl⟩ := List.mem_map.mp there
    split at read
    · exact .inr (rereads_ofPipeline read)
    · exact .inl (before old read)
  · rcases List.mem_append.mp there with old | last
    · exact .inl (before old read)
    · rw [List.mem_singleton.mp last] at read
      exact .inr (rereads_ofPipeline read)

/-- What is listed of a table are the rows that can be read, since the others prevent it. -/
theorem eq_filterMap_of_mapM_read {rows : List Row} {ps : List Pipeline}
    (read : rows.mapM Row.read = .ok ps) : ps = rows.filterMap Row.pipeline? := by
  induction rows generalizing ps with
  | nil => exact (Except.ok.inj read).symm
  | cons r rest ih =>
    rw [List.mapM_cons] at read
    cases here : r.read with
    | error c => rw [here] at read; cases read
    | ok p =>
      cases later : rest.mapM Row.read with
      | error c => rw [here, later] at read; cases read
      | ok qs =>
        rw [here, later] at read
        obtain rfl : p :: qs = ps := Except.ok.inj read
        rw [List.filterMap_cons, Row.read_eq_ok_iff.mp here, ih later]

theorem ids_save_rows (p : Pipeline) (t : Rows) :
    (t.save p).rows.map (·.id) = addId p.id (t.rows.map (·.id)) := by
  have present : (t.rows.any fun r => r.id = p.id) = true ↔ p.id ∈ t.rows.map (·.id) := by
    simp
  rw [Rows.save, addId]
  simp only [present]
  split
  · rw [List.map_map]
    refine List.map_congr_left fun r _ => ?_
    show (if r.id = p.id then Row.ofPipeline r.number p else r).id = r.id
    split
    · rename_i here
      exact here.symm
    · rfl
  · rw [List.map_append]
    rfl

/-- The table of rows. -/
theorem shelves_rows :
    Shelves (fun t : Rows => t.rows.map (·.id)) (fun t => t.rows.filterMap Row.pipeline?) where
  empty := rfl
  listed := eq_filterMap_of_mapM_read
  known t := by
    show ((t.rows.filterMap Row.pipeline?).map _).Sublist _
    induction t.rows with
    | nil => exact .slnil
    | cons r rest ih =>
      rw [List.filterMap_cons, List.map_cons]
      split
      · exact ih.cons _
      · rename_i p read
        rw [List.map_cons, id_of_pipeline? read]
        exact ih.cons_cons _
  found := by
    intro id t p looked
    obtain ⟨r, there, read⟩ := Rows.load_eq_ok_some_iff.mp looked
    exact ⟨List.mem_filterMap.mpr ⟨r, List.mem_of_find?_eq_some there, read⟩,
      id_eq_of_get_rows looked⟩
  saved := mem_of_mem_save
  deleted := by
    intro id p t listed
    obtain ⟨r, there, read⟩ := List.mem_filterMap.mp
      (show p ∈ (t.delete id).2.rows.filterMap Row.pipeline? from listed)
    exact List.mem_filterMap.mpr ⟨r, List.mem_of_mem_filter there, read⟩
  ids_save := ids_save_rows
  ids_delete id t := by
    show (t.rows.filter _).map _ = _
    rw [List.filter_map]
    rfl

/-! ### Sessions -/

/-- Does an answer tell a pipeline? -/
def Response.Tells (p : Pipeline) : Response → Prop
  | .pipeline q => q = .ok (some p)
  | .pipelines told => ∃ ps, told = .ok ps ∧ p ∈ ps
  | .verdict _ => False
  | .value _ => False

/-- **What an operation does to the ids** that are stored: creating and importing take up an id,
unless the value is refused, and deleting gives one up. -/
def Operation.nextIds (op : Operation) (answer : Response) (ids : List String) : List String :=
  match op, answer with
  | .create fresh _, _ => addId fresh ids
  | .importValue fresh _, .pipeline (.ok (some _)) => addId fresh ids
  | .delete id, _ => ids.filter fun other => other ≠ id
  | _, _ => ids

section

variable {β : Type} [Backend β]

/-- **What is true after a session** with a store that has the given ids taken and keeps the given
pipelines there. -/
structure KeepsKeys (ids : β → List String) (kept : β → List Pipeline) (ops : List Operation) :
    Prop where
  /-- Whatever pipeline was ever told has its steps under their keys, but for the gap. -/
  told : ∀ answer ∈ (performAll ops (Backend.empty : β)).1, ∀ p, answer.Tells p → KeyedBut ops p
  stored : ∀ p ∈ kept (performAll ops (Backend.empty : β)).2, KeyedBut ops p
  /-- What is listed is what is kept. -/
  listed : ∀ ps, list (performAll ops (Backend.empty : β)).2 = .ok ps →
    ps = kept (performAll ops (Backend.empty : β)).2
  /-- Stored pipelines know their ids. -/
  known : ∀ id p, get id (performAll ops (Backend.empty : β)).2 = .ok (some p) →
    p ∈ kept (performAll ops (Backend.empty : β)).2 ∧
      p.id = id ∧ id ∈ ids (performAll ops (Backend.empty : β)).2
  /-- A patched pipeline is the one that was asked for. -/
  patched : ∀ id q p, (update id q (performAll ops (Backend.empty : β)).2).1 = .ok (some p) →
    p.id = id
  /-- No operation changes an id. -/
  next : ∀ op, ids (perform op (performAll ops (Backend.empty : β)).2).2 =
    op.nextIds (perform op (performAll ops (Backend.empty : β)).2).1
      (ids (performAll ops (Backend.empty : β)).2)

namespace Shelves

variable {ids : β → List String} {kept : β → List Pipeline} {ops : List Operation} {b : β}

/-- What is saved beside pipelines with their steps under their keys. -/
theorem keyedBut_save (shelves : Shelves ids kept) (h : ∀ p ∈ kept b, KeyedBut ops p)
    {p : Pipeline} (keyed : KeyedBut ops p) : ∀ q ∈ kept (Backend.save p b), KeyedBut ops q := by
  intro q stored
  rcases shelves.saved stored with before | back
  · exact h q before
  · exact keyed.of_rereads back

/-- **An operation of a session keeps steps under their keys.** -/
theorem perform_keyedBut (shelves : Shelves ids kept) (h : ∀ p ∈ kept b, KeyedBut ops p)
    {op : Operation} (done : op ∈ ops)
    (valid : ∀ fresh d, op = .create fresh d → d.validate = .ok ()) :
    (∀ p, (perform op b).1.Tells p → KeyedBut ops p) ∧
      ∀ p ∈ kept (perform op b).2, KeyedBut ops p := by
  cases op with
  | create fresh d =>
    have keyed := keyedBut_of_valid ops (valid fresh d rfl) fresh
    refine ⟨?_, shelves.keyedBut_save h keyed⟩
    rintro p ⟨⟩
    exact keyed
  | get id => exact ⟨fun p looked => h p (shelves.found looked).1, h⟩
  | update id q =>
    simp only [perform, update]
    split
    · refine ⟨?_, h⟩
      rintro p ⟨⟩
    · refine ⟨?_, h⟩
      rintro p ⟨⟩
    · rename_i p looked
      have keyed := (h p (shelves.found looked).1).apply q
      refine ⟨?_, shelves.keyedBut_save h keyed⟩
      rintro p ⟨⟩
      exact keyed
  | delete id =>
    refine ⟨?_, fun p stored => h p (shelves.deleted stored)⟩
    rintro p ⟨⟩
  | list =>
    refine ⟨?_, h⟩
    rintro p ⟨ps, told, listed⟩
    exact h p (shelves.listed told ▸ listed)
  | find query =>
    refine ⟨?_, h⟩
    rintro p ⟨found, told, listed⟩
    obtain ⟨ps, all, rfl⟩ := find_eq_ok told
    exact h p (shelves.listed all ▸ List.mem_of_mem_filter listed)
  | importValue fresh v =>
    simp only [perform, importValue]
    split
    · refine ⟨?_, h⟩
      rintro p ⟨⟩
    · rename_i d imported
      have keyed : KeyedBut ops (d.toPipeline fresh) := fun key s found =>
        (step_of_importable? imported found).imp_right fun lists => ⟨v, done, lists⟩
      refine ⟨?_, shelves.keyedBut_save h keyed⟩
      rintro p ⟨⟩
      exact keyed
  | exportValue id =>
    refine ⟨?_, h⟩
    rintro p ⟨⟩

/-- **So does a session.** -/
theorem performAll_keyedBut (shelves : Shelves ids kept) {rest : List Operation}
    (h : ∀ p ∈ kept b, KeyedBut ops p) (done : ∀ op ∈ rest, op ∈ ops)
    (valid : ∀ fresh d, .create fresh d ∈ rest → d.validate = .ok ()) :
    (∀ answer ∈ (performAll rest b).1, ∀ p, answer.Tells p → KeyedBut ops p) ∧
      ∀ p ∈ kept (performAll rest b).2, KeyedBut ops p := by
  induction rest generalizing b with
  | nil => exact ⟨nofun, h⟩
  | cons op rest ih =>
    obtain ⟨told, keyed⟩ := shelves.perform_keyedBut h (done op List.mem_cons_self)
      fun fresh d same => valid fresh d (same ▸ List.mem_cons_self)
    obtain ⟨later, stored⟩ := ih keyed (fun op listed => done op (List.mem_cons_of_mem _ listed))
      fun fresh d listed => valid fresh d (List.mem_cons_of_mem _ listed)
    rw [performAll_cons]
    exact ⟨List.forall_mem_cons.mpr ⟨told, later⟩, stored⟩

/-- What is found is stored under its id. -/
theorem mem_ids (shelves : Shelves ids kept) {id : String} {p : Pipeline}
    (looked : Backend.load id b = .ok (some p)) : id ∈ ids b := by
  obtain ⟨stored, rfl⟩ := shelves.found looked
  exact (shelves.known b).subset (List.mem_map_of_mem stored)

/-- **An operation does to the ids what it should**: a patch, above all, nothing. -/
theorem ids_perform (shelves : Shelves ids kept) (op : Operation) (b : β) :
    ids (perform op b).2 = op.nextIds (perform op b).1 (ids b) := by
  cases op with
  | create fresh d => exact shelves.ids_save _ b
  | update id q =>
    simp only [perform, update, Operation.nextIds]
    split
    · rfl
    · rfl
    · rename_i p looked
      have there : (q.apply p).id ∈ ids b := (shelves.found looked).2 ▸ shelves.mem_ids looked
      rw [shelves.ids_save, addId, if_pos there]
  | delete id => exact shelves.ids_delete id b
  | importValue fresh v =>
    simp only [perform, importValue]
    split
    · rfl
    · exact shelves.ids_save _ b
  | get id => rfl
  | list => rfl
  | find query => rfl
  | exportValue id => rfl

/-- A session keeps steps under their keys, and ids as they are. -/
theorem keeps (shelves : Shelves ids kept)
    (valid : ∀ fresh d, .create fresh d ∈ ops → d.validate = .ok ()) :
    KeepsKeys ids kept ops := by
  have nothing : ∀ p ∈ kept (Backend.empty : β), KeyedBut ops p := by
    intro p stored
    rw [shelves.empty] at stored
    cases stored
  obtain ⟨told, stored⟩ := shelves.performAll_keyedBut nothing (fun _ listed => listed) valid
  refine ⟨told, stored, fun _ => shelves.listed, ?_, ?_, fun op => shelves.ids_perform op _⟩
  · intro id p looked
    obtain ⟨stored, same⟩ := shelves.found looked
    exact ⟨stored, same, shelves.mem_ids looked⟩
  · intro id q p
    unfold update
    split
    · nofun
    · nofun
    · rename_i p' looked
      rintro ⟨⟩
      exact (shelves.found looked).2

end Shelves

end

/-- **Steps are under their keys in everything a store ever held**, over both backends and whatever
is imported and patched, if only the definitions that are created are valid, and but for steps that
were imported as lists.  And an id stays: it comes with a creation, goes with a deletion, and
nothing else changes it. -/
theorem keepsKeys {ops : List Operation}
    (valid : ∀ fresh d, .create fresh d ∈ ops → d.validate = .ok ()) :
    KeepsKeys (fun m : Memory => m.pipelines.map (·.id)) (fun m => m.pipelines) ops ∧
      KeepsKeys (fun t : Rows => t.rows.map (·.id)) (fun t => t.rows.filterMap Row.pipeline?) ops :=
  ⟨shelves_memory.keeps valid, shelves_rows.keeps valid⟩

/-- A value with a step that is a list. -/
def listing : Value :=
  .obj [("description", .str ""), ("name", .str "n"), ("startStepId", .str "a"),
    ("steps", .obj [("a", .arr [.str "b", .str "t"])])]

/-- A session that patches a pipeline with a step of another id, and imports a listed step. -/
def wayward : List Operation :=
  [.create "1" .brief,
    .update "1" { steps := some (.ofEntries [("a", { id := "b", tool := "t" })]) },
    .importValue "2" listing]

/-- The patched step has taken its key. -/
theorem keepsKeys_wayward :
    (∀ fresh d, .create fresh d ∈ wayward → d.validate = .ok ()) ∧
      ∃ p s, get "1" (performAll wayward (Backend.empty : Memory)).2 = .ok (some p) ∧
        p.step? "a" = some s ∧ s.id = "a" := by
  have valid : ∀ fresh d, .create fresh d ∈ wayward → d.validate = .ok () := by
    intro fresh d listed
    obtain ⟨-, rfl⟩ : fresh = "1" ∧ d = .brief := by simpa [wayward] using listed
    rfl
  obtain ⟨memory, -⟩ := keepsKeys valid
  refine ⟨valid, _, _, rfl, rfl, ?_⟩
  refine (memory.stored _ List.mem_cons_self "a" _ rfl).resolve_right ?_
  rintro ⟨v, imported, -⟩
  have under : Operation.importValue "1" v ∈ wayward := imported
  simp [wayward] at under

section

variable (β : Type) [Backend β]

/-- Does a store keep a listed step under another id? -/
def straysAfterListing : Bool :=
  match list (performAll [.importValue "1" listing] (Backend.empty : β)).2 with
  | .ok ps => ps.any fun p => (p.step? "a").any fun s => s.id ≠ "a"
  | .error _ => false

variable {β}

theorem not_keyed_of_strays (strays : straysAfterListing β = true) :
    ¬ ∀ ops : List Operation, (∀ fresh d, .create fresh d ∈ ops → d.validate = .ok ()) →
      ∀ ps, list (performAll ops (Backend.empty : β)).2 = .ok ps → ∀ p ∈ ps, p.Keyed := by
  intro keyed
  unfold straysAfterListing at strays
  split at strays
  case h_2 => cases strays
  rename_i ps listed
  obtain ⟨p, stored, stray⟩ := List.any_eq_true.mp strays
  obtain ⟨s, found, other⟩ := (Option.any_eq_true _ _).mp stray
  have same := keyed [.importValue "1" listing] (by simp) ps listed p stored "a" s found
  exact of_decide_eq_true other same

end

/-- **A listed step is not under its key**, in either backend. -/
theorem not_forall_keyed :
    (¬ ∀ ops : List Operation, (∀ fresh d, .create fresh d ∈ ops → d.validate = .ok ()) →
        ∀ ps, list (performAll ops (Backend.empty : Memory)).2 = .ok ps → ∀ p ∈ ps, p.Keyed) ∧
      ¬ ∀ ops : List Operation, (∀ fresh d, .create fresh d ∈ ops → d.validate = .ok ()) →
        ∀ ps, list (performAll ops (Backend.empty : Rows)).2 = .ok ps → ∀ p ∈ ps, p.Keyed :=
  ⟨not_keyed_of_strays (by decide +kernel), not_keyed_of_strays (by decide +kernel)⟩

end Store

end StepFlow
