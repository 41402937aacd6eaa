import StepFlow.Proofs.Store.Imports

/-!
# What a backend has under one id

Requests for one pipeline see of a backend what is under its id: whether the place is taken, and
which pipeline can be read there (`Store.slot`).  This is itself a backend, with room for one
pipeline (`Store.Slot`).

Both backends keep ids apart (`Store.KeepsApart`), so what is done under one id leaves the others
as they are, whichever operation it is (`Store.KeepsApart.slot_perform`).  They differ in what they
give back of a pipeline that was saved.  A list gives back every pipeline.  A table of rows gives
back those whose text reads back, and it can have a place taken by a row whose reading is an error.
-/

namespace StepFlow

namespace Store

/-- **What is under an id**, as a store with room for one pipeline, whatever its id is: the place
is taken or not, and there is what comes of reading it. -/
structure Slot where
  taken : Bool
  pipeline : Except Corrupt (Option Pipeline)

instance : Backend Slot where
  empty := ⟨false, .ok none⟩
  save p _ := ⟨true, .ok (some p)⟩
  load _ s := s.pipeline
  delete _ s := (s.taken, ⟨false, .ok none⟩)
  list s := s.pipeline.map Option.toList

section

variable {β : Type} [Backend β]

/-- What a backend has under an id. -/
def slot (id : String) (b : β) : Slot := ⟨(Backend.delete id b).1, Backend.load id b⟩

variable (β) in
/-- **A backend keeps ids apart.** -/
structure KeepsApart : Prop where
  id_of_load : ∀ {id p} {b : β}, Backend.load id b = .ok (some p) → p.id = id
  taken_of_load : ∀ {id p} {b : β}, Backend.load id b = .ok (some p) →
    (Backend.delete id b).1 = true
  slot_save_of_ne : ∀ {id p} (b : β), p.id ≠ id → slot id (Backend.save p b) = slot id b
  slot_delete : ∀ id (b : β), slot id (Backend.delete id b).2 = ⟨false, .ok none⟩
  slot_delete_of_ne : ∀ {id other} (b : β), other ≠ id →
    slot id (Backend.delete other b).2 = slot id b

variable (β) in
/-- **A backend gives a pipeline back** whenever it was saved. -/
def GivesBack (p : Pipeline) : Prop :=
  ∀ b : β, Backend.load p.id (Backend.save p b) = .ok (some p)

theorem KeepsApart.slot_save (apart : KeepsApart β) {p : Pipeline} (back : GivesBack β p) (b : β) :
    slot p.id (Backend.save p b) = ⟨true, .ok (some p)⟩ := by
  unfold slot
  rw [back b, apart.taken_of_load (back b)]

theorem update_of_error {id : String} {b : β} {c : Corrupt} (failed : Backend.load id b = .error c)
    (q : Patch) : update id q b = (.error c, b) := by
  simp only [update, failed]

theorem update_of_none {id : String} {b : β} (missing : Backend.load id b = .ok none)
    (q : Patch) : update id q b = (.ok none, b) := by
  simp only [update, missing]

theorem update_of_some {id : String} {b : β} {p : Pipeline}
    (found : Backend.load id b = .ok (some p)) (q : Patch) :
    update id q b = (.ok (some (q.apply p)), Backend.save (q.apply p) b) := by
  simp only [update, found]

/-- **An operation spares an id**: it neither stores nor deletes a pipeline under it. -/
def Operation.Spares (id : String) : Operation → Prop
  | .create fresh _ => fresh ≠ id
  | .importValue fresh _ => fresh ≠ id
  | .update other _ => other ≠ id
  | .delete other => other ≠ id
  | .get _ | .list | .find _ | .exportValue _ => True

/-- An operation that spares an id leaves what is under it. -/
theorem KeepsApart.slot_perform (apart : KeepsApart β) {id : String} {op : Operation}
    (spares : op.Spares id) (b : β) : slot id (perform op b).2 = slot id b := by
  cases op with
  | create fresh d => exact apart.slot_save_of_ne b spares
  | importValue fresh v =>
    show slot id (importValue fresh v b).2 = _
    rcases importValue_cases fresh v b with refused | ⟨p, rfl, -, imported⟩
    · rw [refused]
    · rw [imported]
      exact apart.slot_save_of_ne b spares
  | update other q =>
    show slot id (update other q b).2 = _
    rcases found : Backend.load other b with c | _ | p
    · rw [update_of_error found]
    · rw [update_of_none found]
    · obtain rfl : p.id = other := apart.id_of_load found
      rw [update_of_some found]
      exact apart.slot_save_of_ne b spares
  | delete other => exact apart.slot_delete_of_ne b spares
  | get => rfl
  | list => rfl
  | find => rfl
  | exportValue => rfl

end

/-! ### Both backends -/

section

variable {α : Type} (key : α → String) (id : String) (as : List α)

/-- Nothing is found under a key that was filtered out. -/
theorem find?_filter_key :
    (as.filter fun a => key a ≠ id).find? (fun a => key a = id) = none := by
  refine List.find?_eq_none.mpr fun a listed => ?_
  have other := (List.mem_filter.mp listed).2
  simpa using other

/-- Under the other keys the same is found. -/
theorem find?_filter_other_key {other : String} (differs : other ≠ id) :
    (as.filter fun a => key a ≠ other).find? (fun a => key a = id) =
      as.find? fun a => key a = id := by
  rw [List.find?_filter]
  refine List.find?_congr fun a _ => ?_
  rw [Bool.eq_iff_iff]
  simp only [decide_eq_true_eq]
  exact and_iff_right_of_imp fun here gone => differs (gone.symm.trans here)

end

section Memory

variable {id : String} {p : Pipeline}

/-- A list finds a pipeline where it was put. -/
theorem find?_put (p : Pipeline) (ps : List Pipeline) :
    (Memory.put p ps).find? (fun r => r.id = p.id) = some p := by
  induction ps with
  | nil => exact List.find?_cons_of_pos (by simp)
  | cons r rest ih =>
    rw [Memory.put]
    split
    · exact List.find?_cons_of_pos (by simp)
    · rename_i elsewhere
      rw [List.find?_cons_of_neg (by simpa using elsewhere), ih]

/-- Under the other ids it finds what it found before. -/
theorem find?_put_of_ne (other : p.id ≠ id) (ps : List Pipeline) :
    (Memory.put p ps).find? (fun r => r.id = id) = ps.find? fun r => r.id = id := by
  induction ps with
  | nil => exact List.find?_cons_of_neg (by simpa using other)
  | cons r rest ih =>
    rw [Memory.put]
    split
    · rename_i here
      rw [List.find?_cons_of_neg (by simpa using other),
        List.find?_cons_of_neg (by simpa [here] using other)]
    · rw [List.find?_cons, List.find?_cons, ih]

/-- A list has a place taken where it finds something. -/
theorem slot_memory (id : String) (m : Memory) :
    slot id m = ⟨(m.load id).isSome, .ok (m.load id)⟩ := by
  have taken : decide ((m.pipelines.filter fun r => r.id ≠ id).length ≠ m.pipelines.length) =
      (m.load id).isSome := by
    unfold Memory.load
    rw [Bool.eq_iff_iff, decide_eq_true_eq, List.find?_isSome, ne_eq,
      List.length_filter_eq_length_iff]
    simp
  exact congrArg (fun b => Slot.mk b (.ok (m.load id))) taken

/-- A list has the same under an id where it finds the same. -/
theorem slot_memory_congr {m m' : Memory} (same : m'.load id = m.load id) :
    slot id m' = slot id m := by
  rw [slot_memory, slot_memory, same]

/-- **A list keeps ids apart.** -/
theorem keepsApart_memory : KeepsApart Memory where
  id_of_load := id_eq_of_get_memory
  taken_of_load := by
    intro id p m found
    refine (congrArg Slot.taken (slot_memory id m)).trans ?_
    exact congrArg Option.isSome (Except.ok.inj found)
  slot_save_of_ne m other := slot_memory_congr (find?_put_of_ne other m.pipelines)
  slot_delete id m := by
    have gone : (m.delete id).2.load id = none := find?_filter_key _ id m.pipelines
    show slot id (m.delete id).2 = _
    rw [slot_memory, gone]
    rfl
  slot_delete_of_ne m differs := slot_memory_congr (find?_filter_other_key _ _ _ differs)

/-- A list gives every pipeline back. -/
theorem givesBack_memory (p : Pipeline) : GivesBack Memory p :=
  fun m => congrArg Except.ok (find?_put p m.pipelines)

end Memory

section Rows

variable {id : String} {p : Pipeline} {t : Rows}

/-- The row under an id. -/
def row? (id : String) (t : Rows) : Option Row := t.rows.find? fun r => r.id = id

/-- A table has a place taken where it has a row. -/
theorem slot_rows (id : String) (t : Rows) : slot id t = ⟨(row? id t).isSome, t.load id⟩ := by
  unfold row?
  rw [List.isSome_find?]
  rfl

/-- A table has the same under an id where it has the same row. -/
theorem slot_rows_congr {t t' : Rows} (same : row? id t' = row? id t) : slot id t' = slot id t := by
  rw [slot_rows, slot_rows, same, Rows.load_congr same]

/-- A row that is replaced keeps its id. -/
theorem find?_replaced (id : String) (p : Pipeline) (rows : List Row) :
    (rows.map fun r => if r.id = p.id then .ofPipeline r.number p else r).find?
        (fun r => r.id = id) =
      (rows.find? fun r => r.id = id).map
        fun r => if r.id = p.id then .ofPipeline r.number p else r := by
  rw [List.find?_map]
  congr 1
  refine List.find?_congr fun r _ => ?_
  show decide ((if r.id = p.id then Row.ofPipeline r.number p else r).id = id) = _
  split
  · rename_i here
    rw [here]
    rfl
  · rfl

/-- Under the other ids, a table has the rows that it had before a pipeline was saved. -/
theorem row?_save_of_ne (other : p.id ≠ id) (t : Rows) : row? id (t.save p) = row? id t := by
  unfold row? Rows.save
  split
  · show (t.rows.map _).find? _ = _
    rw [find?_replaced]
    cases found : t.rows.find? fun r => r.id = id with
    | none => rfl
    | some r =>
      have here : r.id = id := by simpa using List.find?_some found
      rw [Option.map_some, if_neg (here ▸ other.symm)]
  · show (t.rows ++ [_]).find? _ = _
    rw [List.find?_append, List.find?_cons_of_neg (by simp [Row.ofPipeline, other])]
    exact Option.or_none

/-- A table has a row for a pipeline that was saved. -/
theorem row?_save (p : Pipeline) (t : Rows) :
    ∃ number, row? p.id (t.save p) = some (.ofPipeline number p) := by
  unfold row? Rows.save
  split
  · rename_i present
    rw [← List.isSome_find?, Option.isSome_iff_exists] at present
    obtain ⟨r, found⟩ := present
    have here : r.id = p.id := by simpa using List.find?_some found
    refine ⟨r.number, ?_⟩
    show (t.rows.map _).find? _ = _
    rw [find?_replaced, found, Option.map_some, if_pos here]
  · rename_i absent
    have none : t.rows.find? (fun r => r.id = p.id) = none := by
      rwa [← List.isSome_find?, Option.not_isSome_iff_eq_none] at absent
    refine ⟨t.next, ?_⟩
    show (t.rows ++ [_]).find? _ = _
    rw [List.find?_append, none, Option.none_or]
    exact List.find?_cons_of_pos (by simp [Row.ofPipeline])

/-- **A table of rows keeps ids apart.** -/
theorem keepsApart_rows : KeepsApart Rows where
  id_of_load := id_eq_of_get_rows
  taken_of_load := by
    intro id p t found
    obtain ⟨r, there, -⟩ := Rows.load_eq_ok_some_iff.mp found
    exact (congrArg Slot.taken (slot_rows id t)).trans (congrArg Option.isSome there)
  slot_save_of_ne t other := slot_rows_congr (row?_save_of_ne other t)
  slot_delete id t := by
    have gone : row? id (t.delete id).2 = none := find?_filter_key _ id t.rows
    show slot id (t.delete id).2 = _
    rw [slot_rows, gone, Rows.load_of_find?_eq_none gone]
    rfl
  slot_delete_of_ne t differs := slot_rows_congr (find?_filter_other_key _ _ _ differs)

/-- **A table gives a pipeline back** if its text reads back and no id is missing. -/
theorem givesBack_rows (filled : p.toDefinition.Filled) (back : p.toDefinition.ReadsBack) :
    GivesBack Rows p := by
  intro t
  obtain ⟨number, there⟩ := row?_save p t
  exact Rows.load_eq_ok_some_iff.mpr ⟨_, there, (Row.holds_ofPipeline number filled back).pipeline⟩

/-- What is loaded from a table has no missing ids. -/
theorem filled_of_load_rows (found : get id t = .ok (some p)) : p.toDefinition.Filled := by
  obtain ⟨r, -, read⟩ := Rows.load_eq_ok_some_iff.mp found
  obtain ⟨text, -, read⟩ := Option.bind_eq_some_iff.mp read
  obtain ⟨d, -, rfl⟩ := Option.map_eq_some_iff.mp read
  exact d.filled_toPipeline r.id

theorem eq_error_of_map {α α' : Type} {f : α → α'} {answer : Except Corrupt α} {c : Corrupt}
    (failed : answer.map f = .error c) : answer = .error c := by
  cases answer with
  | error d => exact congrArg Except.error (Except.error.inj failed)
  | ok a => cases failed

/-- Rows are not all read because of the first one that cannot be. -/
theorem exists_of_mapM_read_eq_error {rows : List Row} {c : Corrupt}
    (failed : rows.mapM Row.read = .error c) :
    ∃ before r after, rows = before ++ r :: after ∧ r.read = .error c ∧
      ∀ x ∈ before, ∃ p, x.read = .ok p := by
  induction rows with
  | nil => cases failed
  | cons r rest ih =>
    rw [List.mapM_cons] at failed
    cases here : r.read with
    | error d =>
      rw [here] at failed
      cases failed
      exact ⟨[], r, rest, rfl, here, List.forall_mem_nil _⟩
    | ok p =>
      cases later : rest.mapM Row.read with
      | ok ps => rw [here, later] at failed; cases failed
      | error d =>
        rw [here, later] at failed
        cases failed
        obtain ⟨before, x, after, rfl, unread, reads⟩ := ih later
        exact ⟨r :: before, x, after, rfl, unread, List.forall_mem_cons.mpr ⟨⟨p, here⟩, reads⟩⟩

/-- **An error of a table names a row that cannot be read.** -/
theorem exists_row_of_fails {op : Operation} {c : Corrupt} (fails : (perform op t).1.Fails c) :
    ∃ r ∈ t.rows, r.id = c.id ∧ r.pipeline? = none := by
  have named {r : Row} (unread : r.read = .error c) : r.id = c.id ∧ r.pipeline? = none := by
    obtain ⟨none, rfl⟩ := Row.read_eq_error_iff.mp unread
    exact ⟨rfl, none⟩
  have loading {id : String} (failed : Backend.load id t = .error c) :
      ∃ r ∈ t.rows, r.id = c.id ∧ r.pipeline? = none := by
    have failed : t.load id = .error c := failed
    cases found : row? id t with
    | none => rw [Rows.load_of_find?_eq_none found] at failed; cases failed
    | some r =>
      rw [Rows.load_of_find? found] at failed
      exact ⟨r, List.mem_of_find?_eq_some found, named (eq_error_of_map failed)⟩
  have listing (failed : Backend.list t = .error c) :
      ∃ r ∈ t.rows, r.id = c.id ∧ r.pipeline? = none := by
    obtain ⟨before, r, after, rows, unread, -⟩ := exists_of_mapM_read_eq_error failed
    exact ⟨r, rows ▸ List.mem_append_right before List.mem_cons_self, named unread⟩
  cases op with
  | create fresh d => cases fails
  | delete id => cases fails
  | importValue fresh v => cases fails
  | get id => exact loading fails
  | update id q =>
    simp only [perform, update] at fails
    split at fails
    · rename_i d failed
      cases fails
      exact loading failed
    · cases fails
    · cases fails
  | list => exact listing fails
  | find query => exact listing (eq_error_of_map fails)
  | exportValue id => exact loading (eq_error_of_map fails)

end Rows

end Store

end StepFlow
