import StepFlow.Proofs.Pipeline.Formats
import StepFlow.Proofs.Store.Equivalence

/-!
# Pipelines that are exported and imported

A pipeline that was exported is imported as it was, under a new id and at the end of
the list; and whatever value is imported, it is refused without a trace or becomes one
pipeline more (`Store.imports`).

Two filters stand before a value: the shape is checked first, and then a definition is
read.  What is load-bearing is that an exported pipeline passes both with nothing lost
(`Store.importable?_toValue`): its id is in none of the fields of a definition, so the
reader does not see it, and the ids of its steps are their keys, which is what the
check of the shape asks for.

A list keeps what it is given.  A table of rows keeps a text, and gives back what the
text reads as.  So over rows all this holds of definitions whose texts read back, and
not of others: some doubles are not read from the digits that identify them, and such a
number moves with every import (`Store.not_forall_imports_back`).
-/

namespace StepFlow

/-- The fields of a definition as they are written. -/
def Definition.fieldTable (d : Definition) : Table Value :=
  .ofEntries (d.toFields.filterMap fun f => f.2.map fun v => (f.1, v))

/-! ### The value of a pipeline -/

namespace Pipeline

/-- **A pipeline is written as its definition**, with the id added. -/
theorem toValue_eq (p : Pipeline) :
    p.toValue = .ofTable (p.toDefinition.fieldTable.insert "id" (.str p.id)) := by
  refine congrArg Value.ofTable (Table.ext_get? fun key => ?_)
  rw [Document.get?_ofEntries_filterMap (by simp [Definition.toFields]), Table.get?_insert,
    Definition.fieldTable, Document.get?_ofEntries_filterMap (by simp [Definition.toFields]),
    Entries.get?_cons]
  split <;> rfl

/-- A definition is read from the value of a pipeline: its id does not count. -/
theorem readDefinition_toValue (p : Pipeline) :
    Definition.read p.toValue = some p.toDefinition := by
  refine Document.read_record (by simp [Definition.toFields]) fun f shows =>
    Definition.ofFields_eq fun name known => ?_
  have other : "id" ≠ name := by
    rintro rfl
    simp [Definition.fieldNames] at known
  rw [shows name known, Entries.get?_cons, if_neg other]

/-- What is found in the value of a pipeline, other than its id. -/
theorem field?_toValue (p : Pipeline) {key : String} (other : "id" ≠ key) :
    p.toValue.field? key = (Entries.get? key p.toDefinition.toFields).join := by
  rw [toValue, Document.field?_record (by simp [Definition.toFields]), Entries.get?_cons,
    if_neg other]

end Pipeline

namespace Store

/-- A step that is declared under its id passes the check of the shape. -/
theorem hasOwnId_toValue {s : Step} {key : String} (same : s.id = key) :
    hasOwnId key s.toValue = true := by
  rw [hasOwnId, s.field?_id_toValue]
  simp [Value.text?, same]

/-- **A pipeline has the shape of a definition**, if it has steps, and these are declared
under their ids. -/
theorem hasShape_toValue {p : Pipeline} (steps : p.steps.isEmpty = false) (keyed : p.Keyed) :
    hasShape p.toValue = true := by
  have texts : (["name", "description", "startStepId"].all fun key =>
      ((p.toValue.field? key).bind Value.text?).isSome) = true := by
    simp [p.field?_toValue, Definition.toFields, Entries.get?_cons, Value.text?]
  have written : p.toValue.field? "steps" =
      some (.obj (p.steps.mapValues fun _ s => s.toValue).entries) := by
    rw [p.field?_toValue (by decide)]
    simp [Definition.toFields, Entries.get?_cons, Value.ofTableWith, Value.ofTable]
  unfold hasShape
  rw [texts, written, Bool.true_and, Bool.and_eq_true, Bool.not_eq_true', List.all_eq_true]
  constructor
  · cases listed : p.steps.entries with
    | nil =>
      rw [Table.isEmpty, listed] at steps
      cases steps
    | cons e rest =>
      show (p.steps.entries.map _).isEmpty = false
      rw [listed]
      rfl
  · intro e listed
    obtain ⟨⟨key, s⟩, stored, rfl⟩ := List.mem_map.mp listed
    exact hasOwnId_toValue (keyed key s ((Table.mem_entries_iff _ _ _).mp stored))

/-- **What was exported passes both filters with nothing lost.** -/
theorem importable?_toValue {p : Pipeline} (steps : p.steps.isEmpty = false) (keyed : p.Keyed) :
    importable? p.toValue = some p.toDefinition := by
  rw [importable?, if_pos (hasShape_toValue steps keyed), p.readDefinition_toValue]

end Store

/-! ### One pipeline more -/

namespace Store

section

variable {β : Type} [Backend β]

/-- **An id is new** to a store: there is nothing to delete under it. -/
def IsNew (id : String) (b : β) : Prop := (delete id b).1 = false

/-- **One pipeline more**, at the end of the list, if the store can be listed; under the other
ids is what was there before. -/
structure Adds (p : Pipeline) (b b' : β) : Prop where
  listed : list b' = (list b).map fun ps => ps ++ [p]
  stored : get p.id b' = .ok (some p)
  others : ∀ id, id ≠ p.id → get id b' = get id b

/-- **How a store imports**, where definitions that are `kept` are given back as they
were stored. -/
structure Imports (kept : Definition → Prop) (fresh : String) (b : β) : Prop where
  /-- What was exported is imported as it was, at the end of the list, and exported alike
  but for the id. -/
  exported : ∀ id p, get id b = .ok (some p) → p.steps.isEmpty = false → p.Keyed →
    kept p.toDefinition →
    ∃ v q b', ∃ t : Table Value, exportValue id b = .ok (some v) ∧
      importValue fresh v b = (some q, b') ∧
      q.id = fresh ∧ q.toDefinition = p.toDefinition ∧ Adds q b b' ∧
      v = .ofTable (t.insert "id" (.str id)) ∧
      exportValue fresh b' = .ok (some (.ofTable (t.insert "id" (.str fresh))))
  /-- Any value at all is refused and leaves no trace, or becomes one pipeline more. -/
  any : ∀ v, importValue fresh v b = (none, b) ∨
    ∃ q b', importValue fresh v b = (some q, b') ∧ q.id = fresh ∧
      (kept q.toDefinition → Adds q b b')

/-- **An import is refused or a creation**: the value leaves no trace, or what is read from it
is saved under the fresh id. -/
theorem importValue_cases (fresh : String) (v : Value) (b : β) :
    importValue fresh v b = (none, b) ∨
      ∃ q : Pipeline, q.id = fresh ∧ q.toDefinition.Filled ∧
        importValue fresh v b = (some q, Backend.save q b) := by
  cases read : importable? v with
  | none =>
    left
    rw [importValue, read]
  | some d =>
    right
    refine ⟨d.toPipeline fresh, rfl, d.filled_toPipeline fresh, ?_⟩
    rw [importValue, read]
    rfl

/-- **A store imports as it should if it saves as it should**: a pipeline under a new id
is one more.  Pipelines must know the id that they are under. -/
theorem imports_of_adds {kept : Definition → Prop} {fresh : String} {b : β}
    (known : ∀ id p, get id b = .ok (some p) → p.id = id)
    (adds : ∀ p : Pipeline, p.id = fresh → p.toDefinition.Filled → kept p.toDefinition →
      Adds p b (Backend.save p b)) : Imports kept fresh b where
  exported := by
    intro id p found steps keyed back
    have same : (p.toDefinition.toPipeline fresh).toDefinition = p.toDefinition := keyed.filled
    have added : Adds (p.toDefinition.toPipeline fresh) b _ :=
      adds _ rfl (Definition.filled_toPipeline _ fresh) (same.symm ▸ back)
    refine ⟨p.toValue, _, _, p.toDefinition.fieldTable, ?_, ?_, rfl, same, added, ?_, ?_⟩
    · exact congrArg (Except.map (Option.map Pipeline.toValue)) found
    · rw [importValue, importable?_toValue steps keyed]
      rfl
    · rw [p.toValue_eq, known id p found]
    · refine (congrArg (Except.map (Option.map Pipeline.toValue)) added.stored).trans ?_
      rw [Except.map, Option.map_some, Pipeline.toValue_eq, same]
      rfl
  any := by
    intro v
    refine (importValue_cases fresh v b).imp_right ?_
    rintro ⟨q, id, filled, imported⟩
    exact ⟨q, _, imported, id, adds q id filled⟩

end

/-- A list takes up a pipeline under a new id. -/
theorem adds_memory {m : Memory} {p : Pipeline} (new : IsNew p.id m) : Adds p m (m.save p) := by
  have absent : ∀ q ∈ m.pipelines, q.id ≠ p.id := by
    have unchanged :
        decide ((m.pipelines.filter fun q => q.id ≠ p.id).length ≠ m.pipelines.length) = false :=
      new
    rw [decide_eq_false_iff_not, ne_eq, not_not, List.length_filter_eq_length_iff] at unchanged
    simpa using unchanged
  have saved : (m.save p).pipelines = m.pipelines ++ [p] := Memory.put_eq_append absent
  refine ⟨congrArg Except.ok saved, congrArg Except.ok ?_, fun id other => congrArg Except.ok ?_⟩
  · show (m.save p).pipelines.find? _ = some p
    rw [saved, List.find?_append, List.find?_eq_none.mpr (by simpa using absent)]
    simp
  · show (m.save p).pipelines.find? _ = m.pipelines.find? _
    rw [saved, List.find?_append]
    simp [other.symm]

section Rows

variable {t : Rows} {p : Pipeline}

/-- A table of rows takes up a pipeline under a new id as a row at its end. -/
theorem save_rows (new : IsNew p.id t) :
    t.save p = ⟨t.rows ++ [.ofPipeline t.next p], t.next + 1⟩ := by
  have absent : (t.rows.any fun r => r.id = p.id) = false := new
  rw [Rows.save, if_neg (by rw [absent]; exact Bool.false_ne_true)]

/-- So it has one pipeline more, if the text of the definition reads back. -/
theorem adds_rows (new : IsNew p.id t) (filled : p.toDefinition.Filled)
    (back : p.toDefinition.ReadsBack) : Adds p t (t.save p) := by
  have held := Row.holds_ofPipeline t.next filled back
  have absent : (t.rows.find? fun r => r.id = p.id) = none := by
    have unmatched : (t.rows.any fun r => r.id = p.id) = false := new
    rwa [← Option.not_isSome_iff_eq_none, List.find?_isSome, ← List.any_eq_true,
      Bool.not_eq_true]
  rw [save_rows new]
  refine ⟨?_, ?_, fun id other => ?_⟩
  · show (t.rows ++ [_]).mapM Row.read = (t.rows.mapM Row.read).map fun ps => ps ++ [p]
    rw [List.mapM_append, List.mapM_cons, List.mapM_nil, held.read]
    cases t.rows.mapM Row.read <;> rfl
  · refine (Rows.load_of_find? (r := .ofPipeline t.next p) ?_).trans ?_
    · show (t.rows ++ [_]).find? _ = _
      rw [List.find?_append, absent, Option.none_or, List.find?_cons_of_pos (by simp [held.id])]
    · rw [held.read]
      rfl
  · refine Rows.load_congr ?_
    show (t.rows ++ [_]).find? _ = _
    rw [List.find?_append]
    simp [held.id, other.symm]

end Rows

/-- What is found in a list knows the id that it is found under. -/
theorem id_eq_of_get_memory {m : Memory} {id : String} {p : Pipeline}
    (found : get id m = .ok (some p)) : p.id = id := by
  simpa using List.find?_some (show m.pipelines.find? _ = some p from Except.ok.inj found)

/-- What a row is read as has the id of the row. -/
theorem id_of_pipeline? {r : Row} {p : Pipeline} (h : r.pipeline? = some p) : p.id = r.id := by
  obtain ⟨t, -, h⟩ := Option.bind_eq_some_iff.mp h
  obtain ⟨d, -, rfl⟩ := Option.map_eq_some_iff.mp h
  rfl

/-- What is found in a row takes the id that it is found under. -/
theorem id_eq_of_get_rows {t : Rows} {id : String} {p : Pipeline}
    (found : get id t = .ok (some p)) : p.id = id := by
  obtain ⟨r, looked, read⟩ := Rows.load_eq_ok_some_iff.mp found
  rw [id_of_pipeline? read]
  simpa using List.find?_some looked

/-- **Imports work over both backends.**  What was exported is imported as it was, at the
end of the list and under the new id, and any value is refused without a trace or becomes
one pipeline more: over a list always, over a table of rows where the texts of definitions
read back.  Whatever its text reads as, an import leaves the rows that are there as they
are. -/
theorem imports {fresh : String} {m : Memory} {t : Rows} (new : IsNew fresh m)
    (newRow : IsNew fresh t) :
    Imports (fun _ => True) fresh m ∧ Imports Definition.ReadsBack fresh t ∧
      ∀ v, importValue fresh v t = (none, t) ∨
        ∃ q, q.id = fresh ∧
          importValue fresh v t = (some q, ⟨t.rows ++ [.ofPipeline t.next q], t.next + 1⟩) := by
  refine ⟨?_, ?_, fun v => ?_⟩
  · refine imports_of_adds (fun _ _ => id_eq_of_get_memory) ?_
    rintro p rfl - -
    exact adds_memory new
  · refine imports_of_adds (fun _ _ => id_eq_of_get_rows) ?_
    rintro p rfl filled back
    exact adds_rows newRow filled back
  · refine (importValue_cases fresh v t).imp_right ?_
    rintro ⟨q, rfl, -, imported⟩
    exact ⟨q, rfl, imported.trans (congrArg _ (save_rows newRow))⟩

/-- A store of one pipeline. -/
def single (β : Type) [Backend β] (d : Definition) : β := (create "1" d Backend.empty).2

/-- The one pipeline of a store is imported again, over both backends. -/
theorem imports_single :
    (IsNew "2" (single Memory lone) ∧ IsNew "2" (single Rows lone)) ∧
      (∃ m, importValue "2" (lone.toPipeline "1").toValue (single Memory lone) =
          (some (lone.toPipeline "2"), m) ∧
        list m = .ok [lone.toPipeline "1", lone.toPipeline "2"]) ∧
      ∃ t, importValue "2" (lone.toPipeline "1").toValue (single Rows lone) =
          (some (lone.toPipeline "2"), t) ∧
        list t = .ok [lone.toPipeline "1", lone.toPipeline "2"] := by
  have new : IsNew "2" (single Memory lone) := rfl
  have newRow : IsNew "2" (single Rows lone) := rfl
  have back : (lone.toPipeline "1").toDefinition.ReadsBack := readsBack_lone
  have keyed : (lone.toPipeline "1").Keyed := by
    intro key s found
    obtain ⟨s', stored, rfl⟩ := Option.map_eq_some_iff.mp ((lone.get?_fillIds key).symm.trans found)
    obtain ⟨rfl, rfl⟩ : key = "step" ∧ s' = { id := "", tool := "work" } := by
      have only : (key, s') ∈ [("step", ({ id := "", tool := "work" } : Step))] :=
        (Table.mem_entries_iff _ _ _).mpr stored
      simpa using only
    rfl
  have row : Adds (lone.toPipeline "1") (Backend.empty : Rows) (single Rows lone) :=
    adds_rows rfl (lone.filled_toPipeline "1") back
  -- a pipeline is its id and its definition
  have renamed {q : Pipeline} (id : q.id = "2")
      (same : q.toDefinition = (lone.toPipeline "1").toDefinition) : q = lone.toPipeline "2" := by
    obtain ⟨d, i⟩ := q
    obtain rfl : i = "2" := id
    obtain rfl : d = lone.fillIds := same
    rfl
  obtain ⟨overList, overRows, -⟩ := imports new newRow
  refine ⟨⟨new, newRow⟩, ?_, ?_⟩
  · obtain ⟨v, q, m, -, exported, imported, id, same, adds, -, -⟩ :=
      overList.exported "1" (lone.toPipeline "1") rfl rfl keyed trivial
    obtain rfl := renamed id same
    obtain rfl : (lone.toPipeline "1").toValue = v := Option.some.inj (Except.ok.inj exported)
    exact ⟨m, imported, adds.listed⟩
  · obtain ⟨v, q, t, -, exported, imported, id, same, adds, -, -⟩ :=
      overRows.exported "1" (lone.toPipeline "1") row.stored rfl keyed back
    obtain rfl := renamed id same
    rw [exportValue, show Backend.load "1" (single Rows lone) = _ from row.stored] at exported
    obtain rfl : (lone.toPipeline "1").toValue = v := Option.some.inj (Except.ok.inj exported)
    exact ⟨t, imported, by rw [adds.listed, row.listed]; rfl⟩

/-- A definition with the double `1.0000000000000001e-24` in its state.  It is read from
these digits as the double `1e-24`, and that one from its digits as the first. -/
def drifting : Definition where
  name := "n"
  start := "a"
  steps := .ofEntries [("a", { id := "a", tool := "t" })]
  globalState := .ofEntries [("x", .float ⟨false, 5444517870735016, -132, by decide⟩)]

/-- Is a pipeline of a table written otherwise than what its import is read as? -/
def movesOnImport (id fresh : String) (t : Rows) : Bool :=
  match get id t with
  | .ok (some p) =>
    match get fresh (importValue fresh p.toValue t).2 with
    | .ok (some q) =>
      !p.steps.isEmpty && p.steps.entries.all (fun e => e.2.id = e.1) &&
        decide (q.toDefinition.toValue.compact ≠ p.toDefinition.toValue.compact)
    | _ => false
  | _ => false

/-- **A table of rows does not import every pipeline as it was**: the number in the state
comes out of the row of the import as another one. -/
theorem not_forall_imports_back :
    ¬ ∀ (t : Rows) (fresh id : String) (p : Pipeline), IsNew fresh t → get id t = .ok (some p) →
      p.steps.isEmpty = false → p.Keyed →
      ∃ q, get fresh (importValue fresh p.toValue t).2 = .ok (some q) ∧
        q.toDefinition = p.toDefinition := by
  intro same
  have moves : movesOnImport "1" "2" (single Rows drifting) = true := by decide +kernel
  unfold movesOnImport at moves
  split at moves
  case h_2 => cases moves
  rename_i p found
  split at moves
  case h_2 => cases moves
  rename_i q imported
  simp only [Bool.and_eq_true, Bool.not_eq_true', List.all_eq_true, decide_eq_true_iff] at moves
  obtain ⟨⟨steps, keys⟩, moves⟩ := moves
  have keyed : p.Keyed := fun key s stored =>
    keys (key, s) ((Table.mem_entries_iff _ _ _).mpr stored)
  obtain ⟨q', again, kept⟩ := same (single Rows drifting) "2" "1" p rfl found steps keyed
  obtain rfl : q = q' := Option.some.inj (Except.ok.inj (imported.symm.trans again))
  rw [kept] at moves
  exact moves rfl

end Store

end StepFlow
