import StepFlow.Proofs.Document.Texts
import StepFlow.Proofs.Pipeline.Formats

/-!
# Where the ids of steps are read from

A definition is read by looking up its fields, a step likewise.  Here it is said where what was
read stood in the document, whatever kind of document it is: under the key of its step, in the
field `id` (`Definition.step_of_read`, `Step.id_of_read`).  A list may stand for a record, and a
step that is read from a list has its first item for an id.

A definition that was written and comes back from the text has the steps that were written, under
the same keys and with the same ids, whatever became of the numbers in them
(`Definition.step_of_read_shown`).
-/

namespace StepFlow

namespace Table

variable {α : Type}

/-- What is found after entries were written is one of them, or was there before. -/
theorem mem_of_get?_insertAll {t : Table α} {entries : Entries α} {key : String} {a : α}
    (found : (t.insertAll entries).get? key = some a) :
    (key, a) ∈ entries ∨ t.get? key = some a := by
  induction entries generalizing t with
  | nil => exact .inr found
  | cons e rest ih =>
    rcases ih (show ((t.insert e.1 e.2).insertAll rest).get? key = some a from found) with
      listed | before
    · exact .inl (List.mem_cons_of_mem _ listed)
    · rw [get?_insert] at before
      split at before
      · rename_i here
        subst here
        cases before
        exact .inl List.mem_cons_self
      · exact .inr before

/-- What is found in a table of entries is among them. -/
theorem mem_of_get?_ofEntries {entries : Entries α} {key : String} {a : α}
    (found : (ofEntries entries).get? key = some a) : (key, a) ∈ entries :=
  (mem_of_get?_insertAll found).resolve_right nofun

end Table

namespace Document

variable {δ α : Type}

/-- **A field that is kept is one of the document**, the only one of its name. -/
theorem get?_keepNamed {names : List String} {raw : RawFields δ} {f : Fields δ}
    (kept : keepNamed names raw = some f) {name : String} (known : name ∈ names) (d : δ) :
    f.get? name = some d ↔ (some name, d) ∈ raw := by
  induction raw generalizing f with
  | nil =>
    cases kept
    exact ⟨nofun, nofun⟩
  | cons e rest ih =>
    obtain ⟨k?, x⟩ := e
    cases k? with
    | none => cases kept
    | some k =>
      obtain ⟨fields, later, kept⟩ := Option.bind_eq_some_iff.mp kept
      have others := ih later
      split at kept
      · obtain ⟨fresh, same⟩ := Option.ite_none_left_eq_some.mp kept
        cases same
        rw [Fields.get?, Entries.get?_cons, List.mem_cons]
        split
        · rename_i here
          subst here
          constructor
          · rintro ⟨⟩
            exact .inl rfl
          · rintro (same | again)
            · cases same
              rfl
            · -- a second field of the name would have been refused
              have listed := Entries.mem_of_get? (others.mpr again)
              exact absurd (List.any_eq_true.mpr ⟨_, listed, decide_eq_true rfl⟩) fresh
        · rename_i other
          refine others.trans ⟨.inr, fun listed => listed.resolve_left ?_⟩
          rintro ⟨⟩
          exact other rfl
      · rename_i unknown
        cases kept
        refine others.trans ⟨List.mem_cons_of_mem _, fun listed => ?_⟩
        refine (List.mem_cons.mp listed).resolve_left ?_
        rintro ⟨⟩
        exact unknown (List.contains_iff_mem.mpr known)

/-- Every entry that is read stood in the document under its key. -/
theorem mem_of_readEntries {read : δ → Option α} {raw : RawFields δ} {entries : Entries α}
    (h : readEntries read raw = some entries) {key : String} {a : α} (listed : (key, a) ∈ entries) :
    ∃ d, (some key, d) ∈ raw ∧ read d = some a := by
  induction raw generalizing entries with
  | nil =>
    cases h
    cases listed
  | cons e rest ih =>
    obtain ⟨k?, x⟩ := e
    cases k? with
    | none => cases h
    | some k =>
      obtain ⟨b, first, h⟩ := Option.bind_eq_some_iff.mp h
      obtain ⟨others, later, same⟩ := Option.bind_eq_some_iff.mp h
      cases same
      rcases List.mem_cons.mp listed with here | listed
      · cases here
        exact ⟨x, List.mem_cons_self, first⟩
      · obtain ⟨d, stood, read⟩ := ih later listed
        exact ⟨d, List.mem_cons_of_mem _ stood, read⟩

variable [Document δ]

/-- **What a table was read from** stood in the document under its key. -/
theorem mem_of_table? {read : δ → Option α} {d : δ} {t : Table α} (h : table? read d = some t)
    {key : String} {a : α} (found : t.get? key = some a) :
    ∃ raw x, entries? d = some raw ∧ (some key, x) ∈ raw ∧ read x = some a := by
  obtain ⟨raw, opened, h⟩ := Option.bind_eq_some_iff.mp h
  obtain ⟨entries, listed, rfl⟩ := Option.map_eq_some_iff.mp h
  obtain ⟨x, stood, read⟩ := mem_of_readEntries listed (Table.mem_of_get?_ofEntries found)
  exact ⟨raw, x, opened, stood, read⟩

/-- Of a map the fields with the given names are kept. -/
theorem fields?_of_entries {names : List String} {d : δ} {raw : RawFields δ}
    (opened : entries? d = some raw) : fields? names d = keepNamed names raw := by
  unfold fields?
  rw [opened]

end Document

open Document

section Reading

variable {δ : Type} [Document δ]

/-- The steps of a definition are read from the field `steps`. -/
theorem Definition.steps_of_ofFields {f : Fields δ} {d : Definition} (h : ofFields f = some d) :
    ∃ x, f.get? "steps" = some x ∧ table? Step.read x = some d.steps := by
  obtain ⟨_, -, h⟩ := Option.bind_eq_some_iff.mp h
  obtain ⟨_, -, h⟩ := Option.bind_eq_some_iff.mp h
  obtain ⟨_, -, h⟩ := Option.bind_eq_some_iff.mp h
  obtain ⟨steps, read, h⟩ := Option.bind_eq_some_iff.mp h
  have same : steps = d.steps := by
    obtain ⟨_, -, h⟩ := Option.bind_eq_some_iff.mp h
    obtain ⟨_, -, h⟩ := Option.bind_eq_some_iff.mp h
    obtain ⟨_, -, h⟩ := Option.bind_eq_some_iff.mp h
    obtain ⟨_, -, h⟩ := Option.bind_eq_some_iff.mp h
    cases h
    rfl
  subst same
  exact Option.bind_eq_some_iff.mp read

/-- **A step that was read stood in the document** under its key. -/
theorem Definition.step_of_read {t : δ} {raw : RawFields δ} (opened : entries? t = some raw)
    {d : Definition} (h : Definition.read t = some d) {key : String} {s : Step}
    (found : d.steps.get? key = some s) :
    ∃ x raw' y, (some "steps", x) ∈ raw ∧ entries? x = some raw' ∧ (some key, y) ∈ raw' ∧
      Step.read y = some s := by
  obtain ⟨f, kept, h⟩ := Option.bind_eq_some_iff.mp h
  obtain ⟨x, looked, read⟩ := steps_of_ofFields h
  obtain ⟨raw', y, opened', stood, read⟩ := mem_of_table? read found
  rw [fields?_of_entries opened] at kept
  exact ⟨x, raw', y, (get?_keepNamed kept (by decide) x).mp looked, opened', stood, read⟩

/-- The id of a step is read from the field `id`, or is empty without one. -/
theorem Step.id_of_read {t : δ} {s : Step} (h : Step.read t = some s) :
    ∃ f, fields? fieldNames t = some f ∧ f.withDefault "" text? "id" = some s.id := by
  obtain ⟨f, kept, h⟩ := Option.bind_eq_some_iff.mp h
  obtain ⟨id, read, h⟩ := Option.bind_eq_some_iff.mp h
  refine ⟨f, kept, ?_⟩
  have same : id = s.id := by
    iterate 10 obtain ⟨_, -, h⟩ := Option.bind_eq_some_iff.mp h
    cases h
    rfl
  rw [read, same]

end Reading

/-! ### From values -/

/-- **The id of a step in a value**: what stands in its field `id`, or nothing, or, if the step is
a list, the first item. -/
theorem Step.id_of_read_value {v : Value} {s : Step} (h : Step.read v = some s) :
    (v.field? "id").bind Value.text? = some s.id ∨ s.id = "" ∨
      ∃ items, v = .arr (.str s.id :: items) := by
  obtain ⟨f, kept, read⟩ := Step.id_of_read h
  cases v with
  | obj fs =>
    have found (w : Value) := get?_keepNamed kept (show "id" ∈ fieldNames by decide) w
    cases looked : Entries.get? "id" fs with
    | none =>
      right
      left
      have absent : f.get? "id" = none := by
        rw [Option.eq_none_iff_forall_ne_some]
        intro w there
        obtain ⟨⟨key, w'⟩, listed, same⟩ := List.mem_map.mp ((found w).mp there)
        cases same
        exact (Entries.get?_eq_none_iff "id" fs).mp looked _ listed rfl
      rw [Fields.withDefault, absent] at read
      exact (Option.some.inj read).symm
    | some w =>
      left
      have there : f.get? "id" = some w :=
        (found w).mpr (List.mem_map.mpr ⟨_, Entries.mem_of_get? looked, rfl⟩)
      rw [Fields.withDefault, there] at read
      show (Entries.get? "id" fs).bind Value.text? = _
      rw [looked]
      exact read
  | arr items =>
    right
    cases items with
    | nil =>
      cases kept
      exact .inl (Option.some.inj read).symm
    | cons w items =>
      right
      obtain ⟨others, -, rfl⟩ := Option.map_eq_some_iff.mp (show Option.map _ _ = _ from kept)
      have first : Value.text? w = some s.id := read
      cases w with
      | str id =>
        cases first
        exact ⟨items, rfl⟩
      | _ => cases first
  | _ => cases kept

/-! ### From texts that were written -/

section Shown

open JsonText

/-- The tree of a table is an object that shows its entries. -/
theorem JsonText.Shows.exists_fields {t : Table Value} {tree : JsonText}
    (h : Shows (.ofTable t) tree) : ∃ gs, tree = .obj gs ∧ ShowsFields t.entries gs := by
  cases h with
  | obj fields => exact ⟨_, rfl, fields⟩

/-- **A step comes back with its id.** -/
theorem Step.id_of_read_shown {s s' : Step} {tree : JsonText} (shows : Shows s.toValue tree)
    (h : Step.read tree = some s') : s'.id = s.id := by
  obtain ⟨gs, rfl, fields⟩ := JsonText.Shows.exists_fields shows
  obtain ⟨t, listed, shown⟩ := fields.exists_tree (Entries.mem_of_get? s.field?_id_toValue)
  cases shown
  obtain ⟨f, kept, read⟩ := Step.id_of_read h
  have there : f.get? "id" = some (.str s.id) :=
    (get?_keepNamed kept (by decide) _).mpr (List.mem_map.mpr ⟨_, listed, rfl⟩)
  rw [Fields.withDefault, there] at read
  exact (Option.some.inj read).symm

/-- **A definition comes back with the steps that were written**, under their keys and with
their ids. -/
theorem Definition.step_of_read_shown {d d' : Definition} {tree : JsonText}
    (shows : Shows d.toValue tree) (h : Definition.read tree = some d') {key : String} {s' : Step}
    (found : d'.steps.get? key = some s') :
    ∃ s, d.steps.get? key = some s ∧ s'.id = s.id := by
  obtain ⟨gs, rfl, fields⟩ := JsonText.Shows.exists_fields shows
  obtain ⟨x, raw, y, stood, opened, listed, read⟩ := Definition.step_of_read rfl h found
  obtain ⟨⟨name, x'⟩, field, same⟩ := List.mem_map.mp stood
  cases same
  obtain ⟨v, written, shown⟩ := fields.exists_value field
  obtain rfl : v = .ofTableWith Step.toValue d.steps := by
    have looked := (Table.mem_entries_iff _ _ _).mp written
    rw [Document.get?_ofEntries_filterMap (by simp [toFields])] at looked
    exact (Option.some.inj looked).symm
  obtain ⟨hs, rfl, steps⟩ := JsonText.Shows.exists_fields shown
  cases opened
  obtain ⟨⟨key', y'⟩, there, same⟩ := List.mem_map.mp listed
  cases same
  obtain ⟨w, stored, shown⟩ := steps.exists_value there
  have looked := (Table.mem_entries_iff _ _ _).mp stored
  rw [Table.get?_mapValues] at looked
  obtain ⟨s, there, rfl⟩ := Option.map_eq_some_iff.mp looked
  exact ⟨s, there, Step.id_of_read_shown shown read⟩

end Shown

end StepFlow
