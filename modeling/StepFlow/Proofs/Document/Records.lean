import StepFlow.Document
import StepFlow.Value.Record

/-!
# Records read back

A record is written as an object with sorted keys, in which the fields that are not
there are missing; it is read by looking its fields up.  So what counts is that a
lookup in what was written is a lookup in the list of fields it was written from
(`Document.read_record`, `Document.read_variant`).

The conventions of the readers and of the writer meet in three lemmas on fields:
`Fields.required_eq`, `Fields.optional_eq` and `Fields.withDefault_eq`.  The last one
is the place where a default must be what the writer leaves out.
-/

namespace StepFlow.Document

variable {α : Type}

/-! ### What a record shows -/

/-- The fields with the given names are kept, in their order. -/
theorem keepNamed_entries (names : List String) {entries : Entries Value}
    (sorted : entries.Sorted) :
    keepNamed names (entries.map fun e => (some e.1, e.2)) =
      some (entries.filter fun e => names.contains e.1) := by
  induction entries with
  | nil => rfl
  | cons e rest ih =>
    obtain ⟨k, v⟩ := e
    rw [Entries.Sorted, List.pairwise_cons] at sorted
    -- no later field has the name again
    have fresh : ((rest.filter fun e => names.contains e.1).any fun f => f.1 = k) = false := by
      rw [List.any_eq_false]
      intro e kept
      have later := sorted.1 e (List.mem_filter.mp kept).1
      simp only [decide_eq_true_eq]
      rintro rfl
      exact String.lt_irrefl _ later
    rw [List.map_cons, keepNamed, ih sorted.2, List.filter_cons]
    show (if names.contains k = true then _ else _) = _
    rw [fresh]
    split <;> rfl

/-- The table of the fields which are there shows just these. -/
theorem get?_ofEntries_filterMap {fields : Entries (Option Value)}
    (distinct : (fields.map (·.1)).Nodup) (name : String) :
    (Table.ofEntries (fields.filterMap fun f => f.2.map fun v => (f.1, v))).get? name =
      (Entries.get? name fields).join := by
  have kept : ((fields.filterMap fun f => f.2.map fun v => (f.1, v)).map (·.1)).Nodup := by
    refine distinct.sublist ?_
    clear distinct
    induction fields with
    | nil => exact List.Sublist.slnil
    | cons f rest ih =>
      obtain ⟨k, v⟩ := f
      cases v with
      | none => exact ih.cons _
      | some v => exact ih.cons_cons _
  rw [Table.ofEntries, Table.get?_insertAll _ kept, Table.get?_empty, Option.or_none]
  exact Entries.get?_filterMap distinct name

/-- A record is a table that shows the fields which are there. -/
theorem exists_table_of_record {fields : Entries (Option Value)}
    (distinct : (fields.map (·.1)).Nodup) :
    ∃ t : Table Value, Value.record fields = .ofTable t ∧
      ∀ name, t.get? name = (Entries.get? name fields).join :=
  ⟨_, rfl, get?_ofEntries_filterMap distinct⟩

/-- A field of a record is looked up among the fields that it was written from. -/
theorem field?_record {fields : Entries (Option Value)} (distinct : (fields.map (·.1)).Nodup)
    (name : String) : (Value.record fields).field? name = (Entries.get? name fields).join :=
  get?_ofEntries_filterMap distinct name

/-- **A record is read field by field.** -/
theorem read_record {fields : Entries (Option Value)} {names : List String}
    {make : Fields Value → Option α} {a : α} (distinct : (fields.map (·.1)).Nodup)
    (made : ∀ f : Fields Value,
      (∀ name ∈ names, f.get? name = (Entries.get? name fields).join) → make f = some a) :
    (fields? names (Value.record fields)).bind make = some a := by
  obtain ⟨t, written, shows⟩ := exists_table_of_record distinct
  have opened : fields? names (Value.ofTable t) = _ := keepNamed_entries names t.sorted
  rw [written, opened, Option.bind_some]
  refine made _ fun name named => ?_
  rw [← shows]
  exact Entries.get?_filter names.contains (List.contains_iff_mem.mpr named) _

/-- A table with a type is a variant of that type, and its other entries are the
content. -/
theorem variant?_ofTable {kind : String} {t : Table Value}
    (found : t.get? "type" = some (.str kind)) :
    variant? (Value.ofTable t) =
      some (kind, .named ((t.erase "type").entries.map fun e => (some e.1, e.2))) := by
  have opened : entries? (Value.ofTable t) = some (t.entries.map fun e => (some e.1, e.2)) := rfl
  have kinds : ((t.entries.map fun e => (some e.1, e.2)).filter fun f => f.1 = some "type") =
      [(some "type", Value.str kind)] := by
    have stored : t.entries.get? "type" = some (.str kind) := found
    have typed : (t.entries.filter fun e => e.1 = "type") = [("type", Value.str kind)] := by
      rw [Entries.filter_key_eq _ t.sorted, stored]
      rfl
    rw [List.filter_map]
    simpa [Function.comp_def] using typed
  have others : ((t.entries.map fun e => (some e.1, e.2)).filter fun f => f.1 ≠ some "type").map
        (fun f => (f.1, settle f.2)) =
      (t.erase "type").entries.map fun e => (some e.1, e.2) := by
    rw [List.filter_map, List.map_map]
    simp only [Function.comp_def, ne_eq, Option.some.injEq]
    rfl
  unfold variant?
  rw [opened]
  simp only [kinds, others]
  rfl

/-- **A variant is read by its type**, and then field by field. -/
theorem read_variant {kind : String} {fields : Entries (Option Value)}
    {make : String × Content Value → Option α} {a : α}
    (distinct : ("type" :: fields.map (·.1)).Nodup)
    (made : ∀ content : Content Value,
      (∀ names, "type" ∉ names → ∃ f : Fields Value, content.fields? names = some f ∧
        ∀ name ∈ names, f.get? name = (Entries.get? name fields).join) →
      make (kind, content) = some a) :
    (variant? (Value.record (("type", some (.str kind)) :: fields))).bind make = some a := by
  obtain ⟨t, written, shows⟩ :=
    @exists_table_of_record (("type", some (.str kind)) :: fields) distinct
  rw [written, variant?_ofTable (shows "type"), Option.bind_some]
  refine made _ fun names untyped => ⟨_, keepNamed_entries names (t.erase "type").sorted, ?_⟩
  intro name named
  have other : "type" ≠ name := fun same => untyped (same ▸ named)
  calc Fields.get? _ name = (t.erase "type").get? name :=
        Entries.get?_filter names.contains (List.contains_iff_mem.mpr named) _
    _ = (Entries.get? name fields).join := by
        rw [Table.get?_erase, if_neg other, shows, Entries.get?_cons, if_neg other]

/-! ### Fields -/

section Fields

variable {f : Fields Value} {name : String} {read : Value → Option α} {write : α → Value}

/-- A field that is always written. -/
theorem Fields.required_eq {v : Value} (found : f.get? name = some v) :
    f.required read name = read v := by
  rw [Fields.required, found, Option.bind_some]

/-- A field with a default that is always written. -/
theorem Fields.withDefault_eq_read {v : Value} {default : α} (found : f.get? name = some v) :
    f.withDefault default read name = read v := by
  rw [Fields.withDefault, found]

/-- A field that is written if it is there. -/
theorem Fields.optional_eq {a : Option α} (found : f.get? name = a.map write)
    (back : ∀ a, read (write a) = some a) (present : ∀ a, isNull (write a) = false) :
    f.optional read name = some a := by
  unfold Fields.optional
  rw [found]
  cases a with
  | none => rfl
  | some a => simp [present, back]

/-- A text that is written if it is there. -/
theorem Fields.optional_text_eq {s : Option String} (found : f.get? name = s.map .str) :
    f.optional text? name = some s :=
  Fields.optional_eq found (fun _ => rfl) (fun _ => rfl)

/-- A field that is left out only where it has its default. -/
theorem Fields.withDefault_eq {v : Value} {a default : α} {written : Bool}
    (found : f.get? name = Value.writtenIf written v)
    (back : written = true → read v = some a) (left : written = false → a = default) :
    f.withDefault default read name = some a := by
  unfold Fields.withDefault
  rw [found]
  cases written with
  | true => exact back rfl
  | false =>
    rw [left rfl]
    rfl

end Fields

/-! ### Numbers, lists and tables -/

theorem uint32?_ofNat (n : UInt32) : uint32? (Value.ofNat n.toNat) = some n := by
  have bound := n.toNat_lt
  have fits : (0 : Int) ≤ n.toNat ∧ (n.toNat : Int) < twoTo 32 := by
    have size : (twoTo 32 : Int) = 2 ^ 32 := by rfl
    omega
  have whole : int? (Value.ofNat n.toNat) = some (n.toNat : Int) := rfl
  rw [uint32?, whole, Option.bind_some, if_pos fits, Int.toNat_natCast, UInt32.ofNat_toNat]

theorem uint64?_ofNat (n : UInt64) : uint64? (Value.ofNat n.toNat) = some n := by
  have bound := n.toNat_lt
  have fits : (0 : Int) ≤ n.toNat ∧ (n.toNat : Int) < twoTo 64 := by
    have size : (twoTo 64 : Int) = 2 ^ 64 := by rfl
    omega
  have whole : int? (Value.ofNat n.toNat) = some (n.toNat : Int) := rfl
  rw [uint64?, whole, Option.bind_some, if_pos fits, Int.toNat_natCast, UInt64.ofNat_toNat]

theorem int64?_int (n : Int64) : int64? (Value.int n.toInt) = some n := by
  have least := n.le_toInt
  have most := n.toInt_lt
  have fits : -(twoTo 63 : Int) ≤ n.toInt ∧ n.toInt < twoTo 63 := by
    have size : (twoTo 63 : Int) = 2 ^ 63 := by rfl
    omega
  have whole : int? (Value.int n.toInt) = some n.toInt := rfl
  rw [int64?, whole, Option.bind_some, if_pos fits, Int64.ofInt_toInt]

section Collections

variable {read : Value → Option α} {write : α → Value}

/-- Entries are read one after another, each as what it comes back as. -/
theorem readEntries_written {back : α → α} {entries : Entries α}
    (comes : ∀ e ∈ entries, read (write e.2) = some (back e.2)) :
    readEntries read (entries.map fun e => (some e.1, write e.2)) =
      some (entries.mapValues fun _ a => back a) := by
  induction entries with
  | nil => rfl
  | cons e rest ih =>
    rw [List.forall_mem_cons] at comes
    rw [List.map_cons, readEntries, comes.1, ih comes.2]
    rfl

/-- **A table is read entry by entry**, each as what it comes back as. -/
theorem table?_written {back : α → α} {t : Table α}
    (comes : ∀ e ∈ t.entries, read (write e.2) = some (back e.2)) :
    table? read (Value.ofTableWith write t) = some (t.mapValues fun _ a => back a) := by
  have opened : entries? (Value.ofTableWith write t) =
      some (t.entries.map fun e => (some e.1, write e.2)) := by
    show some ((t.entries.map _).map _) = _
    rw [List.map_map]
    rfl
  rw [table?, opened, Option.bind_some, readEntries_written comes, Option.map_some]
  exact congrArg some (Table.ofEntries_entries (t.mapValues fun _ a => back a))

variable (back : ∀ a, read (write a) = some a)

include back

theorem list?_ofList (items : List α) : list? read (Value.ofList write items) = some items := by
  show (items.map write).mapM read = some items
  induction items with
  | nil => rfl
  | cons a rest ih =>
    rw [List.map_cons, List.mapM_cons, back, ih]
    rfl

theorem readEntries_map (entries : Entries α) :
    readEntries read (entries.map fun e => (some e.1, write e.2)) = some entries := by
  have comes : ∀ e ∈ entries, read (write e.2) = some (id e.2) := fun e _ => back e.2
  rw [readEntries_written comes]
  exact congrArg some (List.map_id entries)

theorem table?_ofTableWith (t : Table α) : table? read (Value.ofTableWith write t) = some t := by
  have comes : ∀ e ∈ t.entries, read (write e.2) = some (id e.2) := fun e _ => back e.2
  rw [table?_written comes]
  exact congrArg some (Table.ext_get? fun key => by simp [Table.get?_mapValues])

end Collections

theorem table?_ofTable (t : Table Value) : table? value? (Value.ofTable t) = some t := by
  have opened : entries? (Value.ofTable t) = some (t.entries.map fun e => (some e.1, e.2)) := rfl
  have read : readEntries value? (t.entries.map fun e => (some e.1, e.2)) = some t.entries :=
    @readEntries_map _ value? id (fun _ => rfl) t.entries
  rw [table?, opened, Option.bind_some, read, Option.map_some, Table.ofEntries_entries]

end StepFlow.Document
