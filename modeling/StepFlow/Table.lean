/-!
# Tables

A **table** maps strings to values and lists its entries by ascending key, in
the order of code points.  Steps, parameters, results and the global state are
tables.  The order is part of the type, so two tables with the same lookups are
equal and every answer that lists one is determined by its contents.

The operations work on plain lists of entries first: an object of a data value
is such a list, and its lookups are those of a table.

* `Entries.get?_put_self`, `Entries.get?_put_of_ne`: what is written is found,
  and nothing else changes; neither needs the list to be sorted.
* `Table.ext_get?`: a table is its lookups.
-/

namespace StepFlow

/-- Keyed entries in a list. -/
abbrev Entries (α : Type) := List (String × α)

namespace Entries

variable {α β : Type}

/-- The first value under `key`. -/
def get? (key : String) : Entries α → Option α
  | [] => none
  | (k, v) :: rest => if k = key then some v else get? key rest

/-- Writes `value` under `key`, in place of the old value or before the first
larger key. -/
def put (key : String) (value : α) : Entries α → Entries α
  | [] => [(key, value)]
  | (k, v) :: rest =>
    if key < k then (key, value) :: (k, v) :: rest
    else if k = key then (key, value) :: rest
    else (k, v) :: put key value rest

/-- Drops every entry under `key`. -/
def drop (key : String) (entries : Entries α) : Entries α :=
  entries.filter fun e => e.1 ≠ key

/-- The keys ascend, so none occurs twice. -/
abbrev Sorted (entries : Entries α) : Prop :=
  entries.Pairwise fun a b => a.1 < b.1

@[simp] theorem get?_nil (key : String) : get? key ([] : Entries α) = none := rfl

theorem get?_cons (key k : String) (v : α) (rest : Entries α) :
    get? key ((k, v) :: rest) = if k = key then some v else get? key rest := rfl

theorem get?_put (key k : String) (v : α) (entries : Entries α) :
    get? k (put key v entries) = if key = k then some v else get? k entries := by
  induction entries with
  | nil => simp [put, get?]
  | cons e rest ih =>
    obtain ⟨k', v'⟩ := e
    unfold put
    split
    · simp [get?]
    · split
      · subst_vars; simp only [get?_cons]; split <;> rfl
      · simp only [get?_cons, ih]
        split <;> split <;> simp_all

@[simp] theorem get?_put_self (key : String) (v : α) (entries : Entries α) :
    get? key (put key v entries) = some v := by simp [get?_put]

theorem get?_put_of_ne {key k : String} (h : key ≠ k) (v : α) (entries : Entries α) :
    get? k (put key v entries) = get? k entries := by simp [get?_put, h]

theorem get?_drop (key k : String) (entries : Entries α) :
    get? k (drop key entries) = if key = k then none else get? k entries := by
  induction entries with
  | nil => simp [drop]
  | cons e rest ih =>
    obtain ⟨k', v'⟩ := e
    simp only [drop, List.filter_cons, get?_cons] at ih ⊢
    split
    · simp only [get?_cons, ih]
      split <;> split <;> simp_all
    · rw [ih]
      split <;> simp_all

/-- Nothing is found under a key that no entry has. -/
theorem get?_eq_none_iff (key : String) (entries : Entries α) :
    get? key entries = none ↔ ∀ e ∈ entries, e.1 ≠ key := by
  induction entries with
  | nil => simp
  | cons e rest ih =>
    obtain ⟨k, v⟩ := e
    simp only [get?_cons, List.mem_cons, forall_eq_or_imp]
    split <;> simp_all

theorem mem_of_get? {key : String} {v : α} {entries : Entries α}
    (h : get? key entries = some v) : (key, v) ∈ entries := by
  induction entries with
  | nil => simp at h
  | cons e rest ih =>
    obtain ⟨k, v'⟩ := e
    rw [get?_cons] at h
    split at h <;> simp_all

theorem mem_put {key : String} {v : α} {entries : Entries α} {e : String × α}
    (h : e ∈ put key v entries) : e = (key, v) ∨ e ∈ entries := by
  induction entries with
  | nil => simpa [put] using h
  | cons e' rest ih =>
    obtain ⟨k', v'⟩ := e'
    unfold put at h
    split at h
    · simpa using h
    · split at h
      · simp only [List.mem_cons] at h ⊢
        rcases h with h | h
        · exact .inl h
        · exact .inr (.inr h)
      · simp only [List.mem_cons] at h ⊢
        rcases h with h | h
        · exact .inr (.inl h)
        · rcases ih h with h | h
          · exact .inl h
          · exact .inr (.inr h)

theorem sorted_put (key : String) (v : α) {entries : Entries α} (h : Sorted entries) :
    Sorted (put key v entries) := by
  induction entries with
  | nil => simp [put, Sorted]
  | cons e rest ih =>
    obtain ⟨k', v'⟩ := e
    rw [Sorted, List.pairwise_cons] at h
    unfold put
    split
    · rename_i hlt
      refine List.pairwise_cons.2 ⟨?_, List.pairwise_cons.2 h⟩
      intro b hb
      simp only [List.mem_cons] at hb
      rcases hb with rfl | hb
      · exact hlt
      · exact String.lt_trans hlt (h.1 b hb)
    · split
      · subst_vars
        exact List.pairwise_cons.2 h
      · rename_i hlt hne
        refine List.pairwise_cons.2 ⟨?_, ih h.2⟩
        intro b hb
        rcases mem_put hb with rfl | hb
        · grind
        · exact h.1 b hb

theorem sorted_drop (key : String) {entries : Entries α} (h : Sorted entries) :
    Sorted (drop key entries) :=
  h.filter _

/-- In sorted entries every entry is found under its key. -/
theorem get?_of_mem {entries : Entries α} (h : Sorted entries) {key : String} {v : α}
    (hm : (key, v) ∈ entries) : get? key entries = some v := by
  induction entries with
  | nil => simp at hm
  | cons e rest ih =>
    obtain ⟨k, v'⟩ := e
    rw [Sorted, List.pairwise_cons] at h
    simp only [List.mem_cons, Prod.mk.injEq] at hm
    rw [get?_cons]
    rcases hm with ⟨rfl, rfl⟩ | hm
    · simp
    · have hlt := h.1 _ hm
      rw [if_neg (by rintro rfl; exact String.lt_irrefl _ hlt)]
      exact ih h.2 hm

/-- Sorted entries are determined by their lookups. -/
theorem eq_of_get? {a b : Entries α} (ha : Sorted a) (hb : Sorted b)
    (h : ∀ key, get? key a = get? key b) : a = b := by
  induction a generalizing b with
  | nil =>
    cases b with
    | nil => rfl
    | cons e rest => have := h e.1; simp [get?] at this
  | cons e rest ih =>
    cases b with
    | nil => have := h e.1; simp [get?] at this
    | cons e' rest' =>
      obtain ⟨k, v⟩ := e
      obtain ⟨k', v'⟩ := e'
      have hk : k = k' := by
        have h1 : (k, v) ∈ (k', v') :: rest' :=
          mem_of_get? ((h k).symm.trans (by simp [get?_cons]))
        have h2 : (k', v') ∈ (k, v) :: rest :=
          mem_of_get? ((h k').trans (by simp [get?_cons]))
        rw [Sorted, List.pairwise_cons] at ha hb
        simp only [List.mem_cons, Prod.mk.injEq] at h1 h2
        rcases h1 with ⟨rfl, -⟩ | h1
        · rfl
        · rcases h2 with ⟨rfl, -⟩ | h2
          · rfl
          · exact absurd (hb.1 _ h1) (String.lt_asymm (ha.1 _ h2))
      subst hk
      have hv : v = v' := by simpa [get?] using h k
      subst hv
      congr 1
      rw [Sorted, List.pairwise_cons] at ha hb
      refine ih ha.2 hb.2 fun key => ?_
      by_cases hkey : k = key
      · subst hkey
        rw [(get?_eq_none_iff _ _).2, (get?_eq_none_iff _ _).2]
        · intro e he heq; exact String.lt_irrefl _ (heq ▸ hb.1 e he)
        · intro e he heq; exact String.lt_irrefl _ (heq ▸ ha.1 e he)
      · simpa [get?, hkey] using h key

/-- Looking up a key that a choice of keys keeps. -/
theorem get?_filter (keep : String → Bool) {key : String} (kept : keep key = true)
    (entries : Entries α) : get? key (entries.filter fun e => keep e.1) = get? key entries := by
  induction entries with
  | nil => rfl
  | cons e rest ih =>
    obtain ⟨k, v⟩ := e
    rw [List.filter_cons, get?_cons]
    by_cases here : k = key
    · subst here
      simp [kept, get?_cons]
    · rw [if_neg here, ← ih]
      split
      · rw [get?_cons, if_neg here]
      · rfl

/-- Sorted entries have one entry under a key at most. -/
theorem filter_key_eq (key : String) {entries : Entries α} (h : Sorted entries) :
    (entries.filter fun e => e.1 = key) = (get? key entries).toList.map (key, ·) := by
  induction entries with
  | nil => rfl
  | cons e rest ih =>
    obtain ⟨k, v⟩ := e
    rw [Sorted, List.pairwise_cons] at h
    rw [List.filter_cons, get?_cons, ih h.2]
    by_cases here : k = key
    · subst here
      have absent : get? k rest = none := by
        rw [get?_eq_none_iff]
        intro e listed same
        exact String.lt_irrefl _ (same ▸ h.1 e listed)
      simp [absent]
    · simp [here]

/-- Looking up a key among the entries that are there. -/
theorem get?_filterMap {entries : Entries (Option α)} (distinct : (entries.map (·.1)).Nodup)
    (key : String) :
    get? key (entries.filterMap fun e => e.2.map fun v => (e.1, v)) = (get? key entries).join := by
  induction entries with
  | nil => rfl
  | cons e rest ih =>
    obtain ⟨k, v⟩ := e
    rw [List.map_cons, List.nodup_cons] at distinct
    rw [List.filterMap_cons, get?_cons]
    by_cases here : k = key
    · subst here
      have absent : get? k rest = none := by
        rw [get?_eq_none_iff]
        intro e listed same
        exact distinct.1 (List.mem_map.mpr ⟨e, listed, same⟩)
      cases v with
      | none => simp [ih distinct.2, absent]
      | some v => simp [get?_cons]
    · cases v with
      | none => simp [ih distinct.2, here]
      | some v => simp [ih distinct.2, here, get?_cons]

theorem nodup_of_sorted {entries : Entries α} (h : Sorted entries) :
    (entries.map (·.1)).Nodup := by
  rw [List.Nodup, List.pairwise_map]
  exact h.imp String.ne_of_lt

/-- The entries under new values, made from key and value. -/
def mapValues (f : String → α → β) (entries : Entries α) : Entries β :=
  entries.map fun e => (e.1, f e.1 e.2)

theorem sorted_mapValues (f : String → α → β) {entries : Entries α} (h : Sorted entries) :
    Sorted (mapValues f entries) := by
  simpa [Sorted, mapValues, List.pairwise_map] using h

theorem get?_mapValues (f : String → α → β) (key : String) (entries : Entries α) :
    get? key (mapValues f entries) = (get? key entries).map (f key) := by
  induction entries with
  | nil => rfl
  | cons e rest ih =>
    obtain ⟨k, v⟩ := e
    simp only [mapValues, List.map_cons, get?_cons] at ih ⊢
    split
    · subst_vars; rfl
    · exact ih

end Entries

/-- **A table**: entries by ascending key. -/
structure Table (α : Type) where
  entries : Entries α
  sorted : entries.Sorted
deriving DecidableEq

namespace Table

variable {α β : Type}

/-- The table without entries. -/
def empty : Table α := ⟨[], List.Pairwise.nil⟩

instance : EmptyCollection (Table α) := ⟨empty⟩
instance : Inhabited (Table α) := ⟨empty⟩

/-- The value under `key`. -/
def get? (t : Table α) (key : String) : Option α := t.entries.get? key

/-- Is there a value under `key`? -/
def contains (t : Table α) (key : String) : Bool := (t.get? key).isSome

/-- Writes `value` under `key`. -/
def insert (t : Table α) (key : String) (value : α) : Table α :=
  ⟨t.entries.put key value, Entries.sorted_put key value t.sorted⟩

/-- Takes `key` out. -/
def erase (t : Table α) (key : String) : Table α :=
  ⟨t.entries.drop key, Entries.sorted_drop key t.sorted⟩

/-- The keys, ascending. -/
def keys (t : Table α) : List String := t.entries.map (·.1)

/-- Has the table no entries? -/
def isEmpty (t : Table α) : Bool := t.entries.isEmpty

/-- Writes entries one after another, so the last of two under one key stays. -/
def insertAll (t : Table α) (entries : Entries α) : Table α :=
  entries.foldl (fun t e => t.insert e.1 e.2) t

/-- The table of the given entries; the last of two under one key stays. -/
def ofEntries (entries : Entries α) : Table α := empty.insertAll entries

/-- `t` overlaid by `other`: where both have a key, the value of `other`. -/
def overlay (t other : Table α) : Table α := t.insertAll other.entries

/-- The same keys under new values. -/
def mapValues (f : String → α → β) (t : Table α) : Table β :=
  ⟨t.entries.mapValues f, Entries.sorted_mapValues f t.sorted⟩

/-- **A table is its lookups.** -/
theorem ext_get? {s t : Table α} (h : ∀ key, s.get? key = t.get? key) : s = t := by
  obtain ⟨a, ha⟩ := s
  obtain ⟨b, hb⟩ := t
  obtain rfl : a = b := Entries.eq_of_get? ha hb h
  rfl

@[simp] theorem get?_empty (key : String) : (empty : Table α).get? key = none := rfl

theorem get?_insert (t : Table α) (key k : String) (v : α) :
    (t.insert key v).get? k = if key = k then some v else t.get? k :=
  Entries.get?_put key k v t.entries

@[simp] theorem get?_insert_self (t : Table α) (key : String) (v : α) :
    (t.insert key v).get? key = some v := by simp [get?_insert]

theorem get?_insert_of_ne (t : Table α) {key k : String} (h : key ≠ k) (v : α) :
    (t.insert key v).get? k = t.get? k := by simp [get?_insert, h]

theorem get?_erase (t : Table α) (key k : String) :
    (t.erase key).get? k = if key = k then none else t.get? k :=
  Entries.get?_drop key k t.entries

/-- Taking out the only key leaves nothing. -/
theorem erase_eq_empty {t : Table α} {key : String} (only : ∀ k v, t.get? k = some v → k = key) :
    t.erase key = empty := by
  refine ext_get? fun k => ?_
  rw [get?_erase, get?_empty]
  split
  · rfl
  · rename_i away
    rw [Option.eq_none_iff_forall_ne_some]
    intro v found
    exact away (only k v found).symm

theorem get?_mapValues (f : String → α → β) (t : Table α) (key : String) :
    (t.mapValues f).get? key = (t.get? key).map (f key) :=
  Entries.get?_mapValues f key t.entries

theorem mem_entries_iff (t : Table α) (key : String) (v : α) :
    (key, v) ∈ t.entries ↔ t.get? key = some v :=
  ⟨Entries.get?_of_mem t.sorted, Entries.mem_of_get?⟩

theorem contains_iff (t : Table α) (key : String) :
    t.contains key = true ↔ ∃ v, t.get? key = some v := by
  simp [contains, Option.isSome_iff_exists]

/-- Writing all of entries with distinct keys: theirs where they have the key, else the
old value. -/
theorem get?_insertAll (t : Table α) {entries : Entries α}
    (distinct : (entries.map (·.1)).Nodup) (key : String) :
    (t.insertAll entries).get? key = (entries.get? key).or (t.get? key) := by
  induction entries generalizing t with
  | nil => simp [insertAll]
  | cons e rest ih =>
    obtain ⟨k, v⟩ := e
    rw [List.map_cons, List.nodup_cons] at distinct
    simp only [insertAll, List.foldl_cons] at ih ⊢
    rw [ih (t.insert k v) distinct.2, get?_insert, Entries.get?_cons]
    split
    · subst_vars
      rw [(Entries.get?_eq_none_iff _ _).2]
      · simp
      · intro e listed same
        exact distinct.1 (List.mem_map.mpr ⟨e, listed, same⟩)
    · rfl

theorem get?_overlay (t other : Table α) (key : String) :
    (t.overlay other).get? key = (other.get? key).or (t.get? key) :=
  get?_insertAll t (Entries.nodup_of_sorted other.sorted) key

/-- A table is the table of its entries. -/
@[simp] theorem ofEntries_entries (t : Table α) : ofEntries t.entries = t :=
  ext_get? fun key => by
    rw [ofEntries, get?_insertAll _ (Entries.nodup_of_sorted t.sorted), get?_empty, Option.or_none]
    rfl

end Table

end StepFlow
