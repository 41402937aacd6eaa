import Mathlib
import StepFlow.Proofs.Pipeline.Validity
import StepFlow.Proofs.Store.Sessions
import StepFlow.Store.Memory
import StepFlow.Store.Rows

/-!
# Two backends that cannot be told apart

A list of pipelines and a table of encoded definitions answer alike, whatever is
asked of a store over them (`Store.performAll_eq`), as long as the texts of the
definitions that get stored can be read back (`Definition.ReadsBack`).

The simulation is `Agrees`: the rows and the pipelines correspond one to one and
in order, each row holding its pipeline.  That a row holds its pipeline needs more
than a text that reads back: the steps take their keys for missing ids again
whenever a row is read, so the pipeline must have no missing ids.  What is
load-bearing is that no operation stores a pipeline with one (`Definition.Filled`):
creating fills them in, a patch sets them, and an import is a creation.
-/

namespace StepFlow

/-- **The text of a definition reads back** as that definition. -/
def Definition.ReadsBack (d : Definition) : Prop :=
  (JsonText.parse d.toValue.compact).bind Definition.read = some d

/-! ### Patches -/

/-- **A patch leaves no id missing**: patched steps take their keys. -/
theorem Patch.filled_apply (q : Patch) {p : Pipeline} (filled : p.toDefinition.Filled) :
    (q.apply p).toDefinition.Filled := by
  rw [Definition.filled_iff] at filled ⊢
  intro key s found
  change ((q.steps.map alignIds).getD p.steps).get? key = some s at found
  cases patched : q.steps with
  | none =>
    rw [patched] at found
    exact filled key s found
  | some steps =>
    rw [patched, Option.map_some, Option.getD_some, alignIds, Table.get?_mapValues,
      Option.map_eq_some_iff] at found
    obtain ⟨s', -, rfl⟩ := found
    exact Step.withDefaultId_of_id_eq rfl

/-! ### Rows that hold pipelines -/

/-- **A row holds a pipeline.** -/
structure Row.Holds (r : Row) (p : Pipeline) : Prop where
  id : r.id = p.id
  pipeline : r.pipeline? = some p

/-- It is read without an error. -/
theorem Row.Holds.read {r : Row} {p : Pipeline} (held : r.Holds p) : r.read = .ok p :=
  Row.read_eq_ok_iff.mpr held.pipeline

/-- The row of a pipeline holds it. -/
theorem Row.holds_ofPipeline (number : Nat) {p : Pipeline} (filled : p.toDefinition.Filled)
    (back : p.toDefinition.ReadsBack) : (Row.ofPipeline number p).Holds p where
  id := rfl
  pipeline := by
    have read : (Row.ofPipeline number p).pipeline? =
        ((JsonText.parse p.toDefinition.toValue.compact).bind Definition.read).map
          fun d => d.toPipeline p.id := by
      rw [Option.map_bind]
      rfl
    rw [read, back, Option.map_some]
    unfold Definition.toPipeline
    rw [filled]

section Holds

variable {rows : List Row} {ps : List Pipeline}

/-- An id is present in both or in neither. -/
theorem Row.any_id (h : List.Forall₂ Row.Holds rows ps) (id : String) :
    (rows.any fun r => r.id = id) = ps.any fun p => p.id = id := by
  induction h with
  | nil => rfl
  | cons first _ ih => rw [List.any_cons, List.any_cons, ih, first.id]

/-- The first row with an id holds the first pipeline with that id. -/
theorem Row.find?_id (h : List.Forall₂ Row.Holds rows ps) (id : String) :
    Option.Rel Row.Holds (rows.find? fun r => r.id = id) (ps.find? fun p => p.id = id) := by
  induction h with
  | nil => exact .none
  | cons first _ ih =>
    rw [List.find?_cons, List.find?_cons, first.id]
    split
    · exact .some first
    · exact ih

/-- The rows are read as the pipelines, in their order. -/
theorem Row.mapM_read (h : List.Forall₂ Row.Holds rows ps) : rows.mapM Row.read = .ok ps := by
  induction h with
  | nil => rfl
  | cons first _ ih =>
    rw [List.mapM_cons, first.read, ih]
    rfl

end Holds

/-! ### Saving in a list -/

namespace Memory

/-- A pipeline that is saved again replaces the one with its id, in its place. -/
theorem put_eq_map {p : Pipeline} {ps : List Pipeline}
    (distinct : ps.Pairwise fun q r => q.id ≠ r.id) (present : ∃ q ∈ ps, q.id = p.id) :
    put p ps = ps.map fun q => if q.id = p.id then p else q := by
  induction ps with
  | nil =>
    obtain ⟨q, listed, -⟩ := present
    cases listed
  | cons q rest ih =>
    rw [List.pairwise_cons] at distinct
    rw [put, List.map_cons]
    by_cases here : q.id = p.id
    · rw [if_pos here, if_pos here]
      -- no other pipeline has the id
      have unchanged : (rest.map fun r => if r.id = p.id then p else r) = rest.map id := by
        refine List.map_congr_left fun r listed => if_neg ?_
        exact fun again => distinct.1 r listed (here.trans again.symm)
      rw [unchanged, List.map_id]
    · rw [if_neg here, if_neg here]
      congr 1
      refine ih distinct.2 ?_
      obtain ⟨r, listed, same⟩ := present
      rcases List.mem_cons.mp listed with rfl | listed
      · exact absurd same here
      · exact ⟨r, listed, same⟩

/-- A pipeline with a new id comes last. -/
theorem put_eq_append {p : Pipeline} {ps : List Pipeline} (new : ∀ q ∈ ps, q.id ≠ p.id) :
    put p ps = ps ++ [p] := by
  induction ps with
  | nil => rfl
  | cons q rest ih =>
    rw [List.forall_mem_cons] at new
    rw [put, if_neg new.1, ih new.2, List.cons_append]

end Memory

/-! ### The simulation -/

/-- **The backends agree**: row by row the table holds the pipelines of the list. -/
structure Agrees (m : Memory) (t : Rows) : Prop where
  holds : List.Forall₂ Row.Holds t.rows m.pipelines
  distinct : m.pipelines.Pairwise fun p q => p.id ≠ q.id
  filled : ∀ p ∈ m.pipelines, p.toDefinition.Filled

namespace Agrees

variable {m : Memory} {t : Rows}

theorem empty : Agrees Backend.empty Backend.empty :=
  ⟨.nil, .nil, nofun⟩

/-- **Saving** keeps the backends in agreement, if the text of the pipeline reads
back. -/
theorem save (h : Agrees m t) {p : Pipeline} (filled : p.toDefinition.Filled)
    (back : p.toDefinition.ReadsBack) : Agrees (m.save p) (t.save p) := by
  cases present : m.pipelines.any fun q => q.id = p.id with
  | true =>
    have saved : (m.save p).pipelines = m.pipelines.map fun q => if q.id = p.id then p else q :=
      Memory.put_eq_map h.distinct (by simpa using present)
    have rows : (t.save p).rows =
        t.rows.map fun r => if r.id = p.id then .ofPipeline r.number p else r := by
      unfold Rows.save
      rw [if_pos ((Row.any_id h.holds p.id).trans present)]
    refine ⟨?_, ?_, ?_⟩
    · -- both sides ask for the same id, so they replace at the same places
      rw [saved, rows, List.forall₂_map_left_iff, List.forall₂_map_right_iff]
      refine h.holds.imp fun r q held => ?_
      rw [held.id]
      split
      · exact Row.holds_ofPipeline r.number filled back
      · exact held
    · rw [saved, List.pairwise_map]
      refine h.distinct.imp fun {q r} apart => ?_
      have same (q : Pipeline) : (if q.id = p.id then p else q).id = q.id := by
        split
        · rename_i here; exact here.symm
        · rfl
      rw [same, same]
      exact apart
    · rw [saved]
      intro q listed
      obtain ⟨r, before, rfl⟩ := List.mem_map.mp listed
      split
      · exact filled
      · exact h.filled r before
  | false =>
    have new : ∀ q ∈ m.pipelines, q.id ≠ p.id := by simpa using present
    have saved : (m.save p).pipelines = m.pipelines ++ [p] := Memory.put_eq_append new
    have rows : (t.save p).rows = t.rows ++ [.ofPipeline t.next p] := by
      unfold Rows.save
      rw [if_neg (by rw [Row.any_id h.holds p.id, present]; exact Bool.false_ne_true)]
    refine ⟨?_, ?_, ?_⟩
    · rw [saved, rows]
      exact List.rel_append h.holds (.cons (Row.holds_ofPipeline t.next filled back) .nil)
    · rw [saved, List.pairwise_append]
      refine ⟨h.distinct, List.pairwise_singleton _ _, ?_⟩
      intro q listed r last
      rw [List.mem_singleton.mp last]
      exact new q listed
    · rw [saved]
      intro q listed
      rcases List.mem_append.mp listed with listed | last
      · exact h.filled q listed
      · rw [List.mem_singleton.mp last]
        exact filled

/-- **Loading** finds the same pipeline. -/
theorem load (h : Agrees m t) (id : String) : t.load id = .ok (m.load id) := by
  have held := Row.find?_id h.holds id
  unfold Memory.load
  cases row : t.rows.find? fun r => r.id = id <;>
    cases listed : m.pipelines.find? fun p => p.id = id <;> rw [row, listed] at held
  case none.none => exact Rows.load_of_find?_eq_none row
  case some.some =>
    obtain ⟨held⟩ := held
    rw [Rows.load_of_find? row, held.read]
    rfl
  all_goals cases held

/-- What is loaded has no missing ids. -/
theorem filled_of_load (h : Agrees m t) {id : String} {p : Pipeline} (found : m.load id = some p) :
    p.toDefinition.Filled :=
  h.filled p (List.mem_of_find?_eq_some found)

/-- **Listing** tells the same pipelines in the same order. -/
theorem list (h : Agrees m t) : Backend.list t = Backend.list m := Row.mapM_read h.holds

/-- **Deleting** takes out the same pipeline, and says alike whether there was one. -/
theorem delete (h : Agrees m t) (id : String) :
    (t.delete id).1 = (m.delete id).1 ∧ Agrees (m.delete id).2 (t.delete id).2 := by
  refine ⟨?_, ?_, h.distinct.filter _, ?_⟩
  · -- the list tells by its length what the table tells by a search
    have untouched : (m.pipelines.filter fun p => p.id ≠ id).length = m.pipelines.length ↔
        (m.pipelines.any fun p => p.id = id) = false := by
      rw [List.length_filter_eq_length_iff]
      simp
    show (t.rows.any fun r => r.id = id) = decide ((m.pipelines.filter _).length ≠ _)
    rw [Row.any_id h.holds id]
    cases present : m.pipelines.any fun p => p.id = id with
    | true =>
      symm
      rw [decide_eq_true_iff]
      intro same
      rw [untouched.mp same] at present
      cases present
    | false =>
      symm
      rw [decide_eq_false_iff_not, ne_eq, not_not]
      exact untouched.mpr present
  · refine List.rel_filter (fun r p held => ?_) h.holds
    show decide (r.id ≠ id) = true ↔ decide (p.id ≠ id) = true
    rw [held.id]
  · intro p listed
    exact h.filled p (List.mem_of_mem_filter listed)

end Agrees

/-! ### Sessions -/

/-- Every pipeline of the list has a text that reads back. -/
def Memory.ReadsBack (m : Memory) : Prop := ∀ p ∈ m.pipelines, p.toDefinition.ReadsBack

/-- A pipeline that was saved is in the list. -/
theorem Memory.mem_put (p : Pipeline) (ps : List Pipeline) : p ∈ put p ps := by
  induction ps with
  | nil => exact List.mem_singleton_self p
  | cons q rest ih =>
    rw [put]
    split
    · exact List.mem_cons_self
    · exact List.mem_cons_of_mem q ih

theorem Memory.ReadsBack.of_save {m : Memory} {p : Pipeline} (h : (m.save p).ReadsBack) :
    p.toDefinition.ReadsBack :=
  h p (mem_put p m.pipelines)

namespace Store

variable {m : Memory} {t : Rows}

/-- **An operation answers alike** over backends that agree, and they agree
afterwards. -/
theorem perform_agree (op : Operation) (h : Agrees m t) (back : (perform op m).2.ReadsBack) :
    (perform op t).1 = (perform op m).1 ∧ Agrees (perform op m).2 (perform op t).2 := by
  have created (fresh : String) (d : Definition) (back : (create fresh d m).2.ReadsBack) :
      Agrees (create fresh d m).2 (create fresh d t).2 :=
    h.save (d.filled_toPipeline fresh) back.of_save
  cases op with
  | create fresh d => exact ⟨rfl, created fresh d back⟩
  | get id => exact ⟨congrArg Response.pipeline (h.load id), h⟩
  | update id q =>
    have listed : Backend.load id m = .ok (m.load id) := rfl
    have loaded : Backend.load id t = .ok (m.load id) := h.load id
    simp only [perform, update, listed, loaded] at back ⊢
    cases found : m.load id with
    | none => exact ⟨rfl, h⟩
    | some p =>
      rw [found] at back
      -- what is patched was stored before, so only new steps could lack an id
      have filled : (q.apply p).toDefinition.Filled := q.filled_apply (h.filled_of_load found)
      exact ⟨rfl, h.save filled (Memory.ReadsBack.of_save back)⟩
  | delete id =>
    obtain ⟨verdict, agrees⟩ := h.delete id
    exact ⟨congrArg Response.verdict verdict, agrees⟩
  | list => exact ⟨congrArg Response.pipelines h.list, h⟩
  | find query =>
    refine ⟨congrArg Response.pipelines ?_, h⟩
    exact congrArg (Except.map (List.filter (isFound query))) h.list
  | importValue fresh v =>
    simp only [perform, importValue] at back ⊢
    cases read : importable? v with
    | none => exact ⟨rfl, h⟩
    | some d =>
      rw [read] at back
      exact ⟨rfl, created fresh d back⟩
  | exportValue id =>
    refine ⟨congrArg Response.value ?_, h⟩
    exact congrArg (Except.map (Option.map Pipeline.toValue)) (h.load id)

/-- Sessions over backends that agree are answered alike. -/
theorem performAll_agree (ops : List Operation) (h : Agrees m t)
    (back : ∀ before, before <+: ops → (performAll before m).2.ReadsBack) :
    (performAll ops t).1 = (performAll ops m).1 := by
  induction ops generalizing m t with
  | nil => rfl
  | cons op rest ih =>
    have first : (perform op m).2.ReadsBack := back [op] ⟨rest, rfl⟩
    obtain ⟨answer, agrees⟩ := perform_agree op h first
    have answers := ih agrees fun before earlier => by
      -- what is stored later in the session is stored by a longer prefix
      have more := back (op :: before) (List.cons_prefix_cons.mpr ⟨rfl, earlier⟩)
      rwa [performAll_cons] at more
    rw [performAll_cons, performAll_cons, answer, answers]

/-- **The backends cannot be told apart.**  A session with an empty store is
answered alike over a table of rows and over a list, whatever the operations and
the ids they draw, and so without an error, if every definition that is ever stored
has a text that reads back. -/
theorem performAll_eq (ops : List Operation)
    (back : ∀ before, before <+: ops →
      ∀ p ∈ (performAll before (Backend.empty : Memory)).2.pipelines, p.toDefinition.ReadsBack) :
    (performAll ops (Backend.empty : Rows)).1 = (performAll ops (Backend.empty : Memory)).1 :=
  performAll_agree ops Agrees.empty back

/-- A definition of one step, which takes its key for an id. -/
def lone : Definition where
  name := "lone"
  start := "step"
  steps := .ofEntries [("step", { id := "", tool := "work" })]

/-- The text of this definition reads back. -/
theorem readsBack_lone : lone.fillIds.ReadsBack := by
  unfold Definition.ReadsBack
  cbv

/-- A session that deletes a pipeline and makes it again. -/
def remaking : List Operation :=
  [.create "1" lone, .create "2" lone, .update "1" {}, .delete "1", .create "1" lone, .list]

/-- A pipeline that is made again comes last over both backends. -/
theorem performAll_eq_remaking :
    (∀ before, before <+: remaking →
      ∀ p ∈ (performAll before (Backend.empty : Memory)).2.pipelines,
        p.toDefinition.ReadsBack) ∧
      (performAll remaking (Backend.empty : Rows)).1 =
        (performAll remaking (Backend.empty : Memory)).1 := by
  have only {ps : List Pipeline} {n : Nat}
      (h : ps.map (·.toDefinition) = List.replicate n lone.fillIds) :
      ∀ p ∈ ps, p.toDefinition = lone.fillIds :=
    fun p listed => List.eq_of_mem_replicate (h ▸ List.mem_map_of_mem listed)
  have stored : ∀ before ∈ remaking.inits,
      ∀ p ∈ (performAll before (Backend.empty : Memory)).2.pipelines,
        p.toDefinition = lone.fillIds := by
    intro before earlier
    simp only [remaking, List.inits, List.map_cons, List.map_nil, List.mem_cons, List.not_mem_nil,
      or_false] at earlier
    rcases earlier with rfl | rfl | rfl | rfl | rfl | rfl | rfl
    · exact only (n := 0) rfl
    · exact only (n := 1) rfl
    · exact only (n := 2) rfl
    · exact only (n := 2) rfl
    · exact only (n := 1) rfl
    · exact only (n := 2) rfl
    · exact only (n := 2) rfl
  have all : ∀ before, before <+: remaking →
      ∀ p ∈ (performAll before (Backend.empty : Memory)).2.pipelines,
        p.toDefinition.ReadsBack := by
    intro before earlier p listed
    rw [stored before ((List.mem_inits before _).mpr earlier) p listed]
    exact readsBack_lone
  exact ⟨all, performAll_eq remaking all⟩

end Store

end StepFlow
