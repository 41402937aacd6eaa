import StepFlow.Store

/-!
# Sessions with a store

A **session** is a sequence of operations on a store over any backend, one after
another, with their answers.  An operation that makes a pipeline carries the id
that it draws, so two backends can be given the same ids.

An operation whose backend cannot read what it needs answers with an error, and the store is as it
was (`Store.perform_of_fails`).
-/

namespace StepFlow.Store

/-- **The operations of a store.** -/
inductive Operation where
  | create (fresh : String) (d : Definition)
  | get (id : String)
  | update (id : String) (q : Patch)
  | delete (id : String)
  | list
  | find (query : String)
  | importValue (fresh : String) (v : Value)
  | exportValue (id : String)

/-- **What they answer**, or the error that they end with. -/
inductive Response where
  | pipeline (p : Except Corrupt (Option Pipeline))
  | verdict (b : Bool)
  | pipelines (ps : Except Corrupt (List Pipeline))
  | value (v : Except Corrupt (Option Value))

/-- **Is an answer this error?** -/
def Response.Fails (c : Corrupt) : Response → Prop
  | .pipeline p => p = .error c
  | .verdict _ => False
  | .pipelines ps => ps = .error c
  | .value v => v = .error c

variable {β : Type} [Backend β]

/-- A search that answers has searched a list. -/
theorem find_eq_ok {query : String} {b : β} {found : List Pipeline}
    (told : find query b = .ok found) :
    ∃ ps, list b = .ok ps ∧ found = ps.filter (isFound query) := by
  unfold find at told
  unfold list
  cases all : Backend.list b with
  | error c => rw [all] at told; cases told
  | ok ps =>
    rw [all] at told
    exact ⟨ps, rfl, (Except.ok.inj told).symm⟩

/-- **Performs an operation.** -/
def perform : Operation → β → Response × β
  | .create fresh d, b => let (p, b) := create fresh d b; (.pipeline (.ok (some p)), b)
  | .get id, b => (.pipeline (get id b), b)
  | .update id q, b => let (p, b) := update id q b; (.pipeline p, b)
  | .delete id, b => let (deleted, b) := delete id b; (.verdict deleted, b)
  | .list, b => (.pipelines (list b), b)
  | .find query, b => (.pipelines (find query b), b)
  | .importValue fresh v, b => let (p, b) := importValue fresh v b; (.pipeline (.ok p), b)
  | .exportValue id, b => (.value (exportValue id b), b)

/-- **An operation that ends in an error leaves the store as it is.** -/
theorem perform_of_fails {op : Operation} {b : β} {c : Corrupt}
    (fails : (perform op b).1.Fails c) : (perform op b).2 = b := by
  cases op with
  | create fresh d => cases fails
  | delete id => cases fails
  | importValue fresh v => cases fails
  | update id q =>
    simp only [perform, update] at fails ⊢
    split at fails
    · rfl
    · rfl
    · cases fails
  | get id => rfl
  | list => rfl
  | find query => rfl
  | exportValue id => rfl

/-- **Performs operations** one after another. -/
def performAll : List Operation → β → List Response × β
  | [], b => ([], b)
  | op :: rest, b =>
    let (answer, b) := perform op b
    let (answers, b) := performAll rest b
    (answer :: answers, b)

@[simp] theorem performAll_nil (b : β) : performAll [] b = ([], b) := rfl

theorem performAll_cons (op : Operation) (rest : List Operation) (b : β) :
    performAll (op :: rest) b =
      ((perform op b).1 :: (performAll rest (perform op b).2).1,
        (performAll rest (perform op b).2).2) := rfl

end StepFlow.Store
