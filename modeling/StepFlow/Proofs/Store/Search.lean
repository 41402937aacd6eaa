import StepFlow.Store.Memory

/-!
# Searching a store

A search lowers the query and the texts of a pipeline, each by itself, and looks for the one
in the other.  What it finds is listed in the order of the store (`Store.searches`).

Lower case does not commute with taking parts.  A capital sigma has two lower-case forms, and
which one it gets depends on whether it ends a word; every other character is lowered by
itself.  So a query that occurs in a text is found there if each of its capital sigmas ends a
word in the query exactly if it does so in the text.  Otherwise it can be missed, though it is
there letter by letter (`Store.not_forall_mem_find`).

What is load-bearing is `Unicode.lowerFrom_append`: the lower-case form of a part of a text is
a part of the lower-case form of the text, if it is formed with the neighbours in sight.
-/

namespace StepFlow

namespace Unicode

/-- **Does a capital sigma end a word** between these texts?  The first one is written
backwards. -/
def endsWord (before after : List Char) : Bool := meetsCased before && !meetsCased after

/-- **The lower-case form of a part of a text**, with the characters before it, the last one
first, and those after it in sight. -/
def lowerWithin (before after : List Char) : List Char → List Char
  | [] => []
  | c :: rest =>
    (if c = 'Σ' then [if endsWord before (rest ++ after) then 'ς' else 'σ'] else lowerChar c)
      ++ lowerWithin (c :: before) after rest

/-- **A text is lowered part by part**, each with its neighbours in sight. -/
theorem lowerFrom_append (before part after : List Char) :
    lowerFrom before (part ++ after) =
      lowerWithin before after part ++ lowerFrom (part.reverse ++ before) after := by
  induction part generalizing before with
  | nil => rfl
  | cons c rest ih =>
    rw [List.cons_append, lowerFrom, lowerWithin, ih (c :: before), List.append_assoc,
      List.reverse_cons, List.append_assoc]
    rfl

/-- The lower-case form of a whole text. -/
theorem lowerWithin_nil (before text : List Char) :
    lowerWithin before [] text = lowerFrom before text := by
  have whole := lowerFrom_append before text []
  rwa [List.append_nil, lowerFrom, List.append_nil, eq_comm] at whole

/-- **The neighbours of a part matter to its capital sigmas only**, and to those only by whether
they end a word. -/
theorem lowerWithin_eq_lowerFrom {before more after part : List Char}
    (kept : ∀ l r, part = l ++ 'Σ' :: r →
      endsWord (l.reverse ++ (before ++ more)) (r ++ after) = endsWord (l.reverse ++ before) r) :
    lowerWithin (before ++ more) after part = lowerFrom before part := by
  rw [← lowerWithin_nil]
  induction part generalizing before with
  | nil => rfl
  | cons c rest ih =>
    have first : (if c = 'Σ' then
          [if endsWord (before ++ more) (rest ++ after) then 'ς' else 'σ'] else lowerChar c) =
        if c = 'Σ' then [if endsWord before (rest ++ []) then 'ς' else 'σ'] else lowerChar c := by
      split
      · rename_i sigma
        have same := kept [] rest (by rw [sigma, List.nil_append])
        rw [List.reverse_nil, List.nil_append, List.nil_append] at same
        rw [same, List.append_nil]
      · rfl
    have others :
        lowerWithin (c :: before ++ more) after rest = lowerWithin (c :: before) [] rest := by
      apply ih
      intro l r split
      have same := kept (c :: l) r (by rw [split, List.cons_append])
      simpa only [List.reverse_cons, List.append_assoc, List.cons_append, List.nil_append]
        using same
    rw [lowerWithin, lowerWithin, first]
    exact congrArg _ others

/-- **A part of a text is found in it by its lower-case form**, if its capital sigmas end a word
in the text where they do so in the part. -/
theorem lower_infix {u part v : List Char}
    (kept : ∀ l r, part = l ++ 'Σ' :: r →
      endsWord (l.reverse ++ u.reverse) (r ++ v) = endsWord l.reverse r) :
    lower part <:+: lower (u ++ part ++ v) := by
  have alone : lowerWithin ([] ++ u.reverse) v part = lower part := by
    apply lowerWithin_eq_lowerFrom
    intro l r split
    rw [List.nil_append, List.append_nil]
    exact kept l r split
  refine ⟨lowerWithin [] (part ++ v) u, lowerFrom (part.reverse ++ u.reverse) v, ?_⟩
  rw [List.nil_append] at alone
  unfold lower at alone ⊢
  rw [← alone, List.append_assoc u, lowerFrom_append, List.append_nil, lowerFrom_append,
    List.append_assoc]

end Unicode

namespace Store

variable {β : Type} [Backend β]

/-- A pipeline is found by a query that one of its texts mentions. -/
theorem isFound_of_mentions {query text : String} {p : Pipeline}
    (listed : text ∈ [p.name, p.description]) (mentioned : mentions query text = true) :
    isFound query p = true := by
  unfold isFound
  rcases List.mem_cons.mp listed with rfl | listed
  · rw [mentioned, Bool.or_true, Bool.true_or]
  · cases List.mem_singleton.mp listed
    rw [mentioned, Bool.or_true]

/-- **What a search finds**, over any backend.  It fails if the store cannot be listed.  Otherwise
it tells pipelines of the store in their order, all of them for the empty query.  A pipeline is
among them if the query occurs somewhere in its name or its description, letter by letter, such
that every capital sigma of the query ends a word there exactly if it does so in the query. -/
theorem searches (query : String) (b : β) :
    (∀ c, list b = .error c → find query b = .error c) ∧
      ∀ ps, list b = .ok ps → ∃ found, find query b = .ok found ∧
        found.Sublist ps ∧ (query = "" → found = ps) ∧
        ∀ p ∈ ps, ∀ text ∈ [p.name, p.description], ∀ u v,
          text.toList = u ++ query.toList ++ v →
          (∀ l r, query.toList = l ++ 'Σ' :: r →
            Unicode.endsWord (l.reverse ++ u.reverse) (r ++ v) = Unicode.endsWord l.reverse r) →
          p ∈ found := by
  unfold list find
  refine ⟨fun c failed => by rw [failed]; rfl, fun ps listed => ?_⟩
  refine ⟨ps.filter (isFound query), by rw [listed]; rfl, List.filter_sublist, ?_, ?_⟩
  · rintro rfl
    exact List.filter_eq_self.mpr fun _ _ => rfl
  · intro p stored text written u v occurs kept
    refine List.mem_filter.mpr ⟨stored, isFound_of_mentions written ?_⟩
    unfold mentions
    rw [Text.occursIn_iff, occurs]
    exact Unicode.lower_infix kept

/-- A definition with a name and hardly anything else. -/
def named (name : String) : Definition := { name, start := "a", steps := .empty }

/-- A store in memory that holds it. -/
def holding (name : String) : Memory := (create "p" (named name) Backend.empty).2

/-- A street is found by its name in capitals, whose last sigma is final in both. -/
theorem searches_street :
    "ΟΔΟΣ ΑΘΗΝΑΣ 7".toList = [] ++ "ΟΔΟΣ".toList ++ " ΑΘΗΝΑΣ 7".toList ∧
      ∃ found, find "ΟΔΟΣ" (holding "ΟΔΟΣ ΑΘΗΝΑΣ 7") = .ok found ∧
        (named "ΟΔΟΣ ΑΘΗΝΑΣ 7").toPipeline "p" ∈ found := by
  refine ⟨by decide, ?_⟩
  obtain ⟨found, searched, -, -, finds⟩ :=
    (searches "ΟΔΟΣ" (holding "ΟΔΟΣ ΑΘΗΝΑΣ 7")).2 _ rfl
  refine ⟨found, searched, finds _ List.mem_cons_self _ List.mem_cons_self
    [] " ΑΘΗΝΑΣ 7".toList (by decide) ?_⟩
  -- the one sigma of the query is its last letter
  intro l r split
  have only : l = ['Ο', 'Δ', 'Ο'] ∧ r = [] := by
    rcases l with _ | ⟨_, _ | ⟨_, _ | ⟨_, _ | ⟨_, l⟩⟩⟩⟩ <;> simp at split
    obtain ⟨rfl, rfl, rfl, rfl⟩ := split
    exact ⟨rfl, rfl⟩
  obtain ⟨rfl, rfl⟩ := only
  decide +kernel

/-- **A search can miss a query that is there letter by letter**: its last sigma is final in the
query and not in the name. -/
theorem not_forall_mem_find :
    ¬ ∀ (query : String) (b : Memory) (ps : List Pipeline), list b = .ok ps → ∀ p ∈ ps,
      query.toList <:+: p.name.toList → ∃ found, find query b = .ok found ∧ p ∈ found := by
  intro finds
  obtain ⟨found, searched, here⟩ :=
    finds "ΑΣ" (holding "ΑΣΑ") _ rfl _ List.mem_cons_self ⟨[], ['Α'], by decide⟩
  have missed : isFound "ΑΣ" ((named "ΑΣΑ").toPipeline "p") = false := by decide +kernel
  obtain rfl := Except.ok.inj searched
  have shown := (List.mem_filter.mp here).2
  rw [missed] at shown
  cases shown

end Store

end StepFlow
