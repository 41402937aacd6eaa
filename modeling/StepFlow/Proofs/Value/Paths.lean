import StepFlow.Value.Path

/-!
# The segments of a dotted path

Cutting a text at its dots undoes joining segments with dots, provided that none of them has a dot
of its own (`segments_intercalate`), and blanks are trimmed off the ends of a text only where
there are any (`Unicode.trim_eq_self`).  So a path that was joined leads where its segments lead
(`resolve_ofList`).  A segment of decimal digits is the index that they denote
(`index?_toDigits`).
-/

namespace StepFlow

namespace Unicode

/-- A text that neither starts nor ends with a blank is left as it is. -/
theorem trim_eq_self {text : List Char} (first : ∀ c ∈ text.head?, isBlank c = false)
    (last : ∀ c ∈ text.getLast?, isBlank c = false) : trim text = text := by
  have keeps {cs : List Char} (start : ∀ c ∈ cs.head?, isBlank c = false) :
      cs.dropWhile isBlank = cs := by
    cases cs with
    | nil => rfl
    | cons c cs => exact List.dropWhile_cons_of_neg (by rw [start c rfl]; exact Bool.false_ne_true)
  unfold trim
  rw [keeps first, keeps (by simpa only [List.head?_reverse] using last), List.reverse_reverse]

end Unicode

namespace Path

/-! ### Cutting and joining -/

/-- **Cutting at dots distributes over joining**: a dot between two texts is a cut. -/
theorem segments_append (a b : List Char) :
    segments (a ++ '.' :: b) = segments a ++ segments b := by
  induction a with
  | nil => simp [segments]
  | cons c a ih =>
    simp only [List.cons_append, segments, ih]
    split
    · rfl
    · cases cut : segments a with
      | nil => exact absurd cut (segments_ne_nil a)
      | cons s rest => rfl

/-- A text without dots is one segment. -/
theorem segments_of_not_mem {a : List Char} (plain : '.' ∉ a) : segments a = [a] := by
  induction a with
  | nil => rfl
  | cons c a ih =>
    rw [List.mem_cons, not_or] at plain
    simp only [segments, Ne.symm plain.1, if_false, ih plain.2]

/-- **Cutting undoes joining.** -/
theorem segments_intercalate {ps : List (List Char)} (some : ps ≠ [])
    (plain : ∀ p ∈ ps, '.' ∉ p) : segments (List.intercalate ['.'] ps) = ps := by
  induction ps with
  | nil => exact absurd rfl some
  | cons p ps ih =>
    have first : segments p = [p] := segments_of_not_mem (plain p List.mem_cons_self)
    cases ps with
    | nil => rw [List.intercalate_singleton, first]
    | cons q ps =>
      rw [List.intercalate_cons_cons, List.append_assoc, List.singleton_append, segments_append,
        first, ih (List.cons_ne_nil q ps) fun r listed => plain r (List.mem_cons_of_mem p listed)]
      rfl

/-- A joined text has the characters of its parts, and dots. -/
theorem mem_intercalate {ps : List (List Char)} {c : Char}
    (mem : c ∈ List.intercalate ['.'] ps) : c = '.' ∨ ∃ p ∈ ps, c ∈ p := by
  induction ps with
  | nil => cases mem
  | cons p ps ih =>
    cases ps with
    | nil =>
      rw [List.intercalate_singleton] at mem
      exact .inr ⟨p, List.mem_cons_self, mem⟩
    | cons q ps =>
      rw [List.intercalate_cons_cons, List.append_assoc, List.mem_append, List.mem_append,
        List.mem_singleton] at mem
      rcases mem with here | dot | later
      · exact .inr ⟨p, List.mem_cons_self, here⟩
      · exact .inl dot
      · exact (ih later).imp_right fun ⟨r, listed, held⟩ => ⟨r, List.mem_cons_of_mem p listed, held⟩

/-! ### Resolving -/

/-- **A path that needs no trimming leads where its segments lead.** -/
theorem resolve_ofList (v : Value) {cs : List Char} (some : cs ≠ [])
    (first : ∀ c ∈ cs.head?, Unicode.isBlank c = false)
    (last : ∀ c ∈ cs.getLast?, Unicode.isBlank c = false) :
    resolve v (String.ofList cs) = follow v (segments cs) := by
  unfold resolve
  rw [String.toList_ofList, Unicode.trim_eq_self first last]
  cases cs with
  | nil => exact absurd rfl some
  | cons c cs => rfl

/-- **A path that needs no trimming**: it is not empty, and it neither starts nor ends with a
blank. -/
structure IsTrimmed (path : String) : Prop where
  nonempty : path ≠ ""
  first : ∀ c ∈ path.toList.head?, Unicode.isBlank c = false
  last : ∀ c ∈ path.toList.getLast?, Unicode.isBlank c = false

section Join

variable {p q : String}

theorem IsTrimmed.toList_ne_nil (trimmed : IsTrimmed p) : p.toList ≠ [] :=
  mt String.toList_eq_nil_iff.mp trimmed.nonempty

theorem IsTrimmed.resolve_eq (trimmed : IsTrimmed p) (v : Value) :
    resolve v p = follow v (segments p.toList) := by
  have resolved := resolve_ofList v trimmed.toList_ne_nil trimmed.first trimmed.last
  rwa [String.ofList_toList] at resolved

theorem toList_join (p q : String) : (p ++ "." ++ q).toList = p.toList ++ '.' :: q.toList := by
  rw [String.toList_append, String.toList_append, List.append_assoc]
  rfl

/-- A dot between two paths leaves their outer ends as they are. -/
theorem IsTrimmed.join (hp : IsTrimmed p) (hq : IsTrimmed q) : IsTrimmed (p ++ "." ++ q) := by
  refine ⟨fun empty => ?_, ?_, ?_⟩
  · rw [← String.toList_eq_nil_iff, toList_join] at empty
    exact hp.toList_ne_nil (List.append_eq_nil_iff.mp empty).1
  · rw [toList_join, List.head?_append,
      Option.or_of_isSome (List.isSome_head?.mpr hp.toList_ne_nil)]
    exact hp.first
  · have some : ('.' :: q.toList).getLast?.isSome := List.getLast?_isSome.mpr (List.cons_ne_nil _ _)
    rw [toList_join, List.getLast?_append, Option.or_of_isSome some,
      List.getLast?_cons_of_ne_nil hq.toList_ne_nil]
    exact hq.last

/-- **Joined paths are followed one after the other.**  A path of two parts, with a dot between
them, leads in any value where the second part leads from what the first part leads to, and nowhere
if either part leads nowhere. -/
theorem resolve_join (v : Value) (hp : IsTrimmed p) (hq : IsTrimmed q) :
    resolve v (p ++ "." ++ q) = (resolve v p).bind fun w => resolve w q := by
  calc resolve v (p ++ "." ++ q)
    _ = follow v (segments p.toList ++ segments q.toList) := by
      rw [(hp.join hq).resolve_eq, toList_join, segments_append]
    _ = (follow v (segments p.toList)).bind fun w => follow w (segments q.toList) :=
      follow_append v _ _
    _ = (resolve v p).bind fun w => resolve w q := by
      simp only [hp.resolve_eq, hq.resolve_eq]

end Join

/-- An object with a field that has no name, with a list in it. -/
def unnamed : Value := .obj [("a", .obj [("", .obj [("b", .arr [.int 10, .int 20])])])]

/-- The path `a.` ends with the field that has no name, and `b.1` goes on from there. -/
theorem resolve_join_unnamed :
    IsTrimmed "a." ∧ IsTrimmed "b.1" ∧
      resolve unnamed ("a." ++ "." ++ "b.1") =
        ((resolve unnamed "a.").bind fun w => resolve w "b.1") ∧
      resolve unnamed "a..b.1" = some (.int 20) := by
  have first : IsTrimmed "a." := ⟨by decide, by rintro _ ⟨⟩; rfl, by rintro _ ⟨⟩; rfl⟩
  have second : IsTrimmed "b.1" := ⟨by decide, by rintro _ ⟨⟩; rfl, by rintro _ ⟨⟩; rfl⟩
  exact ⟨first, second, resolve_join unnamed first second, rfl⟩

/-- The empty path leads to the whole value, but before a dot it is the field that has no name. -/
example : (resolve (.obj [("b", .null)]) "").bind (fun w => resolve w "b") = some .null ∧
    resolve (.obj [("b", .null)]) ("" ++ "." ++ "b") = none :=
  ⟨rfl, rfl⟩

/-! ### Indices -/

theorem numberFrom_of_digits {ds : List Char} (digits : ∀ d ∈ ds, d.isDigit = true) (n : Nat) :
    numberFrom n ds = some (Nat.ofDigitChars 10 ds n) := by
  induction ds generalizing n with
  | nil => rfl
  | cons d ds ih =>
    rw [List.forall_mem_cons] at digits
    rw [numberFrom, digit?, if_pos digits.1, Option.bind_some, ih digits.2, Nat.ofDigitChars_cons]
    rfl

/-- **The decimal digits of a number are an index**, namely that number. -/
theorem index?_toDigits (n : Nat) : index? (Nat.toDigits 10 n) = some n := by
  have digits : ∀ d ∈ Nat.toDigits 10 n, d.isDigit = true := fun d mem =>
    Nat.isDigit_of_mem_toDigits (by decide) (by decide) mem
  have number : numberFrom 0 (Nat.toDigits 10 n) = some n := by
    rw [numberFrom_of_digits digits, Nat.ofDigitChars_toDigits (by decide) (by decide)]
  unfold index?
  split
  · rename_i empty
    exact absurd empty Nat.toDigits_ne_nil
  · rename_i plus
    exact absurd (digits '+' (plus ▸ List.mem_cons_self)) (by decide)
  · rename_i ds plus
    exact absurd (digits '+' (plus ▸ List.mem_cons_self)) (by decide)
  · exact number

/-- A segment that starts with neither a digit nor a plus sign is no index. -/
theorem index?_of_not_digit {c : Char} (digit : c.isDigit = false) (plus : c ≠ '+')
    (cs : List Char) : index? (c :: cs) = none := by
  unfold index?
  split
  · rfl
  · rfl
  · rename_i same
    cases same
    exact absurd rfl plus
  · simp only [numberFrom, digit?, digit, Bool.false_eq_true, if_false, Option.bind_none]

end Path

end StepFlow
