import StepFlow.Expression.Eval
import StepFlow.Proofs.Expression.Characters
import StepFlow.Proofs.Value.Paths

/-!
# Two readers of paths

A part of a value is reached in two ways: an expression looks up segments that have been told apart
into keys and indices (`lookup`), and a parameter resolves a dotted text, which is trimmed, cut and
read anew at every hop (`Path.resolve`).  For a path of identifiers and indices the two find the
same, or both find nothing (`lookup_eq_resolve`).

What is load-bearing is that the text says of each segment what it is: an identifier is no index,
since it starts with neither a digit nor a sign, and decimal digits are the index they were written
for.  What the text cannot say is that an index is not meant as a key, and an object has whatever
keys it likes.  There the readers part: the text finds the field and the index finds nothing.  So
the proviso that no index meets an object with its text as a key is needed (`IndicesAreNoKeys`).
-/

namespace StepFlow.Expression

/-- **An identifier**: a letter, `_` or `$`, and then letters, numerals, `_` or `$`. -/
def IsIdentifier (name : String) : Prop :=
  ∃ c cs, name.toList = c :: cs ∧ isWordStart c = true ∧ ∀ d ∈ cs, isWordChar d = true

namespace Segment

/-- A segment as text: the key, or the index in decimal. -/
def text : Segment → String
  | key name => name
  | index n => toString n

/-- Is the segment an index or an identifier? -/
def IsPlain : Segment → Prop
  | key name => IsIdentifier name
  | index _ => True

end Segment

/-- The segments of a path, joined with dots. -/
def dotted (path : List Segment) : String := ".".intercalate (path.map Segment.text)

/-- **No index is taken for a key**: where a path leads to an object and goes on with an index, the
object has no field under the decimal text of that index. -/
def IndicesAreNoKeys (v : Value) (path : List Segment) : Prop :=
  ∀ before n after, path = before ++ .index n :: after → ∀ fields,
    lookup v before = some (.obj fields) → Entries.get? (toString n) fields = none

/-! ### The text of a segment -/

variable {s : Segment}

theorem Segment.toList_text_index (n : Nat) : (Segment.index n).text.toList = Nat.toDigits 10 n :=
  Nat.toList_repr

/-- The text of a plain segment is a word or a numeral, character by character. -/
theorem Segment.IsPlain.isWordChar_of_mem (plain : s.IsPlain) {c : Char}
    (mem : c ∈ s.text.toList) : isWordChar c = true := by
  cases s with
  | key name =>
    obtain ⟨first, rest, spelt, start, going⟩ := plain
    rw [show (Segment.key name).text = name from rfl, spelt, List.mem_cons] at mem
    rcases mem with rfl | later
    · exact isWordChar_of_isWordStart start
    · exact going c later
  | index n =>
    rw [toList_text_index] at mem
    exact isWordChar_of_isDigit (Nat.isDigit_of_mem_toDigits (by decide) (by decide) mem)

theorem Segment.IsPlain.text_ne_nil (plain : s.IsPlain) : s.text.toList ≠ [] := by
  cases s with
  | key name =>
    obtain ⟨first, rest, spelt, -⟩ := plain
    rw [show (Segment.key name).text = name from rfl, spelt]
    exact List.cons_ne_nil _ _
  | index n =>
    rw [toList_text_index]
    exact Nat.toDigits_ne_nil

/-- An identifier is no index. -/
theorem index?_of_isIdentifier {name : String} (identifier : IsIdentifier name) :
    Path.index? name.toList = none := by
  obtain ⟨c, cs, spelt, start, -⟩ := identifier
  rw [spelt]
  refine Path.index?_of_not_digit ?_ ?_ cs
  · cases digit : c.isDigit with
    | false => rfl
    | true => exact start.symm.trans (isWordStart_of_isDigit digit)
  · rintro rfl
    revert start
    decide

/-! ### One hop -/

/-- **The two readers take the same hop**, unless an index is the text of a key. -/
theorem Segment.IsPlain.hop_eq (plain : s.IsPlain) {v : Value}
    (apart : ∀ n, s = .index n → ∀ fields, v = .obj fields →
      Entries.get? (toString n) fields = none) :
    s.hop v = Path.hop v s.text.toList := by
  cases s with
  | key name =>
    cases v with
    | obj fields => simp only [hop, Value.field?, Path.hop, text, String.ofList_toList]
    | arr items =>
      simp only [hop, Value.field?, Path.hop, text, index?_of_isIdentifier plain, Option.bind_none]
    | _ => rfl
  | index n =>
    cases v with
    | obj fields =>
      simp only [hop, Value.item?, Path.hop, text, String.ofList_toList, apart n rfl fields rfl]
    | arr items =>
      simp only [hop, Value.item?, Path.hop, toList_text_index, Path.index?_toDigits,
        Option.bind_some]
    | _ => rfl

/-! ### Whole paths -/

variable {v : Value} {path : List Segment}

/-- The proviso holds of what comes after the first hop. -/
theorem IndicesAreNoKeys.tail {w : Value} (apart : IndicesAreNoKeys v (s :: path))
    (reached : s.hop v = some w) : IndicesAreNoKeys w path := by
  intro before n after split fields found
  refine apart (s :: before) n after (by rw [split, List.cons_append]) fields ?_
  rw [lookup, reached, Option.bind_some, found]

/-- Looking segments up is following their texts. -/
theorem lookup_eq_follow (plain : ∀ s ∈ path, s.IsPlain) (apart : IndicesAreNoKeys v path) :
    lookup v path = Path.follow v (path.map fun s => s.text.toList) := by
  induction path generalizing v with
  | nil => rfl
  | cons s path ih =>
    rw [List.forall_mem_cons] at plain
    have same : s.hop v = Path.hop v s.text.toList := by
      refine plain.1.hop_eq fun n isIndex fields isObject => ?_
      subst isIndex isObject
      exact apart [] n path rfl fields rfl
    rw [lookup, List.map_cons, Path.follow, ← same]
    cases reached : s.hop v with
    | none => rfl
    | some w => exact ih plain.2 (apart.tail reached)

theorem toList_dotted (path : List Segment) :
    (dotted path).toList = List.intercalate ['.'] (path.map fun s => s.text.toList) := by
  simp only [dotted, String.toList_intercalate, List.map_map, Function.comp_def]
  rfl

/-- No dotted path has a blank. -/
theorem isBlank_of_mem_dotted (plain : ∀ s ∈ path, s.IsPlain) {c : Char}
    (mem : c ∈ (dotted path).toList) : Unicode.isBlank c = false := by
  rw [toList_dotted] at mem
  rcases Path.mem_intercalate mem with rfl | ⟨text, listed, held⟩
  · decide
  · obtain ⟨s, named, rfl⟩ := List.mem_map.mp listed
    exact isBlank_of_isWordChar ((plain s named).isWordChar_of_mem held)

/-- The segments of a dotted path are those that were joined. -/
theorem segments_dotted (some : path ≠ []) (plain : ∀ s ∈ path, s.IsPlain) :
    Path.segments (dotted path).toList = path.map fun s => s.text.toList := by
  rw [toList_dotted]
  refine Path.segments_intercalate (by simpa only [ne_eq, List.map_eq_nil_iff] using some) ?_
  intro text listed dot
  obtain ⟨s, named, rfl⟩ := List.mem_map.mp listed
  have word : isWordChar '.' = true := (plain s named).isWordChar_of_mem dot
  exact absurd word (by decide)

theorem dotted_ne_nil (some : path ≠ []) (plain : ∀ s ∈ path, s.IsPlain) :
    (dotted path).toList ≠ [] := by
  intro empty
  -- then its segments would be that of the empty text
  have cut := segments_dotted some plain
  rw [empty] at cut
  cases path with
  | nil => exact some rfl
  | cons s path =>
    rw [List.map_cons] at cut
    exact (plain s List.mem_cons_self).text_ne_nil (List.cons.inj cut).1.symm

/-- **The two readers of paths agree.**  Segments that are identifiers or indices, one at least,
lead in any value to the same place as the path in which they are joined with dots, or neither
leads anywhere, provided that no index is applied to an object with its text as a key. -/
theorem lookup_eq_resolve (some : path ≠ []) (plain : ∀ s ∈ path, s.IsPlain)
    (apart : IndicesAreNoKeys v path) : lookup v path = Path.resolve v (dotted path) := by
  have blanks {c : Char} (mem : c ∈ (dotted path).toList) : Unicode.isBlank c = false :=
    isBlank_of_mem_dotted plain mem
  have resolved := Path.resolve_ofList v (dotted_ne_nil some plain)
    (fun c first => blanks (List.mem_of_head? first))
    (fun c last => blanks (List.mem_of_getLast? last))
  rw [String.ofList_toList, segments_dotted some plain] at resolved
  rw [resolved]
  exact lookup_eq_follow plain apart

/-- A list of a number and an object, two fields deep. -/
def nested : Value :=
  .obj [("outer", .obj [("inner", .arr [.int 10, .obj [("deep", .str "x")]])])]

/-- The path `outer.inner.1.deep`. -/
def deepPath : List Segment := [.key "outer", .key "inner", .index 1, .key "deep"]

/-- Both readers find the text at the end of `outer.inner.1.deep`. -/
theorem lookup_eq_resolve_nested :
    deepPath ≠ [] ∧ (∀ s ∈ deepPath, s.IsPlain) ∧ IndicesAreNoKeys nested deepPath ∧
      lookup nested deepPath = Path.resolve nested (dotted deepPath) ∧
        dotted deepPath = "outer.inner.1.deep" ∧ lookup nested deepPath = some (.str "x") := by
  have some : deepPath ≠ [] := List.cons_ne_nil _ _
  have plain : ∀ s ∈ deepPath, s.IsPlain := by
    simp only [deepPath, List.forall_mem_cons, List.not_mem_nil, false_imp_iff, implies_true,
      Segment.IsPlain, and_true, true_and]
    exact ⟨⟨'o', "uter".toList, by decide, by decide, List.all_eq_true.mp (by decide)⟩,
      ⟨'i', "nner".toList, by decide, by decide, List.all_eq_true.mp (by decide)⟩,
      ⟨'d', "eep".toList, by decide, by decide, List.all_eq_true.mp (by decide)⟩⟩
  have apart : IndicesAreNoKeys nested deepPath := by
    intro before n after split fields found
    -- the only index stands behind two keys, and these lead to a list
    rcases before with _ | ⟨_, _ | ⟨_, _ | ⟨_, _ | ⟨_, before⟩⟩⟩⟩ <;> simp [deepPath] at split
    obtain ⟨rfl, rfl, -⟩ := split
    cases found
  exact ⟨some, plain, apart, lookup_eq_resolve some plain apart, by decide, rfl⟩

/-- Without the proviso the readers part: this index is the text of a key. -/
example : lookup (.obj [("0", .null)]) [.index 0] = none ∧
    Path.resolve (.obj [("0", .null)]) (dotted [.index 0]) = some .null :=
  ⟨rfl, rfl⟩

end StepFlow.Expression
