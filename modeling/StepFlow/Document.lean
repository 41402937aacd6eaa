import StepFlow.Value

/-!
# Reading records out of documents

Pipelines, states and settings are read from **documents**: values, JSON texts
and YAML texts.  The three differ in small ways: whether a key can occur twice,
whether a bare word is a text or a number, whether a list may stand for a
record.  The class `Document` is what the readers need to know of a document,
and each reader is written once, for all of them.

A reader answers `none` where it refuses.  What makes a document unfit is not
part of the answer.

**Records.**  A record has named fields.  Unknown fields do not count, a known
field may occur once, and a list stands for a record by position.  A field is
*required*, *optional* (null counts as absent), or has a *default*.

**Variants.**  A record whose field `type` tells which fields it has.
-/

namespace StepFlow

/-- Fields of a document in their order.  A key that is no text is `none`. -/
abbrev RawFields (δ : Type) := List (Option String × δ)

/-- **A document** of type `δ`, as readers see it.  Each reading answers `none`
if the document is of another kind. -/
class Document (δ : Type) where
  /-- Does the document stand for an absent optional field? -/
  isNull : δ → Bool
  /-- A text. -/
  text? : δ → Option String
  /-- A truth value. -/
  bool? : δ → Option Bool
  /-- An integer; a number with a fraction or an exponent is none. -/
  int? : δ → Option Int
  /-- The items of a list. -/
  items? : δ → Option (List δ)
  /-- The entries of a map. -/
  entries? : δ → Option (RawFields δ)
  /-- Items that may stand for the fields of a record. -/
  positions? : δ → Option (List δ)
  /-- The document as the content of a variant: bare words take their own type. -/
  settle : δ → δ
  /-- The document as a value. -/
  value? : δ → Option Value

namespace Document

variable {δ α : Type} [Document δ]

/-- Fields of a record under their names, in the order of the document. -/
abbrev Fields (δ : Type) := List (String × δ)

/-- Keeps the fields with the given names.  Every key must be a text, and none of
the names may occur twice. -/
def keepNamed (names : List String) : RawFields δ → Option (Fields δ)
  | [] => some []
  | (none, _) :: _ => none
  | (some k, d) :: rest => do
    let fields ← keepNamed names rest
    if names.contains k then
      if fields.any fun f => f.1 = k then none else some ((k, d) :: fields)
    else some fields

/-- Items under names, by position; there are not more items than names. -/
def byPosition : (names : List String) → List δ → Option (Fields δ)
  | _, [] => some []
  | [], _ :: _ => none
  | n :: names, d :: items => (byPosition names items).map ((n, d) :: ·)

/-- **The fields of a record** with these names. -/
def fields? (names : List String) (d : δ) : Option (Fields δ) :=
  match entries? d with
  | some raw => keepNamed names raw
  | none => (positions? d).bind (byPosition names)

/-- What a variant holds beside its type. -/
inductive Content (δ : Type) where
  | named (raw : RawFields δ)
  | listed (items : List δ)

/-- The fields of a variant with these names. -/
def Content.fields? (names : List String) : Content δ → Option (Fields δ)
  | named raw => keepNamed names raw
  | listed items => byPosition names items

/-- **The type of a variant and what it holds.**  A record has exactly one field
`type`; a list starts with the type. -/
def variant? (d : δ) : Option (String × Content δ) :=
  match entries? d with
  | some raw =>
    match raw.filter fun f => f.1 = some "type" with
    | [f] => do
      let name ← text? f.2
      return (name, .named ((raw.filter fun f => f.1 ≠ some "type").map fun f => (f.1, settle f.2)))
    | _ => none
  | none =>
    match items? d with
    | some (t :: items) => (text? t).map fun name => (name, .listed (items.map settle))
    | _ => none

namespace Fields

/-- The field `name`, if it is there. -/
def get? (fields : Fields δ) (name : String) : Option δ := Entries.get? name fields

/-- A field that must be there. -/
def required (read : δ → Option α) (fields : Fields δ) (name : String) : Option α :=
  (fields.get? name).bind read

/-- A field that may be missing or null. -/
def optional (read : δ → Option α) (fields : Fields δ) (name : String) : Option (Option α) :=
  match fields.get? name with
  | none => some none
  | some d => if isNull d then some none else (read d).map some

/-- A field that may be missing, and then has the value `default`. -/
def withDefault (default : α) (read : δ → Option α) (fields : Fields δ) (name : String) :
    Option α :=
  match fields.get? name with
  | none => some default
  | some d => read d

end Fields

/-- An integer of 32 bits without a sign. -/
def uint32? (d : δ) : Option UInt32 :=
  (int? d).bind fun n => if 0 ≤ n ∧ n < twoTo 32 then some (.ofNat n.toNat) else none

/-- An integer of 64 bits without a sign. -/
def uint64? (d : δ) : Option UInt64 :=
  (int? d).bind fun n => if 0 ≤ n ∧ n < twoTo 64 then some (.ofNat n.toNat) else none

/-- An integer of 64 bits with a sign. -/
def int64? (d : δ) : Option Int64 :=
  (int? d).bind fun n => if -twoTo 63 ≤ n ∧ n < twoTo 63 then some (.ofInt n) else none

/-- A list, each item read. -/
def list? (read : δ → Option α) (d : δ) : Option (List α) :=
  (items? d).bind fun items => items.mapM read

/-- Reads the entries of a map one after another; every key must be a text. -/
def readEntries (read : δ → Option α) : RawFields δ → Option (Entries α)
  | [] => some []
  | (none, _) :: _ => none
  | (some k, d) :: rest => do
    let v ← read d
    let vs ← readEntries read rest
    return (k, v) :: vs

/-- A table; of two entries under one key the last one stays. -/
def table? (read : δ → Option α) (d : δ) : Option (Table α) :=
  (entries? d).bind fun raw => (readEntries read raw).map Table.ofEntries

end Document

/-- A value is a document.  Its texts are texts and its integers integers; there
is nothing to settle. -/
instance : Document Value where
  isNull
    | .null => true
    | _ => false
  text? := Value.text?
  bool?
    | .bool b => some b
    | _ => none
  int?
    | .int n => some n
    | _ => none
  items?
    | .arr items => some items
    | _ => none
  entries?
    | .obj fields => some (fields.map fun f => (some f.1, f.2))
    | _ => none
  positions?
    | .arr items => some items
    | _ => none
  settle v := v
  value? := some

end StepFlow
