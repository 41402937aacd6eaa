import StepFlow.Document.Yaml.Word

/-!
# YAML texts as documents

The tree of a YAML text keeps its words as they are written, for what a bare word
stands for depends on what is asked for: where a text is expected, any word is
its own text, and where a number is expected, a quoted one is none.

What belongs to a variant is **settled** first: bare words take their own type,
and after that it reads like a JSON text.
-/

namespace StepFlow

/-- **The tree of a YAML text.** -/
inductive Yaml where
  | bare (word : List Char)
  | quoted (text : List Char)
  | list (items : List Yaml)
  | map (entries : List (Yaml × Yaml))
  | settled (t : JsonText)
deriving Repr

namespace Yaml

/-- The text of a word. -/
def text? : Yaml → Option String
  | bare w => some (String.ofList w)
  | quoted s => some (String.ofList s)
  | settled (.str s) => some s
  | _ => none

mutual

/-- **The tree with every bare word by its own type.** -/
def settle : Yaml → JsonText
  | bare w => typed w
  | quoted s => .str (String.ofList s)
  | list items => .arr (settleItems items)
  | map entries =>
    match settleEntries entries with
    | some fields => .obj fields
    | none => .unreadable
  | settled t => t

/-- The items of a list, settled. -/
def settleItems : List Yaml → List JsonText
  | [] => []
  | y :: rest => settle y :: settleItems rest

/-- The entries of a map, settled; every key must be a text. -/
def settleEntries : List (Yaml × Yaml) → Option (List (String × JsonText))
  | [] => some []
  | (k, y) :: rest =>
    match settle k with
    | .str key => (settleEntries rest).map ((key, settle y) :: ·)
    | _ => none

end

mutual

/-- The value of a tree.  Keys are texts as they are written; of two entries under
one key the last one stays. -/
def value? : Yaml → Option Value
  | bare w => (typed w).value?
  | quoted s => some (.str (String.ofList s))
  | list items => (itemValues? items).map .arr
  | map entries => (entryValues? entries).map fun fs => .ofTable (Table.ofEntries fs)
  | settled t => t.value?

/-- The values of items. -/
def itemValues? : List Yaml → Option (List Value)
  | [] => some []
  | y :: rest => do
    let v ← value? y
    let vs ← itemValues? rest
    return v :: vs

/-- The values of entries. -/
def entryValues? : List (Yaml × Yaml) → Option (List (String × Value))
  | [] => some []
  | (k, y) :: rest => do
    let key ← text? k
    let v ← value? y
    let vs ← entryValues? rest
    return (key, v) :: vs

end

/-- A YAML text is a document.  An empty word may stand for an empty list and for
an empty map. -/
instance : Document Yaml where
  isNull
    | bare w => isNull w
    | settled t => Document.isNull t
    | _ => false
  text? := text?
  bool?
    | bare w => bool? w
    | settled t => Document.bool? t
    | _ => none
  int?
    | bare w => int? w
    | settled t => Document.int? t
    | _ => none
  items?
    | bare [] => some []
    | list items => some items
    | settled t => (Document.items? t).map fun items => items.map settled
    | _ => none
  entries?
    | bare [] => some []
    | map entries => some (entries.map fun e => (text? e.1, e.2))
    | settled t => (Document.entries? t).map fun fields => fields.map fun f => (f.1, settled f.2)
    | _ => none
  positions?
    | settled t => (Document.positions? t).map fun items => items.map settled
    | _ => none
  settle y := settled y.settle
  value? := value?

end Yaml

end StepFlow
