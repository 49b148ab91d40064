import PersonaChat.Yaml.Meaning

/-!
# Nodes

A node is a scalar, a sequence or a mapping with a tag. Its value is made once, when the node is
complete, so that an alias shares it. Merged entries come before those of the mapping itself, and
entries that come later count.
-/

namespace PersonaChat.Yaml

/-- A node of a document. -/
inductive Node where
  /-- A scalar. -/
  | scalar (tag : Tag) (text : List Char)
  /-- A sequence, with its value unless it has none. -/
  | sequence (tag : Tag) (items : List Node) (value : Option Yaml)
  /-- A mapping: its entries after merging, unless they cannot be merged, the text that stands for
  it where a scalar is wanted, and its value unless it has none. -/
  | mapping (tag : Tag) (entries : Option (List (Node × Node))) (text : Option (List Char))
    (value : Option Yaml)

namespace Node

/-- The tag. -/
def tag : Node → Tag
  | .scalar t _ => t
  | .sequence t _ _ => t
  | .mapping t _ _ _ => t

/-- The text of a scalar, or of the default entry of a mapping. -/
def text? : Node → Option (List Char)
  | .scalar _ text => some text
  | .sequence _ _ _ => none
  | .mapping _ _ text _ => text

/-- The value. -/
def value? : Node → Option Yaml
  | .scalar t text => t.read? text
  | .sequence _ _ value => value
  | .mapping _ _ _ value => value

/-- The value as a key, which holds no others. The mark of a default entry is a text there. -/
def keyValue? (n : Node) : Option Yaml :=
  let value := if n.tag = .default then n.text?.map fun text ↦ .str (String.ofList text)
    else n.value?
  value.filter Yaml.isScalar

/-- The null node. -/
def null : Node := .scalar .null []

/-- The entries of a mapping after merging. -/
def mappingEntries? : Node → Option (List (Node × Node))
  | .mapping _ entries _ _ => entries
  | _ => none

/-- The entries that a node adds to a mapping into which it is merged: its own ones if it is a
mapping, and those of its items if it is a sequence of mappings, of which the first one counts. -/
def merged? : Node → Option (List (Node × Node))
  | .scalar _ _ => none
  | .mapping _ entries _ _ => entries
  | .sequence _ items _ =>
    (items.mapM mappingEntries?).map fun parts ↦ parts.reverse.flatten

/-- Entries after merging. -/
def mergeEntries? (entries : List (Node × Node)) : Option (List (Node × Node)) := do
  let merges := entries.filter fun (key, _) ↦ key.tag = .merge
  let own := entries.filter fun (key, _) ↦ key.tag ≠ .merge
  some ((← merges.mapM fun (_, value) ↦ value.merged?).flatten ++ own)

/-- The values of entries. -/
def entryValues? (entries : List (Node × Node)) : Option (List (Yaml × Yaml)) :=
  entries.mapM fun (key, value) ↦ do some (← key.keyValue?, ← value.value?)

/-- The value of a mapping of one entry as a pair. -/
def pairValue? : Node → Option Yaml
  | .mapping _ (some [(key, value)]) _ _ => do some (.seq [← key.value?, ← value.value?])
  | _ => none

/-- A sequence of items. -/
def ofItems (tag : Tag) (items : List Node) : Node :=
  .sequence tag items <|
    match tag with
    | .seq => (items.mapM value?).map .seq
    | .pairs => (items.mapM pairValue?).map .seq
    | _ => none

/-- A mapping of entries. Under the tag of a scalar it stands for the text of its default entry. -/
def ofEntries (tag : Tag) (entries : List (Node × Node)) : Node :=
  let merged := mergeEntries? entries
  let text := (entries.find? fun (key, _) ↦ key.tag = .default).bind fun (_, value) ↦ value.text?
  .mapping tag merged text <|
    match tag with
    | .map => (merged.bind entryValues?).map .map
    | .set => (merged.bind entryValues?).map fun values ↦
        .set (distinctKeys [] (values.map Prod.fst))
    | .seq | .pairs | .moment => none
    | _ => text.bind tag.read?

/-- A sequence as it appears inside itself, of no content. -/
def openSequence (tag : Tag) : Node := ofItems tag []

/-- A mapping as it appears inside itself, of no content. -/
def openMapping (tag : Tag) : Node := ofEntries tag []

end Node

end PersonaChat.Yaml
