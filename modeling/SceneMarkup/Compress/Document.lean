import SceneMarkup.Compress.Metrics
import SceneMarkup.Compress.Node
import SceneMarkup.Json.Decode
import SceneMarkup.Json.Reader

/-!
# Compressed documents

A compressed document holds compressed trees together with the default table that they were compressed with and a few
numbers about the compression.
-/

namespace SceneMarkup

/-- The numbers and the note that a compressed document carries. -/
structure DocumentMetadata where
  treesBefore : Nat
  treesAfter : Nat
  attributesBefore : Nat
  attributesAfter : Nat
  note : String

/-- Compressed trees with their default table. -/
structure CompressedDocument where
  trees : List SceneNode
  defaults : DefaultTable
  metadata : DocumentMetadata

/-- The JSON form. -/
def DocumentMetadata.toJson (m : DocumentMetadata) : Json :=
  .obj [("original_nodes", .int m.treesBefore), ("compressed_nodes", .int m.treesAfter),
    ("original_attributes", .int m.attributesBefore), ("compressed_attributes", .int m.attributesAfter),
    ("note", .str m.note)]

/-- The metadata that a JSON value stands for. The counts of attributes and the note may be missing. -/
def DocumentMetadata.ofJson? (v : Json) : Option DocumentMetadata := do
  match ← v.record? ["original_nodes", "compressed_nodes", "original_attributes", "compressed_attributes", "note"] with
  | [treesBefore, treesAfter, attributesBefore, attributesAfter, note] =>
    return {
      treesBefore := ← (← treesBefore).count?
      treesAfter := ← (← treesAfter).count?
      attributesBefore := ← (attributesBefore.getD (.int 0)).count?
      attributesAfter := ← (attributesAfter.getD (.int 0)).count?
      note := ← (note.getD (.str "")).string? }
  | _ => none

namespace CompressedDocument

/-- The note in every compressed document. -/
def documentNote : String :=
  "Compressed scene-node data with its default table. " ++
    "Attributes equal to their defaults, computed attributes and empty collections have been removed."

/-- The compressed document of some trees. -/
def build (t : DefaultTable) (trees : List SceneNode) : Logged CompressedDocument := do
  let compressed := SceneNode.compressAll t trees
  let m := CompressionMetrics.of trees compressed
  Logged.info ("compressed " ++ toString m.treesBefore ++ " tree(s): " ++ toString m.attributesBefore ++ " -> " ++
    toString m.attributesAfter ++ " attributes")
  return {
    trees := compressed
    defaults := t
    metadata := {
      treesBefore := m.treesBefore
      treesAfter := m.treesAfter
      attributesBefore := m.attributesBefore
      attributesAfter := m.attributesAfter
      note := documentNote } }

/-- The JSON form. -/
def toJson (d : CompressedDocument) : Json :=
  .obj [("compressed_data", .arr (SceneNode.writtenAll d.trees)), ("defaults", d.defaults.toJson),
    ("metadata", d.metadata.toJson)]

/-- The error for what is no compressed document. -/
def notDocument : SceneError :=
  .serialization "the value is not a compressed document"

/-- The table that a JSON object stands for, whatever its sections are. -/
def uncheckedTable? : Json → Option DefaultTable
  | .obj sections => some ⟨sections⟩
  | _ => none

/-- The parts of a document that have been decoded. -/
structure Parts where
  trees : Option (List SceneNode)
  defaults : Option DefaultTable
  metadata : Option DocumentMetadata

/-- Decodes the fields of a document in the order in which they are written, of which none may be given twice. -/
def decodeParts (p : Parts) : List (String × Json) → Outcome Parts
  | [] => pure p
  | (name, v) :: rest =>
    match name, v with
    | "compressed_data", .arr items => do
      if p.trees.isSome then throw notDocument
      let trees ← (SceneNode.ofJsons (Json.settleItems items)).adapt fun _ => notDocument
      decodeParts { p with trees := some trees } rest
    | "defaults", v => do
      let some table := uncheckedTable? v.settle | throw notDocument
      if p.defaults.isSome then throw notDocument
      decodeParts { p with defaults := some table } rest
    | "metadata", v => do
      let some metadata := DocumentMetadata.ofJson? v | throw notDocument
      if p.metadata.isSome then throw notDocument
      decodeParts { p with metadata := some metadata } rest
    | _, _ => throw notDocument

/-- The document that a JSON value with every field as it is written stands for. -/
def ofJson (v : Json) : Outcome CompressedDocument := do
  let some fields := v.recordFields? ["compressed_data", "defaults", "metadata"] | throw notDocument
  match ← decodeParts ⟨none, none, none⟩ fields with
  | ⟨some trees, some defaults, some metadata⟩ => return ⟨trees, defaults, metadata⟩
  | _ => throw notDocument

/-- The document that a text stands for. -/
def ofText (text : String) : Outcome CompressedDocument := do
  let some v := Json.readRaw? text | throw notDocument
  ofJson v

end CompressedDocument

end SceneMarkup
