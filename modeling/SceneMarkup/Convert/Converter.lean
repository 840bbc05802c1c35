import SceneMarkup.Compress.Document
import SceneMarkup.Markup.Render
import SceneMarkup.Rule.Builtin
import SceneMarkup.Rule.Load
import SceneMarkup.Scene.BuiltinDefaults
import SceneMarkup.Text.CharacterSets
import SceneMarkup.Ui.Build

/-!
# Converters

A converter turns a document of scene trees into controls. The document is a JSON text: a list of trees, or a compressed
document, which also carries the default table that its trees were compressed with. The converter compresses every tree,
builds its interface tree and writes the markup; each tree becomes one control, a class with its markup and the interface tree
behind it. A compressed document is compressed once more, with the table that it carries.
-/

namespace SceneMarkup

/-! ## Input documents -/

/-- Decoded input: the trees, and the default table that came with them. -/
structure InputDocument where
  trees : List SceneNode
  defaults? : Option DefaultTable

namespace InputDocument

/-- The default table in the fields of a document. -/
def carriedTable (fields : Fields) : Except SceneError (Option DefaultTable) :=
  match fields.lookup "defaults" with
  | some v => ((DefaultTable.ofJson v).map some).mapError (·.of "defaults")
  | none => .ok none

/-- What a value that is neither a list nor an object is called. -/
def kindName : Json → String
  | .null => "null"
  | .bool _ => "a boolean"
  | .num _ => "a number"
  | .str _ => "a string"
  | .arr _ => "an array"
  | .obj _ => "an object"

/-- The document that a JSON value stands for. -/
def ofJson : Json → Outcome InputDocument
  | .arr items => do return ⟨← SceneNode.ofJsons items, none⟩
  | .obj fields =>
    match fields.lookup "compressed_data" with
    | some (.arr items) => do
      let defaults? ← carriedTable fields
      return ⟨← SceneNode.ofJsons items, defaults?⟩
    | _ => throw (.validation "input object has no 'compressed_data' array")
  | v => throw (.validation ("expected an array of nodes or a compressed document, got " ++ kindName v))

/-- The document that a text stands for. -/
def ofText (text : String) : Outcome InputDocument :=
  match Json.read? text with
  | some v => ofJson v
  | none => throw (.serialization "the text is not JSON")

end InputDocument

/-! ## Controls -/

/-- A control made of one tree. -/
structure Control where
  className : String
  markup : String
  tree : UiNode

/-- The class of the tree at a place in the input: the tree's name without blanks, or a numbered name if nothing is left. -/
def className (n : SceneNode) (index : Nat) : String :=
  match (n.name?.getD "").toList.filter fun c => !isBlank c with
  | [] => "Control" ++ toString (index + 1)
  | cs => String.ofList cs

namespace SceneNode

/-- The control of the compressed tree at a place in the input. -/
def toControl (g : Rule.Engine) (o : MarkupOptions) (index : Nat) (n : SceneNode) : Logged Control := do
  let tree ← n.build g true
  let className := className n index
  return ⟨className, tree.document o className (n.number? "width") (n.number? "height"), tree⟩

/-- The controls of the trees in a list, of which the first is at place `index` of the input. -/
def toControls (g : Rule.Engine) (o : MarkupOptions) (index : Nat) : List SceneNode → Logged (List Control)
  | [] => pure []
  | n :: rest => do
    let control ← n.toControl g o index
    return control :: (← toControls g o (index + 1) rest)

end SceneNode

/-! ## Converters -/

/-- What a conversion goes by. -/
structure Converter where
  defaults : DefaultTable
  engine : Rule.Engine
  options : MarkupOptions

namespace Converter

/-- The converter with the tables of this library. -/
def builtin : Converter :=
  ⟨.builtin, .builtin, .default⟩

/-- The converter with the rules in a directory. -/
def ofDirectory (d : Directory) : Outcome Converter := do
  return ⟨.builtin, ← Rule.Engine.ofDirectory d, .default⟩

/-- The compressed document of the trees in a text. A table that the text carries is not used. -/
def compressDocument (c : Converter) (text : String) : Outcome CompressedDocument := do
  let input ← InputDocument.ofText text
  (CompressedDocument.build c.defaults input.trees : Logged CompressedDocument)

/-- The controls of some trees, compressed with a given table. -/
def convertTrees (c : Converter) (defaults : DefaultTable) (trees : List SceneNode) : Logged (List Control) := do
  let controls ← SceneNode.toControls c.engine c.options 0 (SceneNode.compressAll defaults trees)
  Logged.info ("converted " ++ toString controls.length ++ " control(s): " ++
    ", ".intercalate (controls.map (·.className)))
  return controls

/-- The controls of the trees in a text. -/
def convert (c : Converter) (text : String) : Outcome (List Control) := do
  let input ← InputDocument.ofText text
  (c.convertTrees (input.defaults?.getD c.defaults) input.trees : Logged (List Control))

end Converter

end SceneMarkup
