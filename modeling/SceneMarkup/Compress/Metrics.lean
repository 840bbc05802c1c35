import SceneMarkup.Named
import SceneMarkup.Scene.Node

/-!
# What compression saves

The numbers that describe one compression: how many nodes and attributes there were and are, and how often an attribute of
each name was left out.
-/

namespace SceneMarkup

/-- How often each name occurs. -/
abbrev Tally := NameMap Nat

/-- One more occurrence of a name. -/
def Tally.add (t : Tally) (name : String) : Tally :=
  NameMap.put name ((NameMap.get? t name).getD 0 + 1) t

/-- How often each name occurs in a list. -/
def Tally.ofNames (names : List String) : Tally :=
  names.foldl Tally.add []

/-- The numbers of one compression. -/
structure CompressionMetrics where
  treesBefore : Nat
  treesAfter : Nat
  nodesBefore : Nat
  attributesBefore : Nat
  attributesAfter : Nat
  removed : Tally

/-- The names of the first fields that the second ones lack. -/
def Fields.missingIn (fs gs : Fields) : List String :=
  (fs.map (·.1)).filter fun name => (gs.lookup name).isNone

namespace SceneNode

mutual
/-- The names of the attributes that the first tree has and the second one does not, where both are walked side by side. -/
def removedNames : SceneNode → SceneNode → List String
  | mk fs none, mk gs _ => Fields.missingIn fs gs
  | mk fs (some _), mk gs none => Fields.missingIn fs gs
  | mk fs (some cs), mk gs (some ds) => Fields.missingIn fs gs ++ removedNamesAll cs ds

/-- `removedNames` of the trees of two lists, one by one. -/
def removedNamesAll : List SceneNode → List SceneNode → List String
  | [], _ => []
  | _ :: _, [] => []
  | c :: cs, d :: ds => removedNames c d ++ removedNamesAll cs ds
end

end SceneNode

namespace CompressionMetrics

/-- The numbers of the compression of some trees. -/
def of (before after : List SceneNode) : CompressionMetrics where
  treesBefore := before.length
  treesAfter := after.length
  nodesBefore := SceneNode.sizes before
  attributesBefore := SceneNode.attributeCounts before
  attributesAfter := SceneNode.attributeCounts after
  removed := Tally.ofNames (SceneNode.removedNamesAll before after)

/-- The part of the attributes that was left out. -/
def ratio (m : CompressionMetrics) : Float :=
  if m.attributesBefore = 0 then 0
  else Float.ofNat (m.attributesBefore - m.attributesAfter) / Float.ofNat m.attributesBefore

/-- The JSON form. -/
def toJson (m : CompressionMetrics) : Json :=
  .obj [("original_nodes", .int m.treesBefore), ("compressed_nodes", .int m.treesAfter),
    ("original_tree_nodes", .int m.nodesBefore), ("original_attributes", .int m.attributesBefore),
    ("compressed_attributes", .int m.attributesAfter),
    ("removed_attribute_counts", .obj (m.removed.map fun (name, count) => (name, .int count)))]

end CompressionMetrics

end SceneMarkup
