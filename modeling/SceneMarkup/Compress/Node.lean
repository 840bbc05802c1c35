import SceneMarkup.Compress.Paint
import SceneMarkup.Json.Equal
import SceneMarkup.Scene.Defaults
import SceneMarkup.Scene.Node

/-!
# Compression of scene nodes

Compression leaves out the attributes that say nothing: null, computed and interface-state attributes, grid attributes
outside a grid, empty collections and defaults. The tree of nodes keeps its shape, the attributes that identify and place a
node are kept, and the attributes that are left keep their order.
-/

namespace SceneMarkup

/-- Attributes that the design tool computes from others. -/
def computedAttributes : List String :=
  ["absoluteTransform", "absoluteBoundingBox", "absoluteRenderBounds", "parent", "fillGeometry", "strokeGeometry"]

/-- Attributes that describe the design tool's interface. -/
def interfaceAttributes : List String :=
  ["expanded", "inferredAutoLayout"]

/-- Attributes that only a grid needs. -/
def gridContainerAttributes : List String :=
  ["gridRowCount", "gridColumnCount", "gridRowGap", "gridColumnGap", "gridRowSizingCSS", "gridColumnSizingCSS"]

/-- Attributes that only a child of a grid needs. -/
def gridCellAttributes : List String :=
  ["gridRowSpan", "gridColumnSpan", "gridRowAnchorIndex", "gridColumnAnchorIndex"]

/-- Attributes that are kept unless they are null. -/
def criticalAttributes : List String :=
  ["id", "type", "name", "children", "x", "y", "width", "height"]

/-- Attributes that hold a list of paints. -/
def paintLists : List String :=
  ["fills", "strokes", "effects"]

/-- Whether the grid attributes of a node count. -/
structure GridScope where
  /-- The node is a grid. -/
  container : Bool
  /-- The node is a child of a grid. -/
  cell : Bool
deriving DecidableEq, Repr

namespace GridScope

/-- The scope outside any grid. -/
def outside : GridScope := ⟨false, false⟩

/-- The attribute counts in the scope. -/
def keeps (s : GridScope) (key : String) : Bool :=
  if gridContainerAttributes.contains key then s.container
  else if gridCellAttributes.contains key then s.cell
  else true

end GridScope

/-- The overlay that shows no background. -/
def isNoOverlay : Json → Bool
  | .obj [("type", .str kind)] => kind == "NONE"
  | _ => false

/-- A row of a transform: its first two cells. -/
def transformRow? : Json → Option (Float × Float)
  | .arr [a, b, _] => do return (← a.number?, ← b.number?)
  | _ => none

/-- A transform of two rows that neither turns nor scales nor skews; how far it moves does not matter. -/
def isIdentityTransform : Json → Bool
  | .arr [top, bottom] =>
    match transformRow? top, transformRow? bottom with
    | some (a, b), some (c, d) => a == 1 && b == 0 && c == 0 && d == 1
    | _, _ => false
  | _ => false

namespace DefaultTable

/-- The value is the default of the attribute. Without a type there are no defaults. -/
def isDefault (t : DefaultTable) (type key : String) (v : Json) : Bool :=
  type != "" && match t.resolve? type key with
    | some d => Json.sameValue d v
    | none => false

/-- What is left of an attribute: `v` is its value and `nested` that value with the objects in it compressed. -/
def keptValue (t : DefaultTable) (type : String) (scope : GridScope) (key : String) (v nested : Json) : Option Json :=
  if v.isNull || computedAttributes.contains key || interfaceAttributes.contains key || !scope.keeps key then none
  else if key = "overlayBackground" && isNoOverlay v then none
  else if key = "relativeTransform" then
    if isIdentityTransform v then none else some v
  else if criticalAttributes.contains key then
    match v with
    | .arr _ => some (if key = "children" then nested else v)
    | _ => some v
  else if v.isEmptyCollection || t.isDefault type key v then none
  else match v with
    | .obj _ => if nested.isEmptyCollection || t.isDefault type key nested then none else some nested
    | .arr items =>
      if paintLists.contains key then
        some (.arr (items.map fun
          | .obj paint => .obj (compressPaint paint)
          | item => item))
      else some nested
    | v => some v

mutual
/-- The attributes that are left of a node of a type. -/
def compressFields (t : DefaultTable) (type : String) (scope : GridScope) : List (String × Json) → Fields
  | [] => []
  | (key, v) :: rest =>
    match t.keptValue type scope key v (compressNested t type v) with
    | some kept => (key, kept) :: compressFields t type scope rest
    | none => compressFields t type scope rest

/-- The value in which an object, or each object in an array, is compressed. -/
def compressNested (t : DefaultTable) (type : String) : Json → Json
  | .obj fields => .obj (compressFields t type .outside fields)
  | .arr items => .arr (compressItems t type items)
  | v => v

/-- The items of an array, of which the objects are compressed. -/
def compressItems (t : DefaultTable) (type : String) : List Json → List Json
  | [] => []
  | .obj fields :: rest => .obj (compressFields t type .outside fields) :: compressItems t type rest
  | v :: rest => v :: compressItems t type rest
end

end DefaultTable

namespace SceneNode

/-- The node lays out its children in a grid of its own. -/
def isGrid (n : SceneNode) : Bool :=
  n.stringOr "layoutMode" "NONE" == "GRID"

mutual
/-- A compressed node, where `inGrid` says that its parent is a grid. -/
def compressIn (t : DefaultTable) (inGrid : Bool) : SceneNode → SceneNode
  | mk attributes none =>
    let n := mk attributes none
    mk (t.compressFields n.tag ⟨n.isGrid, inGrid⟩ attributes) none
  | mk attributes (some children) =>
    let n := mk attributes none
    mk (t.compressFields n.tag ⟨n.isGrid, inGrid⟩ attributes) (some (compressAllIn t n.isGrid children))

/-- The compressed nodes of a list. -/
def compressAllIn (t : DefaultTable) (inGrid : Bool) : List SceneNode → List SceneNode
  | [] => []
  | n :: rest => compressIn t inGrid n :: compressAllIn t inGrid rest
end

/-- A compressed tree. -/
def compress (t : DefaultTable) (n : SceneNode) : SceneNode :=
  n.compressIn t false

/-- The compressed trees of a list. -/
def compressAll (t : DefaultTable) (trees : List SceneNode) : List SceneNode :=
  trees.map (compress t)

end SceneNode

end SceneMarkup
