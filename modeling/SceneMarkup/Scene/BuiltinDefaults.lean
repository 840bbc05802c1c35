import SceneMarkup.Scene.Defaults

/-!
# The defaults of the design tool

The values that the design tool gives to the attributes of a new node, for every type of node that has a meaning for the
layout. An attribute that is not listed has no default.
-/

namespace SceneMarkup

/-- The defaults of the attributes that paint a shape, whose stroke lies at `align`. -/
def strokeDefaults (align : String) : Fields :=
  [("fills", .arr []), ("fillStyleId", .str ""), ("strokes", .arr []), ("strokeStyleId", .str ""),
   ("strokeWeight", .int 1), ("strokeAlign", .str align), ("strokeJoin", .str "MITER"), ("strokeCap", .str "NONE"),
   ("strokeMiterLimit", .int 4), ("dashPattern", .arr [])]

/-- The defaults of the attributes that give a box its form. -/
def boxDefaults : Fields :=
  [("cornerRadius", .int 0), ("cornerSmoothing", .int 0), ("topLeftRadius", .int 0), ("topRightRadius", .int 0),
   ("bottomLeftRadius", .int 0), ("bottomRightRadius", .int 0), ("strokeTopWeight", .int 1),
   ("strokeBottomWeight", .int 1), ("strokeLeftWeight", .int 1), ("strokeRightWeight", .int 1),
   ("fillGeometry", .arr []), ("strokeGeometry", .arr []), ("layoutSizingHorizontal", .str "FIXED"),
   ("layoutSizingVertical", .str "FIXED")]

/-- The default of the attribute that ties a node to the sides of its parent. -/
def constraintsDefault : Fields :=
  [("constraints", .obj [("horizontal", .str "MIN"), ("vertical", .str "MIN")])]

/-- The defaults of every node. -/
def globalDefaults : Fields :=
  [("visible", .bool true), ("locked", .bool false), ("opacity", .int 1), ("blendMode", .str "PASS_THROUGH"),
   ("isMask", .bool false), ("maskType", .str "ALPHA"), ("effects", .arr []), ("effectStyleId", .str ""),
   ("reactions", .arr []), ("isAsset", .bool false), ("stuckNodes", .arr []), ("attachedConnectors", .arr []),
   ("variableConsumptionMap", .obj []), ("boundVariables", .obj []), ("resolvedVariableModes", .obj []),
   ("inferredVariables", .obj []), ("availableInferredVariables", .obj []), ("explicitVariableModes", .obj []),
   ("constrainProportions", .bool false), ("layoutGrow", .int 0), ("layoutAlign", .str "INHERIT"),
   ("layoutPositioning", .str "AUTO"), ("rotation", .int 0), ("exportSettings", .arr []), ("annotations", .arr []),
   ("playbackSettings", .obj [("autoplay", .bool true), ("loop", .bool true), ("muted", .bool false)])]

/-- The defaults of a rectangle alone. -/
def rectangleDefaults : Fields :=
  [("gridRowSpan", .int 1), ("gridColumnSpan", .int 1), ("gridRowAnchorIndex", .int (-1)),
   ("gridColumnAnchorIndex", .int (-1)), ("gridChildHorizontalAlign", .str "AUTO"),
   ("gridChildVerticalAlign", .str "AUTO")]

/-- The defaults of a frame alone. -/
def frameDefaults : Fields :=
  [("clipsContent", .bool true), ("layoutMode", .str "NONE"), ("paddingLeft", .int 0), ("paddingRight", .int 0),
   ("paddingTop", .int 0), ("paddingBottom", .int 0), ("itemSpacing", .int 0), ("counterAxisSpacing", .int 0),
   ("primaryAxisAlignItems", .str "MIN"), ("counterAxisAlignItems", .str "MIN"),
   ("primaryAxisSizingMode", .str "FIXED"), ("counterAxisSizingMode", .str "FIXED"), ("layoutWrap", .str "NO_WRAP"),
   ("counterAxisAlignContent", .str "AUTO"), ("layoutGrids", .arr []), ("gridStyleId", .str ""),
   ("backgrounds", .arr []), ("backgroundStyleId", .str ""), ("guides", .arr []),
   ("constraints", .obj [("horizontal", .str "MIN"), ("vertical", .str "MIN")]), ("overflowDirection", .str "NONE"),
   ("numberOfFixedChildren", .int 0), ("overlayPositionType", .str "CENTER"),
   ("overlayBackgroundInteraction", .str "NONE"), ("itemReverseZIndex", .bool false),
   ("strokesIncludedInLayout", .bool false)]

/-- The defaults of a text alone. -/
def textDefaults : Fields :=
  [("textAlignHorizontal", .str "LEFT"), ("textAlignVertical", .str "TOP"),
   ("textAutoResize", .str "WIDTH_AND_HEIGHT"), ("paragraphIndent", .int 0), ("paragraphSpacing", .int 0),
   ("autoRename", .bool true), ("textStyleId", .str ""), ("fontSize", .int 12),
   ("fontName", .obj [("family", .str "Roboto"), ("style", .str "Regular")]), ("textCase", .str "ORIGINAL"),
   ("textDecoration", .str "NONE"), ("letterSpacing", .obj [("unit", .str "PERCENT"), ("value", .int 0)]),
   ("lineHeight", .obj [("unit", .str "AUTO")])]

/-- The table of the design tool's defaults. -/
def DefaultTable.builtin : DefaultTable :=
  ⟨[("GLOBAL", .obj globalDefaults),
    ("RECTANGLE", .obj (strokeDefaults "INSIDE" ++ boxDefaults ++ constraintsDefault ++ rectangleDefaults)),
    ("FRAME", .obj (strokeDefaults "INSIDE" ++ boxDefaults ++ frameDefaults)),
    ("TEXT", .obj (strokeDefaults "OUTSIDE" ++ textDefaults ++ constraintsDefault))]⟩

end SceneMarkup
