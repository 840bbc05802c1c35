import SceneMarkup.Compress.Node
import SceneMarkup.Proofs.Compress.Paint
import SceneMarkup.Proofs.Scene.Node
import SceneMarkup.Ui.Build

/-!
# What building reads of a scene tree

Of the attributes of a node only its reading counts for its interface tree, and of a scene tree only its view, in which
every node is replaced with its reading. In an exact view the spacing shows its sign even where it is zero, and the grid
attributes show in every node; otherwise they show where the node, or its parent, is a grid.
-/

namespace SceneMarkup

open Rule (Value)

/-- A number in which the two zeros are one. -/
def unsignedZero (x : Float) : Float :=
  if IsZero x then 0 else x

/-- Numbers that are the same but for the sign of zero. -/
theorem unsignedZero_eq_iff {x y : Float} : unsignedZero x = unsignedZero y ↔ SameNumber x y := by
  unfold unsignedZero SameNumber
  have hzero : IsZero 0 := .inl rfl
  by_cases hx : IsZero x
  · by_cases hy : IsZero y
    · simp [hx, hy]
    · rw [if_pos hx, if_neg hy]
      refine ⟨fun h => absurd (h ▸ hzero) hy, fun h => ?_⟩
      rcases h with rfl | ⟨-, h⟩
      · exact absurd hx hy
      · exact absurd h hy
  · by_cases hy : IsZero y
    · rw [if_neg hx, if_pos hy]
      refine ⟨fun h => absurd (h ▸ hzero) hx, fun h => ?_⟩
      rcases h with rfl | ⟨h, -⟩
      · exact absurd hy hx
      · exact absurd h hx
    · simp [hx, hy]

/-- What building reads of the attributes of a node. -/
structure NodeReading where
  tag : String
  name : Option String
  visible : Bool
  /-- The texts with a fallback, in the order of `textReadings`. -/
  texts : List String
  /-- The numbers with a fallback, in the order of `numberReadings`. -/
  numbers : List Float
  characters : Option String
  width : Option Float
  height : Option Float
  spacing : Float
  padding : Option String
  corner : Option String
  /-- The colour and the opacity of the first paint of the background. -/
  fill : Option (Option String × Float)
  /-- The colour and the opacity of the first paint of the border. -/
  stroke : Option (Option String × Float)
  fontFamily : Option String
  lineHeightUnit : String
  lineHeight : Value
  rows : List String
  columns : List String
  /-- The gaps between rows and between columns. -/
  gaps : Float × Float
  /-- The anchors of a cell, which have to be zero at least. -/
  anchors : List (Option Float)
  /-- The spans of a cell. -/
  spans : List Float

/-- The attributes that are read as texts, with their fallbacks. -/
def textReadings : List (String × String) :=
  [("layoutMode", "NONE"), ("layoutWrap", "NO_WRAP"), ("layoutSizingHorizontal", "FIXED"), ("layoutSizingVertical", "FIXED"),
   ("layoutAlign", "INHERIT"), ("counterAxisAlignItems", "MIN"), ("primaryAxisAlignItems", "MIN"),
   ("textAlignHorizontal", "LEFT"), ("textAutoResize", "WIDTH_AND_HEIGHT")]

/-- The attributes that are read as numbers, with their fallbacks. -/
def numberReadings : List (String × Float) :=
  [("opacity", 1), ("fontSize", 12), ("fontWeight", 400)]

/-- What a scene tree says to the builder. -/
inductive SceneView where
  | mk (reading : NodeReading) (children : List SceneView)

namespace SceneNode

/-- The colour and the opacity of the first paint in a list. -/
def paintReading (n : SceneNode) (key : String) : Option (Option String × Float) :=
  (n.paints key).head?.map fun paint => (paintHex? paint, paintOpacity paint)

/-- A part of the height of a text's lines. -/
def lineHeightField? (n : SceneNode) (name : String) : Option Json :=
  (n.get? "lineHeight").bind (·.field? name)

/-- The reading of a node, where `inGrid` says that its parent is a grid. -/
def reading (exact inGrid : Bool) (n : SceneNode) : NodeReading where
  tag := n.tag
  name := n.name?
  visible := n.isVisible
  texts := textReadings.map fun p => n.stringOr p.1 p.2
  numbers := numberReadings.map fun p => n.numberOr p.1 p.2
  characters := n.string? "characters"
  width := n.number? "width"
  height := n.number? "height"
  spacing := if exact then n.numberOr "itemSpacing" 0 else unsignedZero (n.numberOr "itemSpacing" 0)
  padding := padding? n
  corner := cornerRadius? n
  fill := n.paintReading "fills"
  stroke := n.paintReading "strokes"
  fontFamily := fontFamily? n
  lineHeightUnit := ((n.lineHeightField? "unit").bind Json.string?).getD "AUTO"
  lineHeight := ((n.lineHeightField? "value").map Value.ofJson).getD .none
  rows := nativeTracks n "gridRowSizes"
  columns := nativeTracks n "gridColumnSizes"
  gaps := if exact || n.isGrid then (n.numberOr "gridRowGap" 0, n.numberOr "gridColumnGap" 0) else (0, 0)
  anchors := if exact || inGrid then
      ["gridRowAnchorIndex", "gridColumnAnchorIndex"].map fun key => (n.number? key).filter (0 ≤ ·)
    else []
  spans := if exact || inGrid then ["gridRowSpan", "gridColumnSpan"].map fun key => n.numberOr key 1 else []

mutual
/-- The view of a tree: the readings of its nodes. -/
def view (exact inGrid : Bool) : SceneNode → SceneView
  | mk attributes none => .mk ((mk attributes none).reading exact inGrid) []
  | mk attributes (some children) =>
    .mk ((mk attributes none).reading exact inGrid) (viewAll exact (mk attributes none).isGrid children)

/-- The views of the trees of a list. -/
def viewAll (exact inGrid : Bool) : List SceneNode → List SceneView
  | [] => []
  | n :: rest => view exact inGrid n :: viewAll exact inGrid rest
end

/-- The views of a list are those of its trees. -/
theorem viewAll_eq_map (exact inGrid : Bool) (trees : List SceneNode) :
    viewAll exact inGrid trees = trees.map (view exact inGrid) := by
  induction trees with
  | nil => simp [viewAll]
  | cons n rest ih => simp [viewAll, ih]

/-- The view of a tree by its parts. -/
theorem view_eq (exact inGrid : Bool) (n : SceneNode) :
    n.view exact inGrid = .mk (n.reading exact inGrid) (n.children.map (view exact n.isGrid)) := by
  obtain ⟨attributes, children⟩ := n
  cases children with
  | none =>
    rw [view]
    rfl
  | some cs =>
    rw [view, viewAll_eq_map]
    rfl

/-- Views are equal if the readings and the views of the children are. -/
theorem view_eq_view_iff {exact inGrid : Bool} {a b : SceneNode} :
    a.view exact inGrid = b.view exact inGrid ↔
      a.reading exact inGrid = b.reading exact inGrid ∧
        a.children.map (view exact a.isGrid) = b.children.map (view exact b.isGrid) := by
  rw [view_eq, view_eq, SceneView.mk.injEq]

/-! ## What the reading determines -/

section

variable {exact inGrid : Bool} {a b : SceneNode} (h : a.reading exact inGrid = b.reading exact inGrid)

include h

theorem tag_of_reading : a.tag = b.tag :=
  congrArg NodeReading.tag h

theorem kind_of_reading : a.kind = b.kind :=
  congrArg NodeKind.ofTag (tag_of_reading h)

theorem name?_of_reading : a.name? = b.name? :=
  congrArg NodeReading.name h

theorem isVisible_of_reading : a.isVisible = b.isVisible :=
  congrArg NodeReading.visible h

/-- The texts that are read with a fallback. -/
theorem stringOr_of_reading (key default : String) (hm : (key, default) ∈ textReadings) :
    a.stringOr key default = b.stringOr key default := by
  have ht : (textReadings.map fun p => a.stringOr p.1 p.2) = textReadings.map fun p => b.stringOr p.1 p.2 :=
    congrArg NodeReading.texts h
  exact List.map_inj_left.1 ht _ hm

/-- The numbers that are read with a fallback. -/
theorem numberOr_of_reading (key : String) (default : Float) (hm : (key, default) ∈ numberReadings) :
    a.numberOr key default = b.numberOr key default := by
  have hn : (numberReadings.map fun p => a.numberOr p.1 p.2) = numberReadings.map fun p => b.numberOr p.1 p.2 :=
    congrArg NodeReading.numbers h
  exact List.map_inj_left.1 hn _ hm

theorem isGrid_of_reading : a.isGrid = b.isGrid := by
  unfold isGrid
  rw [stringOr_of_reading h "layoutMode" "NONE" (by decide)]

theorem fillsWidth_of_reading : a.fillsWidth = b.fillsWidth := by
  unfold fillsWidth
  rw [stringOr_of_reading h "layoutSizingHorizontal" "FIXED" (by decide)]

theorem number?_width_of_reading : a.number? "width" = b.number? "width" :=
  congrArg NodeReading.width h

theorem number?_height_of_reading : a.number? "height" = b.number? "height" :=
  congrArg NodeReading.height h

theorem padding?_of_reading : padding? a = padding? b :=
  congrArg NodeReading.padding h

theorem cornerRadius?_of_reading : cornerRadius? a = cornerRadius? b :=
  congrArg NodeReading.corner h

theorem fontFamily?_of_reading : fontFamily? a = fontFamily? b :=
  congrArg NodeReading.fontFamily h

theorem dimension?_width_of_reading : dimension? a "width" = dimension? b "width" := by
  unfold dimension?
  rw [number?_width_of_reading h]

theorem dimension?_height_of_reading : dimension? a "height" = dimension? b "height" := by
  unfold dimension?
  rw [number?_height_of_reading h]

theorem fontSize?_of_reading : fontSize? a = fontSize? b := by
  unfold fontSize?
  rw [numberOr_of_reading h "fontSize" 12 (by simp [numberReadings])]

omit h in
/-- The first paint of a list with its opacity and that of the node. -/
theorem firstPaint?_eq (n : SceneNode) (key fallback : String) :
    firstPaint? n key fallback =
      (n.paintReading key).map fun p => (p.1.getD fallback, n.numberOr "opacity" 1 * p.2) := by
  unfold firstPaint? paintReading
  cases n.paints key <;> rfl

theorem firstPaint?_fills_of_reading (fallback : String) :
    firstPaint? a "fills" fallback = firstPaint? b "fills" fallback := by
  have hp : a.paintReading "fills" = b.paintReading "fills" := congrArg NodeReading.fill h
  rw [firstPaint?_eq, firstPaint?_eq, hp, numberOr_of_reading h "opacity" 1 (by simp [numberReadings])]

theorem firstPaint?_strokes_of_reading (fallback : String) :
    firstPaint? a "strokes" fallback = firstPaint? b "strokes" fallback := by
  have hp : a.paintReading "strokes" = b.paintReading "strokes" := congrArg NodeReading.stroke h
  rw [firstPaint?_eq, firstPaint?_eq, hp, numberOr_of_reading h "opacity" 1 (by simp [numberReadings])]

theorem backgroundColor?_of_reading : backgroundColor? a = backgroundColor? b := by
  unfold backgroundColor?
  rw [firstPaint?_fills_of_reading h]

theorem textColor?_of_reading : textColor? a = textColor? b := by
  unfold textColor?
  rw [firstPaint?_fills_of_reading h]

theorem borderColor?_of_reading : borderColor? a = borderColor? b := by
  unfold borderColor?
  rw [firstPaint?_strokes_of_reading h]

end

end SceneNode

end SceneMarkup
