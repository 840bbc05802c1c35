import SceneMarkup.Rule.Engine
import SceneMarkup.Ui.Grid

/-!
# Frames

A frame becomes a container, which the rules choose. The container is put into a box if the frame has a border, round
corners, a background or padding; what describes the frame as a whole is then set on the box.
-/

namespace SceneMarkup

open Rule (ContainerDecision Engine Value)

/-- A child takes all the width there is. -/
def SceneNode.fillsWidth (n : SceneNode) : Bool :=
  n.stringOr "layoutSizingHorizontal" "FIXED" == "FILL"

/-- What a frame says about its layout. -/
structure FrameLayout where
  name : String
  mode : String
  wrap : String
  sizingHorizontal : String
  sizingVertical : String
  align : String
  spacing : Float
  counterAlign : String
  primaryAlign : String
  /-- The children that are visible. -/
  shown : List SceneNode

namespace FrameLayout

/-- What a node says about its layout. -/
def of (n : SceneNode) : FrameLayout where
  name := n.name?.getD "Frame"
  mode := n.stringOr "layoutMode" "NONE"
  wrap := n.stringOr "layoutWrap" "NO_WRAP"
  sizingHorizontal := n.stringOr "layoutSizingHorizontal" "FIXED"
  sizingVertical := n.stringOr "layoutSizingVertical" "FIXED"
  align := n.stringOr "layoutAlign" "INHERIT"
  spacing := n.numberOr "itemSpacing" 0
  counterAlign := n.stringOr "counterAxisAlignItems" "MIN"
  primaryAlign := n.stringOr "primaryAxisAlignItems" "MIN"
  shown := n.children.filter SceneNode.isVisible

/-- A child fills the frame. The last of several children of a horizontal top-level frame always does. -/
def hasFillChild (l : FrameLayout) (isRoot : Bool) : Bool :=
  l.shown.any SceneNode.fillsWidth || (isRoot && l.mode == "HORIZONTAL" && 1 < l.shown.length)

/-- What the container rules may ask about a frame. -/
def context (l : FrameLayout) (isRoot : Bool) : Rule.Context :=
  .ofList [("layout_mode", .str l.mode), ("layout_wrap", .str l.wrap), ("has_fill_child", .bool (l.hasFillChild isRoot)),
    ("visible_children_count", .number (Float.ofNat l.shown.length)), ("primary_axis_align", .str l.primaryAlign),
    ("counter_axis_align", .str l.counterAlign), ("sizing_horizontal", .str l.sizingHorizontal),
    ("sizing_vertical", .str l.sizingVertical), ("is_root", .bool isRoot)]

end FrameLayout

/-- A node of this sizing mode and alignment takes all the space there is. -/
def takesAllSpace (g : Engine) (sizing align : String) : Bool :=
  g.stretches sizing || align == "STRETCH"

/-! ## The container -/

/-- A stack, aligned across its direction unless it takes all the space there is. -/
def stackContainer (g : Engine) (orientation : Rule.Orientation) (l : FrameLayout) : UiNode :=
  match orientation with
  | .vertical =>
    let n := (UiNode.ofKind .stackVertical).set "Orientation" "Vertical"
    if takesAllSpace g l.sizingHorizontal l.align then n
    else n.set "HorizontalAlignment" (g.alignment .counter l.counterAlign .horizontal)
  | .horizontal =>
    let n := (UiNode.ofKind .stackHorizontal).set "Orientation" "Horizontal"
    if takesAllSpace g l.sizingVertical l.align then n
    else n.set "VerticalAlignment" (g.alignment .counter l.counterAlign .vertical)

/-- A wrapping container. -/
def wrapContainer (g : Engine) (orientation : Rule.Orientation) (l : FrameLayout) : UiNode :=
  (((UiNode.ofKind .wrapContainer).set "Orientation" orientation.name).set "HorizontalAlignment"
    (g.alignment .primary l.primaryAlign .horizontal)).set "VerticalAlignment"
    (g.alignment .counter l.counterAlign .vertical)

/-- A grid, which has tracks if it spreads its children. -/
def gridContainer (d : ContainerDecision) : UiNode :=
  let n := UiNode.ofKind .gridContainer
  if d.spaceBetween then
    match d.orientationOrDefault with
    | .horizontal => { n with columns := spreadTracks }
    | .vertical => { n with rows := spreadTracks }
  else n

/-- The container of a decision. -/
def containerOf (g : Engine) (d : ContainerDecision) (l : FrameLayout) : UiNode :=
  match d.containerType with
  | .stackPanel | .unknown => stackContainer g d.orientationOrDefault l
  | .wrapPanel => wrapContainer g d.orientationOrDefault l
  | .grid => gridContainer d

/-- The tracks in an attribute of a grid. -/
def nativeTracks (n : SceneNode) (key : String) : List String :=
  match n.get? key with
  | some (.arr tracks) => tracks.map gridTrack
  | _ => []

/-- The columns of a grid that stands in for a stack: one for each child, of which those that fill, and the last one of a
top-level frame, share the space that is left. -/
def childColumns (isRoot : Bool) : List SceneNode → List String
  | [] => []
  | c :: rest => (if c.fillsWidth || (isRoot && rest.isEmpty) then "*" else "Auto") :: childColumns isRoot rest

/-- The container with its tracks. -/
def withTracks (d : ContainerDecision) (n : SceneNode) (l : FrameLayout) (isRoot : Bool) (container : UiNode) : UiNode :=
  if d.useGridLayout then
    { container with rows := nativeTracks n "gridRowSizes", columns := nativeTracks n "gridColumnSizes" }
  else if d.useGrid && !d.spaceBetween then { container with columns := childColumns isRoot l.shown }
  else container

/-! ## The children -/

/-- What a frame does with its children. -/
structure ChildPlan where
  decision : ContainerDecision
  grid : NativeGrid
  layout : ParentLayout
  spacing : Float
  /-- The number of visible children. -/
  count : Nat
  isRoot : Bool

/-- What a frame with a given container does with its children. -/
def ChildPlan.of (d : ContainerDecision) (n : SceneNode) (l : FrameLayout) (isRoot : Bool) (container : UiNode) :
    ChildPlan where
  decision := d
  grid := ⟨container.rows.length, container.columns.length, n.numberOr "gridRowGap" 0, n.numberOr "gridColumnGap" 0⟩
  layout := ParentLayout.ofLayout l.mode l.wrap
  spacing := l.spacing
  count := l.shown.length
  isRoot := isRoot

/-- What the child at a place is told. -/
def ChildPlan.contextAt (p : ChildPlan) (index : Nat) (child : SceneNode) : BuildContext where
  parentSpacing := p.spacing
  parentLayout := p.layout
  isFirstChild := index = 0
  inFillColumn := p.decision.useGrid && (child.fillsWidth || (p.isRoot && index + 1 = p.count))

/-- The control of the child at a place, put into its cell if the container is a grid. -/
def ChildPlan.place (p : ChildPlan) (index : Nat) (child : SceneNode) (n : UiNode) : UiNode :=
  if p.decision.useGridLayout then p.grid.place child index n
  else if p.decision.useGrid then placeInStack p.decision index p.count n
  else n

/-! ## The frame as a whole -/

/-- The size of a frame, which a top-level frame has not. -/
def withFrameSize (g : Engine) (n : SceneNode) (l : FrameLayout) (isRoot : Bool) (c : BuildContext) (target : UiNode) :
    UiNode :=
  let stretches := takesAllSpace g l.sizingHorizontal l.align
  let target := if !isRoot && !stretches && !c.inFillColumn && g.setsDimension l.sizingHorizontal then
    target.setSome "Width" (dimension? n "width") else target
  let target := if !isRoot && !g.stretches l.sizingVertical && g.setsDimension l.sizingVertical then
    target.setSome "Height" (dimension? n "height") else target
  if stretches then target.set "HorizontalAlignment" "Stretch" else target

/-- The frame has a border, round corners, a background or padding. -/
def isDecorated (n : SceneNode) : Bool :=
  (cornerRadius? n).isSome || (borderColor? n).isSome || (backgroundColor? n).isSome || (padding? n).isSome

/-- The box around the container of a decorated frame. -/
def frameBox (g : Engine) (n : SceneNode) (l : FrameLayout) (isRoot : Bool) (c : BuildContext) (container : UiNode) :
    UiNode :=
  let box := ((UiNode.ofKind .box).withComment l.name).setSome "CornerRadius" (cornerRadius? n)
  let box := match borderColor? n with
    | some color => (box.set "BorderBrush" color).set "BorderThickness" "1"
    | none => box
  let box := withFrameSize g n l isRoot c box
  ((box.setSome "Background" (backgroundColor? n)).setSome "Padding" (padding? n)).addChild container

/-- The frame around its container, which is all there is of a frame without decoration. -/
def finishFrame (g : Engine) (n : SceneNode) (l : FrameLayout) (isRoot : Bool) (c : BuildContext) (container : UiNode) :
    UiNode :=
  let result := if isDecorated n then frameBox g n l isRoot c container
    else withFrameSize g n l isRoot c (container.withComment (l.name ++ " container"))
  if isRoot then result else result.setSome "Margin" (spacingMargin? c)

end SceneMarkup
