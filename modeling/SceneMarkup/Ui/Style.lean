import SceneMarkup.Compress.Paint
import SceneMarkup.Scene.Node
import SceneMarkup.Text.Upper

/-!
# Style attributes

The texts of the attributes that colours, paddings, corner radii, margins and tracks have in markup. An attribute that would
say nothing has none.

While a tree is built a child knows little of its parent: the spacing and direction of its layout, whether the child comes
first, and whether it is in a column that takes the space that is left (`BuildContext`).
-/

namespace SceneMarkup

/-! ## What a parent tells a child -/

/-- The direction in which a parent lays out its children. -/
inductive ParentLayout where
  | none | vertical | horizontal | wrap
deriving DecidableEq, Repr

/-- The direction of an auto layout; a grid and a frame without auto layout have none. -/
def ParentLayout.ofLayout (mode wrap : String) : ParentLayout :=
  if mode = "VERTICAL" then .vertical
  else if mode = "HORIZONTAL" then (if wrap = "WRAP" then .wrap else .horizontal)
  else .none

/-- The name of a direction. -/
def ParentLayout.name : ParentLayout → String
  | .none => "NONE"
  | .vertical => "VERTICAL"
  | .horizontal => "HORIZONTAL"
  | .wrap => "WRAP"

/-- What a parent tells a child. -/
structure BuildContext where
  parentSpacing : Float
  parentLayout : ParentLayout
  isFirstChild : Bool
  inFillColumn : Bool

/-- What a node without parent is told. -/
def BuildContext.root : BuildContext :=
  ⟨0, .none, true, false⟩

/-! ## Texts -/

/-- The digits of a colour, without the hash marks before them. -/
def colorDigits (hex : String) : List Char :=
  hex.toList.dropWhile (· == '#')

/-- A colour in markup. The digits of the opacity come first unless it is full. -/
def uiColor (hex : String) (opacity : Float) : String :=
  let digits := upperCase (colorDigits hex)
  if 1 ≤ opacity then String.ofList ('#' :: digits)
  else String.ofList ('#' :: byteDigits (nearestByte (opacity * 255)) ++ digits)

/-- Four numbers for the sides of a box. -/
def joinSides (left top right bottom : Float) : String :=
  formatNumber left ++ "," ++ formatNumber top ++ "," ++ formatNumber right ++ "," ++ formatNumber bottom

/-- The colour of a paint, which is written in hexadecimal or as an object. -/
def paintHex? (paint : Fields) : Option String :=
  match paint.lookup "color" with
  | some (.str hex) => some hex
  | some (.obj color) => colorHex? color
  | _ => none

/-- The colour and opacity of the first paint in a list. A paint without a colour has a fallback. -/
def firstPaint? (n : SceneNode) (key fallback : String) : Option (String × Float) :=
  match n.paints key with
  | [] => none
  | paint :: _ =>
    some ((paintHex? paint).getD fallback,
      n.numberOr "opacity" 1 * ((paint.lookup "opacity").bind Json.number?).getD 1)

/-- The colour of a node's background. -/
def backgroundColor? (n : SceneNode) : Option String :=
  (firstPaint? n "fills" "#FFFFFF").map fun (hex, opacity) => uiColor hex opacity

/-- The colour of a node's border. -/
def borderColor? (n : SceneNode) : Option String :=
  (firstPaint? n "strokes" "#000000").map fun (hex, opacity) => uiColor hex opacity

/-- The colour of a text, unless it is a full black. -/
def textColor? (n : SceneNode) : Option String :=
  (firstPaint? n "fills" "#000000").bind fun (hex, opacity) =>
    if colorDigits hex == "000000".toList && 1 ≤ opacity then none else some (uiColor hex opacity)

/-- The padding of a node, unless there is none: one number if all sides have the same. -/
def padding? (n : SceneNode) : Option String :=
  let left := n.numberOr "paddingLeft" 0
  let top := n.numberOr "paddingTop" 0
  let right := n.numberOr "paddingRight" 0
  let bottom := n.numberOr "paddingBottom" 0
  if left == 0 && top == 0 && right == 0 && bottom == 0 then none
  else if left == top && top == right && right == bottom then some (formatNumber left)
  else some (joinSides left top right bottom)

/-- The corner radius of a node, unless all its corners are square: one number, or one for each corner where they differ. -/
def cornerRadius? (n : SceneNode) : Option String :=
  match n.get? "cornerRadius" with
  | some (.str mode) =>
    let topLeft := n.numberOr "topLeftRadius" 0
    let topRight := n.numberOr "topRightRadius" 0
    let bottomRight := n.numberOr "bottomRightRadius" 0
    let bottomLeft := n.numberOr "bottomLeftRadius" 0
    if mode = "Mixed" && (topLeft != 0 || topRight != 0 || bottomRight != 0 || bottomLeft != 0) then
      some (joinSides topLeft topRight bottomRight bottomLeft)
    else none
  | some (.num radius) => if radius.toFloat != 0 then some (formatNumber radius.toFloat) else none
  | _ => none

/-- The margin that keeps a child apart from the one before it, or half of it on all sides where children wrap. -/
def spacingMargin? (c : BuildContext) : Option String :=
  if c.parentSpacing ≤ 0 || c.isFirstChild then none
  else match c.parentLayout with
    | .wrap => some (formatNumber (c.parentSpacing / 2))
    | .vertical => some ("0," ++ formatNumber c.parentSpacing ++ ",0,0")
    | .horizontal => some (formatNumber c.parentSpacing ++ ",0,0,0")
    | .none => none

/-- The size of a track of a grid: a part of the space that is left, a fixed size, or as much as its contents need. -/
def gridTrack (track : Json) : String :=
  match (track.field? "type").bind Json.string?, (track.field? "value").bind Json.number? with
  | some "FLEX", some weight => if weight != 1 then formatNumber weight ++ "*" else "*"
  | some "FLEX", none => "*"
  | some "FIXED", some size => formatNumber size
  | _, _ => "Auto"

/-- The text of a dimension, unless it is zero. -/
def dimension? (n : SceneNode) (key : String) : Option String :=
  match n.number? key with
  | some x => if x != 0 then some (formatNumber x) else none
  | none => none

end SceneMarkup
