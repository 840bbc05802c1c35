import SceneMarkup.Text.Quoted
import SceneMarkup.Ui.Frame

/-!
# Building interface trees

Every visible node below a frame becomes a control; nodes of other types do not show what is below them. A rectangle becomes a
box, a text a block of text, and a node of another type a place that says so in its comment. A control gets its attributes
from its node first, then from the attribute rules, which never change an attribute that is set, and last from the grid that it
is put into.
-/

namespace SceneMarkup

open Rule (Engine Value)

/-! ## Rectangles and texts -/

/-- The box of a rectangle. -/
def rectangleBox (g : Engine) (n : SceneNode) (c : BuildContext) : UiNode :=
  let horizontal := n.stringOr "layoutSizingHorizontal" "FIXED"
  let vertical := n.stringOr "layoutSizingVertical" "FIXED"
  let stretches := takesAllSpace g horizontal (n.stringOr "layoutAlign" "INHERIT")
  let box := (UiNode.ofKind .box).withComment (n.name?.getD "Rectangle")
  let box := if !stretches && !c.inFillColumn && g.setsDimension horizontal then
    box.setSome "Width" (dimension? n "width") else box
  let box := if !g.stretches vertical && g.setsDimension vertical then
    box.setSome "Height" (dimension? n "height") else box
  let box := if stretches then box.set "HorizontalAlignment" "Stretch" else box
  let box := if g.stretches vertical then box.set "VerticalAlignment" "Stretch" else box
  ((box.setSome "Background" (backgroundColor? n)).setSome "CornerRadius" (cornerRadius? n)).setSome "Margin"
    (spacingMargin? c)

/-- Font families that need no mention. -/
def defaultFontFamilies : List String := ["Segoe UI", "Roboto"]

/-- The font family of a text, unless it needs no mention. -/
def fontFamily? (n : SceneNode) : Option String :=
  match ((n.get? "fontName").bind (·.field? "family")).bind Json.string? with
  | some family => if family = "" || defaultFontFamilies.contains family then none else some family
  | none => none

/-- The font size of a text, unless it is zero or the usual one. -/
def fontSize? (n : SceneNode) : Option String :=
  let size := n.numberOr "fontSize" 12
  if size != 0 && size != 12 then some (formatNumber size) else none

/-- The block of a text. -/
def textBlock (n : SceneNode) (c : BuildContext) : UiNode :=
  let name := n.name?.getD "Text"
  let block := ((UiNode.ofKind .textLeaf).withComment name).set "Text" (n.stringOr "characters" name)
  let block := (block.setSome "FontFamily" (fontFamily? n)).setSome "FontSize" (fontSize? n)
  let block := if 700 ≤ n.numberOr "fontWeight" 400 then block.set "FontWeight" "Bold" else block
  let block := block.setSome "Foreground" (textColor? n)
  let block := if n.stringOr "layoutSizingHorizontal" "FIXED" != "HUG" then
    block.setSome "Width" (dimension? n "width") else block
  let block := if n.stringOr "layoutSizingVertical" "FIXED" != "HUG" then
    block.setSome "Height" (dimension? n "height") else block
  block.setSome "Margin" (spacingMargin? c)

/-- The place of a node of another type. -/
def unknownNode (tag : String) : UiNode :=
  (UiNode.ofKind .unknown).withComment ("unsupported node type: " ++ tag)

/-! ## Attribute rules -/

/-- What the attribute rules may ask about a node. -/
def attributeContext (n : SceneNode) (c : BuildContext) : Rule.Context :=
  let lineHeight := n.get? "lineHeight"
  let number (x : Option Float) : Value := (x.map Value.number).getD .none
  .ofList [("name", .str (n.name?.getD "")), ("sizing_horizontal", .str (n.stringOr "layoutSizingHorizontal" "FIXED")),
    ("sizing_vertical", .str (n.stringOr "layoutSizingVertical" "FIXED")),
    ("layout_align", .str (n.stringOr "layoutAlign" "INHERIT")), ("width", number (n.number? "width")),
    ("height", number (n.number? "height")), ("opacity", .number (n.numberOr "opacity" 1)),
    ("text_align_horizontal", .str (n.stringOr "textAlignHorizontal" "LEFT")),
    ("text_auto_resize", .str (n.stringOr "textAutoResize" "WIDTH_AND_HEIGHT")),
    ("line_height_unit", .str (((lineHeight.bind (·.field? "unit")).bind Json.string?).getD "AUTO")),
    ("line_height", ((lineHeight.bind (·.field? "value")).map Value.ofJson).getD .none),
    ("parent_spacing", .number c.parentSpacing), ("parent_layout", .str c.parentLayout.name),
    ("is_first_child", .bool c.isFirstChild), ("in_fill_column", .bool c.inFillColumn)]

/-- Adds the attributes of some names that rules give to a control, except those that are set. -/
def addRuleAttributes (g : Engine) (control : String) (c : Rule.Context) : List String → UiNode → Logged UiNode
  | [], n => pure n
  | name :: rest, n =>
    if n.has name then addRuleAttributes g control c rest n
    else do addRuleAttributes g control c rest (n.setSome name (← g.attributeValue? control name c))

/-- Adds the attributes that rules give to the control of a node. -/
def applyAttributeRules (g : Engine) (node : SceneNode) (c : BuildContext) (n : UiNode) : Logged UiNode :=
  match n.kind.control? with
  | some control => addRuleAttributes g control (attributeContext node c) (g.attributeNames control) n
  | none => pure n

/-! ## Trees -/

/-- The container of a frame without its children, and what the frame does with them. -/
def planFrame (g : Engine) (n : SceneNode) (isRoot : Bool) : Logged (UiNode × ChildPlan) := do
  let l := FrameLayout.of n
  let d ← g.selectContainer (l.context isRoot)
  let container := withTracks d n l isRoot (containerOf g d l)
  Logged.debug ("frame '" ++ l.name ++ "' -> " ++ container.kind.name ++ " rows=" ++
    String.ofList (quotedList container.rows) ++ " columns=" ++ String.ofList (quotedList container.columns))
  return (container, ChildPlan.of d n l isRoot container)

/-- The control of a node that is no frame. -/
def leafOf (g : Engine) (n : SceneNode) (c : BuildContext) : Logged UiNode :=
  match n.kind with
  | .rectangle => applyAttributeRules g n c (rectangleBox g n c)
  | .text => applyAttributeRules g n c (textBlock n c)
  | .frame => pure (unknownNode n.tag)
  | .unknown tag => do
    Logged.warn ("unsupported node type '" ++ tag ++ "' on '" ++ n.name?.getD "" ++ "'")
    return unknownNode tag

namespace SceneNode

mutual
/-- The interface tree of a node. A root has neither a size nor a margin. -/
def buildIn (g : Engine) (isRoot : Bool) (c : BuildContext) : SceneNode → Logged UiNode
  | mk attributes children =>
    let n := mk attributes children
    if n.kind = .frame then do
      let (container, plan) ← planFrame g n isRoot
      let built ← match children with
        | some children => buildChildren g plan 0 children
        | none => pure []
      applyAttributeRules g n c (finishFrame g n (FrameLayout.of n) isRoot c { container with children := built })
    else leafOf g n c

/-- The trees of the visible nodes in a list, of which the first is child number `index` of its parent. -/
def buildChildren (g : Engine) (p : ChildPlan) (index : Nat) : List SceneNode → Logged (List UiNode)
  | [] => pure []
  | n :: rest =>
    if n.isVisible then do
      let built ← buildIn g false (p.contextAt index n) n
      return p.place index n built :: (← buildChildren g p (index + 1) rest)
    else buildChildren g p index rest
end

/-- The interface tree of a node without parent. -/
def build (g : Engine) (isRoot : Bool) (n : SceneNode) : Logged UiNode :=
  n.buildIn g isRoot .root

end SceneNode

end SceneMarkup
