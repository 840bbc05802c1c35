import SceneMarkup.Json.Basic

/-!
# Interface trees

The tree of controls that a scene becomes. A control keeps its attributes in the order in which they were first set, so that
the same tree is always written alike.
-/

namespace SceneMarkup

/-- The role of a control. -/
inductive UiKind where
  /-- A box around at most one control, with a border, a background or padding. -/
  | box
  | stackVertical
  | stackHorizontal
  | wrapContainer
  | gridContainer
  | textLeaf
  /-- The place of a scene node that has no control. -/
  | unknown
deriving DecidableEq, Repr

/-- The name of a role. -/
def UiKind.name : UiKind → String
  | .box => "Box"
  | .stackVertical => "StackVertical"
  | .stackHorizontal => "StackHorizontal"
  | .wrapContainer => "WrapContainer"
  | .gridContainer => "GridContainer"
  | .textLeaf => "TextLeaf"
  | .unknown => "Unknown"

/-- The control of a role, by the name that attribute rules and markup use. -/
def UiKind.control? : UiKind → Option String
  | .box => some "Border"
  | .stackVertical | .stackHorizontal => some "StackPanel"
  | .wrapContainer => some "WrapPanel"
  | .gridContainer => some "Grid"
  | .textLeaf => some "TextBlock"
  | .unknown => none

/-- Attributes in the order in which they were first set. -/
abbrev UiAttributes := Named String

namespace UiAttributes

/-- Removes an attribute. -/
def remove (name : String) : UiAttributes → UiAttributes
  | [] => []
  | (n, v) :: rest => if n = name then rest else (n, v) :: remove name rest

end UiAttributes

/-- A control with the controls inside it. -/
structure UiNode where
  kind : UiKind
  attributes : List (String × String)
  children : List UiNode
  comment : Option String
  /-- The heights of the rows of a grid. -/
  rows : List String
  /-- The widths of the columns of a grid. -/
  columns : List String

namespace UiNode

/-- A control without contents. -/
def ofKind (kind : UiKind) : UiNode :=
  ⟨kind, [], [], none, [], []⟩

instance : Inhabited UiNode :=
  ⟨.ofKind .unknown⟩

/-- Sets the comment before a control. -/
def withComment (n : UiNode) (comment : String) : UiNode :=
  { n with comment := some comment }

/-- Sets an attribute. -/
def set (n : UiNode) (name value : String) : UiNode :=
  { n with attributes := Named.put name value n.attributes }

/-- Sets an attribute if there is a value for it. -/
def setSome (n : UiNode) (name : String) : Option String → UiNode
  | some value => n.set name value
  | none => n

/-- The value of an attribute. -/
def get? (n : UiNode) (name : String) : Option String :=
  n.attributes.lookup name

/-- The attribute is set. -/
def has (n : UiNode) (name : String) : Bool :=
  (n.get? name).isSome

/-- Removes an attribute. -/
def remove (n : UiNode) (name : String) : UiNode :=
  { n with attributes := UiAttributes.remove name n.attributes }

/-- Adds a control behind those inside. -/
def addChild (n child : UiNode) : UiNode :=
  { n with children := n.children ++ [child] }

mutual
/-- A JSON view of a tree. -/
def toJson : UiNode → Json
  | ⟨kind, attributes, children, comment, rows, columns⟩ =>
    .obj [("type", .str kind.name), ("attributes", .obj (attributes.map fun (n, v) => (n, .str v))),
      ("children", .arr (toJsons children)), ("comment", (comment.map Json.str).getD .null),
      ("rows", .arr (rows.map .str)), ("columns", .arr (columns.map .str))]

/-- The JSON views of a list of trees. -/
def toJsons : List UiNode → List Json
  | [] => []
  | n :: rest => n.toJson :: toJsons rest
end

end UiNode

end SceneMarkup
