import SceneMarkup.Json.Equal
import SceneMarkup.Json.Printer
import SceneMarkup.Logged

/-!
# Scene nodes

A scene graph is a tree of nodes with JSON attributes. The list of children is kept apart from the attributes: a node
without such a list differs from one whose list is empty. Decoding takes `children` out of the object, encoding puts it
behind the attributes.
-/

namespace SceneMarkup

/-- A node of a scene graph. -/
inductive SceneNode where
  | mk (attributes : List (String × Json)) (children : Option (List SceneNode))
deriving Inhabited

/-- The types of nodes that have a meaning for the layout. -/
inductive NodeKind where
  | frame
  | rectangle
  | text
  | unknown (tag : String)
deriving DecidableEq, Repr

/-- The type that a tag names. -/
def NodeKind.ofTag (tag : String) : NodeKind :=
  if tag = "FRAME" then .frame
  else if tag = "RECTANGLE" then .rectangle
  else if tag = "TEXT" then .text
  else .unknown tag

namespace SceneNode

/-- The attributes of a node. -/
def attributes : SceneNode → Fields
  | mk attributes _ => attributes

/-- The list of children of a node, if it has one. -/
def children? : SceneNode → Option (List SceneNode)
  | mk _ children => children

/-- The children of a node. -/
def children (n : SceneNode) : List SceneNode :=
  n.children?.getD []

/-- The value of an attribute. -/
def get? (n : SceneNode) (key : String) : Option Json :=
  n.attributes.lookup key

/-- The text of an attribute. -/
def string? (n : SceneNode) (key : String) : Option String :=
  (n.get? key).bind Json.string?

/-- The text of an attribute, or another one where it is missing or no text. -/
def stringOr (n : SceneNode) (key default : String) : String :=
  (n.string? key).getD default

/-- The number of an attribute. -/
def number? (n : SceneNode) (key : String) : Option Float :=
  (n.get? key).bind Json.number?

/-- The number of an attribute, or another one where it is missing or no number. -/
def numberOr (n : SceneNode) (key : String) (default : Float) : Float :=
  (n.number? key).getD default

/-- The tag of the node's type, empty where it is missing. -/
def tag (n : SceneNode) : String :=
  n.stringOr "type" ""

/-- The node's type. -/
def kind (n : SceneNode) : NodeKind :=
  NodeKind.ofTag n.tag

/-- The node's name. -/
def name? (n : SceneNode) : Option String :=
  n.string? "name"

/-- Only an attribute `visible` that is false hides a node. -/
def isVisible (n : SceneNode) : Bool :=
  match n.get? "visible" with
  | some (.bool b) => b
  | _ => true

/-- The objects in a list of paints. -/
def paints (n : SceneNode) (key : String) : List Fields :=
  match n.get? key with
  | some (.arr items) => items.filterMap Json.fields?
  | _ => []

mutual
/-- The number of nodes in a tree. -/
def size : SceneNode → Nat
  | mk _ none => 1
  | mk _ (some children) => 1 + sizes children

/-- The number of nodes in a list of trees. -/
def sizes : List SceneNode → Nat
  | [] => 0
  | n :: rest => n.size + sizes rest
end

mutual
/-- The number of attributes in a tree, where a list of children counts as one. -/
def attributeCount : SceneNode → Nat
  | mk attributes none => attributes.length
  | mk attributes (some children) => attributes.length + 1 + attributeCounts children

/-- The number of attributes in a list of trees. -/
def attributeCounts : List SceneNode → Nat
  | [] => 0
  | n :: rest => n.attributeCount + attributeCounts rest
end

/-! ## Decoding -/

/-- The attributes of a node's object: without a list of children, and with other contents of `children` at the end. -/
def attributesOf (fields : Fields) : Fields :=
  match fields.lookup "children" with
  | some (.arr _) => Fields.takeOut "children" fields
  | some v => Named.put "children" v (Fields.takeOut "children" fields)
  | none => fields

mutual
/-- The node that an object stands for. -/
def decode : Json → Logged (Option SceneNode)
  | .obj fields => do return some (.mk (attributesOf fields) (← decodeChildren fields))
  | _ => pure none

/-- The list of children in the fields of a node's object. -/
def decodeChildren : List (String × Json) → Logged (Option (List SceneNode))
  | [] => pure none
  | (name, v) :: rest =>
    if name = "children" then
      match v with
      | .arr items => do return some (← decodeItems items)
      | _ => pure none
    else decodeChildren rest

/-- The nodes in a list of children; an item that is no object is passed over. -/
def decodeItems : List Json → Logged (List SceneNode)
  | [] => pure []
  | v :: rest => do
    match ← decode v with
    | some n => return n :: (← decodeItems rest)
    | none =>
      Logged.warn ("skipping non-object child entry: " ++ v.compact)
      decodeItems rest
end

/-- The error for a node that is no object. -/
def notObject : SceneError :=
  .validation "scene node must be a JSON object"

/-- The node that a JSON value stands for. -/
def ofJson (v : Json) : Outcome SceneNode := do
  match ← (decode v : Logged (Option SceneNode)) with
  | some n => return n
  | none => throw notObject

/-- The nodes that the items of an array stand for; the first item that is no object fails. -/
def ofJsons : List Json → Outcome (List SceneNode)
  | [] => pure []
  | v :: rest => do
    let n ← ofJson v
    return n :: (← ofJsons rest)

/-! ## Encoding -/

mutual
/-- The object that stands for a node. -/
def toJson : SceneNode → Json
  | mk attributes none => .obj attributes
  | mk attributes (some children) => .obj (Named.put "children" (.arr (toJsons children)) attributes)

/-- The objects that stand for a list of nodes. -/
def toJsons : List SceneNode → List Json
  | [] => []
  | n :: rest => n.toJson :: toJsons rest
end

mutual
/-- The written form of a node: its attributes, and its list of children behind them. -/
def written : SceneNode → Json
  | mk attributes none => .obj attributes
  | mk attributes (some children) => .obj (attributes ++ [("children", .arr (writtenAll children))])

/-- The written forms of a list of nodes. -/
def writtenAll : List SceneNode → List Json
  | [] => []
  | n :: rest => n.written :: writtenAll rest
end

/-! ## Equality -/

mutual
/-- Equality up to the order of attributes. -/
def same : SceneNode → SceneNode → Bool
  | mk fs none, mk gs none => Json.same (.obj fs) (.obj gs)
  | mk fs (some cs), mk gs (some ds) => Json.same (.obj fs) (.obj gs) && sameAll cs ds
  | _, _ => false

/-- The nodes are equal one by one. -/
def sameAll : List SceneNode → List SceneNode → Bool
  | [], [] => true
  | c :: cs, d :: ds => same c d && sameAll cs ds
  | _, _ => false
end

end SceneNode

end SceneMarkup
