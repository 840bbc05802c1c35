import SceneMarkup.Decimal.Layout
import SceneMarkup.Json.Decode
import SceneMarkup.Markup.Escape
import SceneMarkup.Ui.Node

/-!
# Writing markup

Every control is an element on lines of its own, after its comment. The attributes come in their order; the tracks of a grid
come before its children. The place of a node without control is only a comment.
-/

namespace SceneMarkup

/-! ## Options -/

/-- How markup is written. -/
structure MarkupOptions where
  /-- The namespace before the name of a class. -/
  namespaceName : String
  /-- One step of indentation. -/
  indent : String
  /-- The design size of a control that has none of its own. -/
  fallbackSize : Float

namespace MarkupOptions

/-- The usual options. -/
def default : MarkupOptions :=
  ⟨"YourNamespace", "    ", 200⟩

/-- The options that a JSON value stands for, which needs all of them. -/
def ofJson? (v : Json) : Option MarkupOptions := do
  match ← v.record? ["namespace", "indent", "fallback_size"] with
  | [some namespaceName, some indent, some fallbackSize] =>
    return ⟨← namespaceName.string?, ← indent.string?, ← fallbackSize.number?⟩
  | _ => none

/-- The options are equal, with sizes compared as numbers. -/
def same (a b : MarkupOptions) : Bool :=
  a.namespaceName == b.namespaceName && a.indent == b.indent && a.fallbackSize == b.fallbackSize

end MarkupOptions

/-! ## Elements -/

namespace UiNode

/-- The indentation at a depth. -/
def indentAt (o : MarkupOptions) (depth : Nat) : List Char :=
  (List.replicate depth o.indent.toList).flatten

/-- The line of a comment. -/
def commentLine (o : MarkupOptions) (depth : Nat) : Option String → List Char
  | some comment => indentAt o depth ++ "<!-- ".toList ++ commentChars comment ++ " -->\n".toList
  | none => []

/-- The attributes of an element. -/
def attributeChars : List (String × String) → List Char
  | [] => []
  | (name, value) :: rest =>
    ' ' :: name.toList ++ '=' :: '"' :: escapeChars value.toList ++ '"' :: attributeChars rest

/-- The line of one track. -/
def trackLine (o : MarkupOptions) (depth : Nat) (element size track : String) : List Char :=
  indentAt o depth ++ '<' :: element.toList ++ attributeChars [(size, track)] ++ " />\n".toList

/-- The block of the tracks on one axis, if there are any. -/
def trackBlock (o : MarkupOptions) (depth : Nat) (tag element size : String) (tracks : List String) : List Char :=
  if tracks.isEmpty then []
  else
    let name := tag.toList ++ '.' :: element.toList ++ ['s']
    indentAt o depth ++ '<' :: name ++ ">\n".toList ++ tracks.flatMap (trackLine o (depth + 1) element size) ++
      indentAt o depth ++ '<' :: '/' :: name ++ ">\n".toList

/-- The control is a grid with tracks. -/
def hasTracks (n : UiNode) : Bool :=
  n.kind == .gridContainer && (!n.rows.isEmpty || !n.columns.isEmpty)

/-- The blocks of the tracks of a grid, the rows first. -/
def tracksChars (o : MarkupOptions) (depth : Nat) (tag : String) (n : UiNode) : List Char :=
  if n.hasTracks then
    trackBlock o depth tag "RowDefinition" "Height" n.rows ++ trackBlock o depth tag "ColumnDefinition" "Width" n.columns
  else []

mutual
/-- The markup of a tree at a depth of indentation. -/
def markupChars (o : MarkupOptions) (depth : Nat) : UiNode → List Char
  | ⟨kind, attributes, children, comment, rows, columns⟩ =>
    let n : UiNode := ⟨kind, attributes, [], none, rows, columns⟩
    commentLine o depth comment ++
      match kind.control? with
      | none => []
      | some tag =>
        let start := indentAt o depth ++ '<' :: tag.toList ++ attributeChars attributes
        if children.isEmpty && !n.hasTracks then start ++ " />\n".toList
        else
          start ++ ">\n".toList ++ tracksChars o (depth + 1) tag n ++ childrenChars o (depth + 1) children ++
            indentAt o depth ++ '<' :: '/' :: tag.toList ++ ">\n".toList

/-- The markup of a list of trees. -/
def childrenChars (o : MarkupOptions) (depth : Nat) : List UiNode → List Char
  | [] => []
  | n :: rest => markupChars o depth n ++ childrenChars o depth rest
end

/-- The markup of a tree at a depth of indentation. -/
def markup (o : MarkupOptions) (depth : Nat) (n : UiNode) : String :=
  String.ofList (n.markupChars o depth)

end UiNode

/-! ## Documents -/

/-- The attributes that every document has after its class, one on each line. -/
def documentAttributes : List (String × String) :=
  [("xmlns", "http://schemas.microsoft.com/winfx/2006/xaml/presentation"),
   ("xmlns:x", "http://schemas.microsoft.com/winfx/2006/xaml"),
   ("xmlns:mc", "http://schemas.openxmlformats.org/markup-compatibility/2006"),
   ("xmlns:d", "http://schemas.microsoft.com/expression/blend/2008"),
   ("mc:Ignorable", "d")]

/-- The blanks below the start of a document's element. -/
def documentIndent : List Char :=
  List.replicate "<UserControl ".length ' '

/-- A design size: that of the control where it is above zero. -/
def designSize (o : MarkupOptions) : Option Float → Float
  | some x => if 0 < x then x else o.fallbackSize
  | none => o.fallbackSize

/-- The document of a control: a class with the control inside. -/
def UiNode.document (o : MarkupOptions) (className : String) (width height : Option Float) (n : UiNode) : String :=
  let line (p : String × String) : List Char :=
    documentIndent ++ p.1.toList ++ '=' :: '"' :: p.2.toList ++ "\"\n".toList
  String.ofList <|
    "<UserControl x:Class=\"".toList ++ escapeChars o.namespaceName.toList ++ '.' :: escapeChars className.toList ++
      "\"\n".toList ++ documentAttributes.flatMap line ++ documentIndent ++
      "d:DesignHeight=\"".toList ++ (formatNumber (designSize o height)).toList ++
      "\" d:DesignWidth=\"".toList ++ (formatNumber (designSize o width)).toList ++ "\">\n".toList ++
      n.markupChars o 1 ++ "</UserControl>\n".toList

end SceneMarkup
