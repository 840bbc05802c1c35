import SceneMarkup.Rule.Config
import SceneMarkup.Scene.Node
import SceneMarkup.Ui.Node
import SceneMarkup.Ui.Style

/-!
# Placing children in grids

A child of a grid with tracks of its own goes where its anchors say, or else to the next place in reading order; the gaps
between tracks become margins, half of a gap on either side. In a grid that stands in for a stack the children follow one
another, or share three tracks of which the middle one takes the space that is left.
-/

namespace SceneMarkup

/-- The tracks of a grid and the gaps between them. -/
structure NativeGrid where
  rowCount : Nat
  columnCount : Nat
  rowGap : Float
  columnGap : Float

/-- The greatest index that a number can mean. -/
def maxIndex : Nat := twoTo 64 - 1

/-- The index that a number from zero up means: its whole part, as far as indices go. -/
def indexOf (x : Float) : Nat :=
  min maxIndex (Binary.ofFloat x).wholePart

/-- The index of an anchor that names one of `count` tracks; without tracks every index is one. -/
def trackIndex? (anchor : Option Float) (count : Nat) : Option Nat :=
  match anchor with
  | some x =>
    if x.isFinite && 0 ≤ x && (count == 0 || indexOf x < count) then some (indexOf x) else none
  | none => none

/-- The number of tracks that a span covers from `start` on: at least one, and no more than are left. -/
def trackSpan (span : Option Float) (start count : Nat) : Nat :=
  let n := match span with
    | some x => if x.isFinite && 1 ≤ x then indexOf x else 1
    | none => 1
  if start < count then min n (count - start) else n

namespace NativeGrid

/-- The row and column of the child at a place in reading order. -/
def cell (g : NativeGrid) (child : SceneNode) (index : Nat) : Nat × Nat :=
  match trackIndex? (child.number? "gridRowAnchorIndex") g.rowCount,
    trackIndex? (child.number? "gridColumnAnchorIndex") g.columnCount with
  | some row, some column => (row, column)
  | _, _ => if 0 < g.columnCount then (index / g.columnCount, index % g.columnCount) else (0, index)

/-- The margins before and behind a child that covers `span` of `count` tracks from `start` on: half a gap, except at the
outer edges. -/
def gapSides (gap : Float) (start span count : Nat) : Float × Float :=
  (if 0 < start then gap / 2 else 0, if 0 < count && count ≤ start + span then 0 else gap / 2)

/-- A child put into its cell. -/
def place (g : NativeGrid) (child : SceneNode) (index : Nat) (n : UiNode) : UiNode :=
  let (row, column) := g.cell child index
  let rowSpan := trackSpan (child.number? "gridRowSpan") row g.rowCount
  let columnSpan := trackSpan (child.number? "gridColumnSpan") column g.columnCount
  let (left, right) := gapSides g.columnGap column columnSpan g.columnCount
  let (top, bottom) := gapSides g.rowGap row rowSpan g.rowCount
  let n := (n.set "Grid.Row" (toString row)).set "Grid.Column" (toString column)
  let n := if 1 < rowSpan then n.set "Grid.RowSpan" (toString rowSpan) else n
  let n := if 1 < columnSpan then n.set "Grid.ColumnSpan" (toString columnSpan) else n
  if 0 < left || 0 < top || 0 < right || 0 < bottom then n.set "Margin" (joinSides left top right bottom) else n

end NativeGrid

/-- The three tracks between which children are spread. -/
def spreadTracks : List String := ["Auto", "*", "Auto"]

/-- The track of the child at a place among `count` that are spread. -/
def spreadTrack (index count : Nat) : Nat :=
  if index = 0 then 0 else if index + 1 = count then 2 else 1

/-- A child put into a grid that stands in for a stack. -/
def placeInStack (d : Rule.ContainerDecision) (index count : Nat) (n : UiNode) : UiNode :=
  if d.spaceBetween then
    match d.orientationOrDefault with
    | .horizontal => n.set "Grid.Column" (toString (spreadTrack index count))
    | .vertical => n.set "Grid.Row" (toString (spreadTrack index count))
  else n.set "Grid.Column" (toString index)

end SceneMarkup
