import SceneMarkup.Proofs.Rule.Builtin
import SceneMarkup.Proofs.Ui.Placement

/-!
# Children of grids with tracks of their own

Where the rules lay out a frame in a grid of its own, the frame has the tracks that it declares, and the control of every
visible child shows the placement of the child in that grid (`SceneNode.placed_of_useGridLayout`). A child behind the last
declared row may cover more rows, since nothing cuts off its span (`SceneNode.row_add_rowSpan_le_max_iff`).
-/

namespace SceneMarkup

open Rule (Engine)

namespace SceneNode

/-- The grid of a frame with tracks of its own. -/
def nativeGrid (n : SceneNode) : NativeGrid where
  rowCount := (nativeTracks n "gridRowSizes").length
  columnCount := (nativeTracks n "gridColumnSizes").length
  rowGap := n.numberOr "gridRowGap" 0
  columnGap := n.numberOr "gridColumnGap" 0

/-- The built-in rules lay out a grid as one. -/
theorem decision_builtin_of_isGrid {n : SceneNode} (h : n.isGrid = true) (isRoot : Bool) :
    n.decision .builtin isRoot = ⟨.grid, none, false, true, false⟩ := by
  apply Engine.selectContainer_builtin_grid
  rw [FrameLayout.get?_mode]
  exact congrArg (fun mode => some (Rule.Value.str mode)) (beq_iff_eq.1 h)

section

variable {g : Engine} {isRoot : Bool} {n : SceneNode}

/-- A frame with a grid of its own has its tracks. -/
theorem tracks_container_of_useGridLayout (hd : (n.decision g isRoot).useGridLayout = true) :
    (n.container g isRoot).rows = nativeTracks n "gridRowSizes" ∧
      (n.container g isRoot).columns = nativeTracks n "gridColumnSizes" := by
  unfold container withTracks
  rw [if_pos hd]
  exact ⟨rfl, rfl⟩

/-- A child of a frame with a grid of its own is put into a cell of that grid. -/
theorem cellControl_of_useGridLayout (hd : (n.decision g isRoot).useGridLayout = true) (index : Nat) (child : SceneNode) :
    n.cellControl g isRoot index child = n.nativeGrid.place child index (n.looseControl g isRoot index child) := by
  have hgrid : (n.plan g isRoot).grid = n.nativeGrid := by
    obtain ⟨hrows, hcolumns⟩ := tracks_container_of_useGridLayout hd
    unfold plan ChildPlan.of nativeGrid
    simp only [hrows, hcolumns]
  have hplan : (n.plan g isRoot).decision.useGridLayout = true := hd
  unfold cellControl ChildPlan.place
  rw [if_pos hplan, hgrid]

/-- At the place of a visible child of such a frame there is its control, which shows its placement. -/
theorem shown_of_useGridLayout (c : BuildContext) (hk : n.kind = .frame) (hd : (n.decision g isRoot).useGridLayout = true)
    {index : Nat} {child : SceneNode} (hchild : n.shown[index]? = some child) :
    ∃ control, (n.buildIn g isRoot c).value.unboxed.children[index]? = some control ∧
      (n.nativeGrid.placement child index).ShownBy (n.looseControl g isRoot index child) control := by
  refine ⟨_, getElem?_children_unboxed c hk hchild, ?_⟩
  rw [cellControl_of_useGridLayout hd]
  exact n.nativeGrid.shownBy_place child index _

/-- A frame that the rules lay out in a grid of its own has the tracks that it declares and a control for each visible child.
Every control shows the placement of its child: the cell that the anchors name, or else the next one in reading order, and the
tracks that its spans ask for, as far as they go. Before it is put there, a control has spans only by a rule. Children in
reading order have different cells. As long as children and tracks can be counted, no step of this leaves the indices or
divides by zero. -/
theorem placed_of_useGridLayout (c : BuildContext) (hk : n.kind = .frame)
    (hd : (n.decision g isRoot).useGridLayout = true) :
    (n.buildIn g isRoot c).value.unboxed.rows = nativeTracks n "gridRowSizes" ∧
      (n.buildIn g isRoot c).value.unboxed.columns = nativeTracks n "gridColumnSizes" ∧
      (n.buildIn g isRoot c).value.unboxed.children.length = n.shown.length ∧
      (∀ index child, n.shown[index]? = some child →
        (∃ control, (n.buildIn g isRoot c).value.unboxed.children[index]? = some control ∧
          (n.nativeGrid.placement child index).ShownBy (n.looseControl g isRoot index child) control) ∧
        (∀ name ∈ ["Grid.RowSpan", "Grid.ColumnSpan"], (∀ other, name ∉ g.attributeNames other) →
          (n.looseControl g isRoot index child).get? name = none) ∧
        n.nativeGrid.PlacedAt child index (n.nativeGrid.placement child index) ∧
        (n.shown.length ≤ maxIndex → n.nativeGrid.rowCount ≤ maxIndex → n.nativeGrid.columnCount ≤ maxIndex →
          n.nativeGrid.PlacedSafely child index n.shown.length (n.nativeGrid.placement child index))) ∧
      ∀ i j a b, n.shown[i]? = some a → n.shown[j]? = some b → i ≠ j → 0 < n.nativeGrid.columnCount →
        ¬n.nativeGrid.Anchored a → ¬n.nativeGrid.Anchored b →
        ((n.nativeGrid.placement a i).row, (n.nativeGrid.placement a i).column) ≠
          ((n.nativeGrid.placement b j).row, (n.nativeGrid.placement b j).column) := by
  obtain ⟨hrows, hcolumns⟩ := tracks_container_of_useGridLayout hd
  refine ⟨(rows_unboxed c hk).trans hrows, (columns_unboxed c hk).trans hcolumns, ?_, ?_, ?_⟩
  · rw [children_unboxed c hk, List.length_mapIdx]
  · intro index child hchild
    refine ⟨shown_of_useGridLayout c hk hd hchild, ?_, n.nativeGrid.placedAt_placement child index, ?_⟩
    · intro name hname hrules
      have hbuilt : name ∉ "Margin" :: builtNames := by
        simp only [List.mem_cons, List.not_mem_nil, or_false] at hname
        rcases hname with rfl | rfl <;> decide
      exact get?_buildIn_of_notMem hbuilt hrules child _
    · intro hcount hrows hcolumns
      have hindex : index < n.shown.length := by
        obtain ⟨h, -⟩ := List.getElem?_eq_some_iff.1 hchild
        exact h
      exact n.nativeGrid.placedSafely_placement child index hindex hcount hrows hcolumns
  · intro i j a b _ _ hne hpositive ha hb
    exact n.nativeGrid.cell_ne a i hpositive ha hb hne

end

/-- A board of two columns and no declared rows. Its first tile has anchors between whole numbers, the second one, which is
not the second child, has an anchor behind the last column, the third one a span that is too wide. -/
def board : SceneNode :=
  .mk [("type", .str "FRAME"), ("layoutMode", .str "GRID"),
      ("gridColumnSizes", .arr [.obj [("type", .str "FLEX")], .obj [("type", .str "FIXED"), ("value", .num (.whole 40))]])]
    (some
      [.mk [("type", .str "RECTANGLE"), ("gridRowAnchorIndex", .num (.real 0.9 rfl)),
        ("gridColumnAnchorIndex", .num (.real 1.5 rfl))] none,
       .mk [("type", .str "RECTANGLE"), ("visible", .bool false)] none,
       .mk [("type", .str "RECTANGLE"), ("gridRowAnchorIndex", .num (.whole 0)),
        ("gridColumnAnchorIndex", .num (.whole 2))] none,
       .mk [("type", .str "RECTANGLE"), ("gridColumnSpan", .num (.whole 9))] none])

/-- The third tile of the board is at the beginning of the second row, and ends with it. -/
theorem placed_of_useGridLayout_board :
    (board.decision .builtin true).useGridLayout = true ∧
      ∃ control, (board.buildIn .builtin true .root).value.unboxed.children[2]? = some control ∧
        control.get? "Grid.Row" = some "1" ∧ control.get? "Grid.Column" = some "0" ∧
        control.get? "Grid.RowSpan" = none ∧ control.get? "Grid.ColumnSpan" = some "2" := by
  have hd : (board.decision .builtin true).useGridLayout = true := by
    rw [decision_builtin_of_isGrid rfl]
  obtain ⟨-, -, -, hchildren, -⟩ := placed_of_useGridLayout .root (rfl : board.kind = .frame) hd
  obtain ⟨⟨control, hcontrol, hshown⟩, hspans, -, -⟩ := hchildren 2
    (.mk [("type", .str "RECTANGLE"), ("gridColumnSpan", .num (.whole 9))] none) rfl
  have hrowSpan := hspans "Grid.RowSpan" (by decide) (Engine.notMem_attributeNames_builtin (by decide))
  exact ⟨hd, control, hcontrol, hshown.row, hshown.column, hshown.rowSpan.trans hrowSpan, hshown.columnSpan⟩

/-! ## Rows behind the last one -/

/-- The rows that the control of a child shows end with the declared ones, or with its own row where that is behind them,
exactly if its own row is a declared one or the child asks for one row: behind the last row a span is not cut off. -/
theorem row_add_rowSpan_le_max_iff {g : Engine} {isRoot : Bool} {n : SceneNode} (c : BuildContext) (hk : n.kind = .frame)
    (hd : (n.decision g isRoot).useGridLayout = true) {index : Nat} {child : SceneNode}
    (hchild : n.shown[index]? = some child) :
    ∃ control, (n.buildIn g isRoot c).value.unboxed.children[index]? = some control ∧
      (n.nativeGrid.placement child index).ShownBy (n.looseControl g isRoot index child) control ∧
      ((n.nativeGrid.placement child index).row + (n.nativeGrid.placement child index).rowSpan ≤
          max n.nativeGrid.rowCount ((n.nativeGrid.placement child index).row + 1) ↔
        (n.nativeGrid.placement child index).row < n.nativeGrid.rowCount ∨
          askedSpan (child.number? "gridRowSpan") ≤ 1) := by
  obtain ⟨control, hcontrol, hshown⟩ := shown_of_useGridLayout c hk hd hchild
  exact ⟨control, hcontrol, hshown, add_trackSpan_le_max_iff⟩

/-- A tile that asks for two rows. -/
def tallTile : SceneNode :=
  .mk [("type", .str "RECTANGLE"), ("gridRowSpan", .num (.whole 2))] none

/-- A grid of one row and one column with two tall tiles. -/
def overfullGrid : SceneNode :=
  .mk [("type", .str "FRAME"), ("layoutMode", .str "GRID"), ("gridRowSizes", .arr [.obj [("type", .str "FLEX")]]),
    ("gridColumnSizes", .arr [.obj [("type", .str "FLEX")]])] (some [tallTile, tallTile])

/-- The built-in rules lay out the overfull grid in a grid of its own. -/
theorem useGridLayout_overfullGrid : (overfullGrid.decision .builtin true).useGridLayout = true := by
  rw [decision_builtin_of_isGrid rfl]

/-- The first tile is in the declared row and ends with it. -/
theorem row_add_rowSpan_le_max_overfullGrid :
    (overfullGrid.decision .builtin true).useGridLayout = true ∧
      ∃ control, (overfullGrid.buildIn .builtin true .root).value.unboxed.children[0]? = some control ∧
        control.get? "Grid.Row" = some (toString 0) ∧
        0 + (overfullGrid.nativeGrid.placement tallTile 0).rowSpan ≤ max 1 (0 + 1) := by
  obtain ⟨control, hcontrol, hshown, hends⟩ := row_add_rowSpan_le_max_iff .root (rfl : overfullGrid.kind = .frame)
    useGridLayout_overfullGrid (rfl : overfullGrid.shown[0]? = some tallTile)
  exact ⟨useGridLayout_overfullGrid, control, hcontrol, hshown.row, hends.2 (.inl (by decide))⟩

/-- The second tile is behind the declared row, and its control covers one more. -/
theorem rowSpan_overfullGrid :
    (overfullGrid.decision .builtin true).useGridLayout = true ∧ overfullGrid.nativeGrid.rowCount = 1 ∧
      (∃ control, (overfullGrid.buildIn .builtin true .root).value.unboxed.children[1]? = some control ∧
        control.get? "Grid.Row" = some (toString 1) ∧ control.get? "Grid.RowSpan" = some (toString 2)) ∧
      ¬1 + 2 ≤ max 1 (1 + 1) := by
  obtain ⟨control, hcontrol, hshown⟩ := shown_of_useGridLayout .root (rfl : overfullGrid.kind = .frame)
    useGridLayout_overfullGrid (rfl : overfullGrid.shown[1]? = some tallTile)
  exact ⟨useGridLayout_overfullGrid, rfl, ⟨control, hcontrol, hshown.row, hshown.rowSpan⟩, by decide⟩

end SceneNode

end SceneMarkup
