import SceneMarkup.Proofs.Ui.NativeGrid

/-!
# Gaps between the children of a grid

The built-in rules give no margins, and the children of a grid are not kept apart as those of a stack are. So the margins of a
child of a grid come from the gaps alone: half a gap on each side but those at the edges of the grid
(`SceneNode.margins_of_isGrid`), so that children next to each other have the same margin between them
(`NativeGrid.evenMargins_right_eq_left`, `NativeGrid.evenMargins_bottom_eq_top`).
-/

namespace SceneMarkup

open Rule (Engine)

/-- The margins are zero on all sides. -/
def Margins.isZero (m : Margins) : Bool :=
  m.left == 0 && m.top == 0 && m.right == 0 && m.bottom == 0

/-- Margins from zero up are visible unless all of them are zero. -/
theorem Margins.isVisible_eq {m : Margins} (hleft : 0 ≤ m.left) (htop : 0 ≤ m.top) (hright : 0 ≤ m.right)
    (hbottom : 0 ≤ m.bottom) : m.isVisible = !m.isZero := by
  unfold isVisible isZero
  simp only [zero_lt_iff hleft, zero_lt_iff htop, zero_lt_iff hright, zero_lt_iff hbottom]
  cases m.left == 0 <;> cases m.top == 0 <;> cases m.right == 0 <;> cases m.bottom == 0 <;> rfl

namespace NativeGrid

/-- Half a gap on each side, but nothing where the grid begins or ends. -/
def evenMargins (g : NativeGrid) (p : Placement) : Margins where
  left := if p.column = 0 then 0 else g.columnGap / 2
  top := if p.row = 0 then 0 else g.rowGap / 2
  right := if p.column + p.columnSpan = g.columnCount then 0 else g.columnGap / 2
  bottom := if p.row + p.rowSpan = g.rowCount then 0 else g.rowGap / 2

/-- Within the tracks the margins before and behind a child are half a gap, but nothing at the edges. -/
theorem gapSides_eq (gap : Float) {start span count : Nat} (hcount : 0 < count) (hend : start + span ≤ count) :
    gapSides gap start span count =
      (if start = 0 then 0 else gap / 2, if start + span = count then 0 else gap / 2) := by
  unfold gapSides
  congr 1
  · by_cases h : start = 0
    · rw [if_pos h, if_neg (by omega)]
    · rw [if_neg h, if_pos (by omega)]
  · by_cases h : start + span = count
    · rw [if_pos h, if_pos (by simp; omega)]
    · rw [if_neg h, if_neg (by simp; omega)]

variable {g : NativeGrid} {p q : Placement}

/-- Within the tracks the margins of a placement are even. -/
theorem margins_eq_evenMargins (hrows : 0 < g.rowCount) (hcolumns : 0 < g.columnCount)
    (hrow : p.row + p.rowSpan ≤ g.rowCount) (hcolumn : p.column + p.columnSpan ≤ g.columnCount) :
    g.margins p = g.evenMargins p := by
  unfold margins evenMargins
  rw [gapSides_eq g.columnGap hcolumns hcolumn, gapSides_eq g.rowGap hrows hrow]

/-- Even margins are visible unless all of them are zero. -/
theorem isVisible_evenMargins (hrow : 0 ≤ g.rowGap) (hcolumn : 0 ≤ g.columnGap) (p : Placement) :
    (g.evenMargins p).isVisible = !(g.evenMargins p).isZero := by
  -- halves of gaps from zero up are from zero up, so that a side is above zero unless it is zero
  have hside : ∀ (edge : Prop) [Decidable edge] (gap : Float), 0 ≤ gap → 0 ≤ (if edge then 0 else gap / 2) := by
    intro edge _ gap hgap
    split
    · exact BitPattern.zero_le_iff.2 (.zero _)
    · exact zero_le_half hgap
  exact Margins.isVisible_eq (hside _ _ hcolumn) (hside _ _ hrow) (hside _ _ hcolumn) (hside _ _ hrow)

/-- A child and the next one in its row have the same margin between them. -/
theorem evenMargins_right_eq_left (hspan : 1 ≤ p.columnSpan) (hq : q.column < g.columnCount)
    (hnext : p.column + p.columnSpan = q.column) : (g.evenMargins p).right = (g.evenMargins q).left := by
  unfold evenMargins
  simp only []
  rw [if_neg (by omega), if_neg (by omega)]

/-- A child and the next one in its column have the same margin between them. -/
theorem evenMargins_bottom_eq_top (hspan : 1 ≤ p.rowSpan) (hq : q.row < g.rowCount)
    (hnext : p.row + p.rowSpan = q.row) : (g.evenMargins p).bottom = (g.evenMargins q).top := by
  unfold evenMargins
  simp only []
  rw [if_neg (by omega), if_neg (by omega)]

end NativeGrid

/-- A child of a parent without direction is not kept apart from the child before it. -/
theorem spacingMargin?_of_parentLayout_none {c : BuildContext} (h : c.parentLayout = .none) : spacingMargin? c = none := by
  unfold spacingMargin?
  rw [h]
  split <;> rfl

namespace SceneNode

variable {isRoot : Bool} {n : SceneNode}

/-- With the built-in rules a child of a grid has no margin before it is put into its cell. -/
theorem get?_margin_looseControl (hgrid : n.isGrid = true) (index : Nat) (child : SceneNode) :
    (n.looseControl .builtin isRoot index child).get? "Margin" = none := by
  have hmode : (FrameLayout.of n).mode = "GRID" := beq_iff_eq.1 hgrid
  have hlayout : (n.plan .builtin isRoot).layout = .none := by
    change ParentLayout.ofLayout (FrameLayout.of n).mode _ = _
    rw [hmode]
    rfl
  unfold looseControl
  rw [get?_margin_buildIn (Engine.notMem_attributeNames_builtin (by decide)),
    spacingMargin?_of_parentLayout_none hlayout, ite_self]

/-- With the built-in rules the margins of the children of a grid with declared tracks are even where the children are in
declared rows: half a gap on each side, but nothing where the grid begins or ends. Margins that are all zero are left out. Two
children of which one begins where the other ends have the same margin there. -/
theorem margins_of_isGrid (c : BuildContext) (hk : n.kind = .frame) (hgrid : n.isGrid = true)
    (hrows : 0 < n.nativeGrid.rowCount) (hcolumns : 0 < n.nativeGrid.columnCount) (hrowGap : 0 ≤ n.nativeGrid.rowGap)
    (hcolumnGap : 0 ≤ n.nativeGrid.columnGap) :
    (∀ index child, n.shown[index]? = some child →
        (n.nativeGrid.placement child index).row < n.nativeGrid.rowCount →
      ∃ control, (n.buildIn .builtin isRoot c).value.unboxed.children[index]? = some control ∧
        (n.nativeGrid.placement child index).ShownBy (n.looseControl .builtin isRoot index child) control ∧
        control.get? "Margin" =
          if (n.nativeGrid.evenMargins (n.nativeGrid.placement child index)).isZero then none
          else some (n.nativeGrid.evenMargins (n.nativeGrid.placement child index)).text) ∧
      ∀ i j a b, n.shown[i]? = some a → n.shown[j]? = some b →
        (n.nativeGrid.placement a i).row < n.nativeGrid.rowCount →
        (n.nativeGrid.placement b j).row < n.nativeGrid.rowCount →
        ((n.nativeGrid.placement a i).column + (n.nativeGrid.placement a i).columnSpan =
            (n.nativeGrid.placement b j).column →
          (n.nativeGrid.evenMargins (n.nativeGrid.placement a i)).right =
            (n.nativeGrid.evenMargins (n.nativeGrid.placement b j)).left) ∧
        ((n.nativeGrid.placement a i).row + (n.nativeGrid.placement a i).rowSpan = (n.nativeGrid.placement b j).row →
          (n.nativeGrid.evenMargins (n.nativeGrid.placement a i)).bottom =
            (n.nativeGrid.evenMargins (n.nativeGrid.placement b j)).top) := by
  have hd : (n.decision .builtin isRoot).useGridLayout = true := by
    rw [decision_builtin_of_isGrid hgrid]
  refine ⟨?_, ?_⟩
  · intro index child hchild hrow
    have hplaced := n.nativeGrid.placedAt_placement child index
    have hmargins := NativeGrid.margins_eq_evenMargins hrows hcolumns (hplaced.rows hrow) (hplaced.columns hcolumns).2
    have hvisible := NativeGrid.isVisible_evenMargins hrowGap hcolumnGap (n.nativeGrid.placement child index)
    refine ⟨_, getElem?_children_unboxed c hk hchild, ?_, ?_⟩
    · rw [cellControl_of_useGridLayout hd]
      exact n.nativeGrid.shownBy_place child index _
    · rw [cellControl_of_useGridLayout hd, NativeGrid.get?_place, get?_margin_looseControl hgrid, Option.or_none]
      unfold NativeGrid.attribute?
      rw [hmargins, hvisible]
      cases (n.nativeGrid.evenMargins (n.nativeGrid.placement child index)).isZero <;> simp
  · intro i j a b _ _ _ hrow
    have hcolumn := ((n.nativeGrid.placedAt_placement b j).columns hcolumns).1
    exact ⟨NativeGrid.evenMargins_right_eq_left one_le_trackSpan hcolumn,
      NativeGrid.evenMargins_bottom_eq_top one_le_trackSpan hrow⟩

/-- A row of three swatches with a gap between columns. -/
def swatchRow : SceneNode :=
  .mk [("type", .str "FRAME"), ("layoutMode", .str "GRID"), ("gridRowSizes", .arr [.obj [("type", .str "FLEX")]]),
      ("gridColumnSizes", .arr [.obj [("type", .str "FLEX")], .obj [("type", .str "FLEX")], .obj [("type", .str "FLEX")]]),
      ("gridColumnGap", .num (.whole 8))]
    (some [.mk [("type", .str "RECTANGLE")] none, .mk [("type", .str "RECTANGLE")] none,
      .mk [("type", .str "RECTANGLE")] none])

/-- The swatch in the middle has half of the gap on either side. -/
theorem margins_of_isGrid_swatchRow :
    swatchRow.isGrid = true ∧ 0 < swatchRow.nativeGrid.rowCount ∧ 0 < swatchRow.nativeGrid.columnCount ∧
      0 ≤ swatchRow.nativeGrid.rowGap ∧ 0 ≤ swatchRow.nativeGrid.columnGap ∧
      ∃ control, (swatchRow.buildIn .builtin true .root).value.unboxed.children[1]? = some control ∧
        control.get? "Grid.Column" = some "1" ∧ control.get? "Margin" = some "4,0,4,0" := by
  have hrowGap : 0 ≤ swatchRow.nativeGrid.rowGap := BitPattern.zero_le_iff.2 (.zero _)
  have hcolumnGap : 0 ≤ swatchRow.nativeGrid.columnGap := BitPattern.zero_le_iff.2 (.finite _ _ _)
  obtain ⟨hchildren, -⟩ := margins_of_isGrid .root (rfl : swatchRow.kind = .frame) rfl (by decide) (by decide) hrowGap
    hcolumnGap
  obtain ⟨control, hcontrol, hshown, hmargin⟩ := hchildren 1 (.mk [("type", .str "RECTANGLE")] none) rfl (by decide)
  exact ⟨rfl, by decide, by decide, hrowGap, hcolumnGap, control, hcontrol, hshown.column, hmargin⟩

end SceneNode

end SceneMarkup
