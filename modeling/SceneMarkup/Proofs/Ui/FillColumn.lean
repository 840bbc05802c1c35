import SceneMarkup.Proofs.Rule.Builtin
import SceneMarkup.Proofs.Ui.Attributes

/-!
# Columns that take the space that is left

A grid that stands in for a stack has a column for each child, or three columns between which the children are spread. A child
is told that its column takes the space that is left if it fills, or is the last one of a top-level frame. That is so in a
column of its own; of the three columns it is the one in the middle that takes the space, and no child is told so
(`SceneNode.width_eq_none_iff_star_iff`).
-/

namespace SceneMarkup

open Rule (Engine)

/-- The column of a child that has one of its own takes the space that is left if the child fills or is the last one of a
top-level frame. -/
theorem getElem?_childColumns (isRoot : Bool) {children : List SceneNode} {index : Nat} {child : SceneNode}
    (h : children[index]? = some child) :
    (childColumns isRoot children)[index]? =
      some (if child.fillsWidth || (isRoot && decide (index + 1 = children.length)) then "*" else "Auto") := by
  induction children generalizing index with
  | nil => nomatch h
  | cons first rest ih =>
    unfold childColumns
    cases index with
    | zero =>
      obtain rfl : first = child := Option.some.inj h
      cases rest <;> simp
    | succ index =>
      rw [List.getElem?_cons_succ] at h ⊢
      rw [ih h]
      simp

/-- Of the columns between which children are spread, those of the first and the last child are as wide as they need. -/
theorem getElem?_spreadTracks (index count : Nat) :
    spreadTracks[spreadTrack index count]? = some (if index = 0 ∨ index + 1 = count then "Auto" else "*") := by
  unfold spreadTrack
  by_cases hfirst : index = 0
  · rw [if_pos hfirst, if_pos (.inl hfirst)]
    rfl
  · by_cases hlast : index + 1 = count
    · rw [if_neg hfirst, if_pos hlast, if_pos (.inr hlast)]
      rfl
    · rw [if_neg hfirst, if_neg hlast, if_neg (by omega)]
      rfl

namespace SceneNode

variable {g : Engine} {isRoot : Bool} {n child : SceneNode} {index : Nat}

/-- A node of a fixed width does not fill. -/
theorem fillsWidth_of_fixed (h : child.stringOr "layoutSizingHorizontal" "FIXED" = "FIXED") : child.fillsWidth = false := by
  rw [fillsWidth, h]
  rfl

/-- Without a rule for it, the width of a rectangle is left out where the rectangle takes all the space there is, or is told
that its column does. -/
theorem get?_width_rectangle (hrules : ∀ control, "Width" ∉ g.attributeNames control) (hr : child.kind = .rectangle)
    (c : BuildContext) :
    (child.buildIn g false c).value.get? "Width" =
      if !takesAllSpace g (child.stringOr "layoutSizingHorizontal" "FIXED") (child.stringOr "layoutAlign" "INHERIT") &&
        !c.inFillColumn && g.setsDimension (child.stringOr "layoutSizingHorizontal" "FIXED") then dimension? child "width"
      else none := by
  have hframe : child.kind ≠ .frame := by
    rw [hr]
    decide
  rw [value_buildIn, if_neg hframe]
  unfold leafOf
  simp only [hr, get?_applyAttributeRules_of_notMem hrules]
  unfold rectangleBox
  simp [UiNode.get?_setSome, UiNode.get?_set, UiNode.get?_ite]

/-- With the built-in rules a rectangle of a fixed width that does not stretch has that width, unless it is told that its
column takes the space that is left. -/
theorem get?_width_fixed_rectangle (hr : child.kind = .rectangle)
    (hsizing : child.stringOr "layoutSizingHorizontal" "FIXED" = "FIXED")
    (halign : child.stringOr "layoutAlign" "INHERIT" ≠ "STRETCH") (c : BuildContext) :
    (child.buildIn .builtin false c).value.get? "Width" = if c.inFillColumn then none else dimension? child "width" := by
  obtain ⟨hsets, hstretches⟩ := Engine.setsDimension_builtin_fixed
  rw [get?_width_rectangle (Engine.notMem_attributeNames_builtin (by decide)) hr, hsizing, hsets, takesAllSpace, hstretches]
  cases c.inFillColumn <;> simp [halign]

/-- Children that are spread are put into one of three columns. -/
theorem cells_of_spread (hd : n.decision g isRoot = ⟨.grid, some .horizontal, true, false, true⟩) (index : Nat)
    (child : SceneNode) :
    (n.container g isRoot).columns = spreadTracks ∧
      n.cellControl g isRoot index child =
        (n.looseControl g isRoot index child).set "Grid.Column" (toString (spreadTrack index n.shown.length)) := by
  unfold container cellControl plan
  rw [hd]
  exact ⟨rfl, rfl⟩

/-- Children with columns of their own are put into them in their order. -/
theorem cells_of_own (hd : n.decision g isRoot = ⟨.grid, none, true, false, false⟩) (index : Nat)
    (child : SceneNode) :
    (n.container g isRoot).columns = childColumns isRoot n.shown ∧
      n.cellControl g isRoot index child = (n.looseControl g isRoot index child).set "Grid.Column" (toString index) := by
  unfold container cellControl plan
  rw [hd]
  exact ⟨rfl, rfl⟩

/-- In a grid that stands in for a stack every child has a column: its own, which takes the space that is left if the child
fills or is the last one of a top-level frame, or one of three, of which the one in the middle takes it. -/
theorem column_of_useGrid (hd : (n.decision .builtin isRoot).useGrid = true) (hchild : n.shown[index]? = some child) :
    ∃ (column : Nat) (track : String),
      (n.cellControl .builtin isRoot index child).get? "Grid.Column" = some (toString column) ∧
      (n.container .builtin isRoot).columns[column]? = some track ∧
      (track = "*" ↔ if (n.decision .builtin isRoot).spaceBetween then ¬(index = 0 ∨ index + 1 = n.shown.length)
        else child.fillsWidth = true ∨ isRoot = true ∧ index + 1 = n.shown.length) := by
  rcases Engine.useGrid_builtin_cases hd with hspread | hown
  · obtain ⟨hcolumns, hcell⟩ := cells_of_spread hspread index child
    refine ⟨_, _, ?_, hcolumns ▸ getElem?_spreadTracks index n.shown.length, ?_⟩
    · rw [hcell, UiNode.get?_set, if_pos rfl]
    · have hdecision : (n.decision .builtin isRoot).spaceBetween = true := by
        rw [decision, hspread]
      rw [hdecision]
      by_cases hedge : index = 0 ∨ index + 1 = n.shown.length <;> simp [hedge]
  · obtain ⟨hcolumns, hcell⟩ := cells_of_own hown index child
    refine ⟨_, _, ?_, hcolumns ▸ getElem?_childColumns isRoot hchild, ?_⟩
    · rw [hcell, UiNode.get?_set, if_pos rfl]
    · have hdecision : (n.decision .builtin isRoot).spaceBetween = false := by
        rw [decision, hown]
      rw [hdecision]
      cases child.fillsWidth <;> cases isRoot <;> simp

/-- In a grid that stands in for a stack a rectangle of a fixed width that does not stretch leaves its width out only at the
end of a top-level frame. -/
theorem get?_width_cellControl (hd : (n.decision .builtin isRoot).useGrid = true) (hr : child.kind = .rectangle)
    (hsizing : child.stringOr "layoutSizingHorizontal" "FIXED" = "FIXED")
    (halign : child.stringOr "layoutAlign" "INHERIT" ≠ "STRETCH") :
    (n.cellControl .builtin isRoot index child).get? "Width" =
      if isRoot = true ∧ index + 1 = n.shown.length then none else dimension? child "width" := by
  have hloose : (n.cellControl .builtin isRoot index child).get? "Width" =
      (n.looseControl .builtin isRoot index child).get? "Width" := by
    rcases Engine.useGrid_builtin_cases hd with hspread | hown
    · rw [(cells_of_spread hspread index child).2, UiNode.get?_set, if_neg (by decide)]
    · rw [(cells_of_own hown index child).2, UiNode.get?_set, if_neg (by decide)]
  have hfillColumn : ((n.plan .builtin isRoot).contextAt index child).inFillColumn =
      (isRoot && decide (index + 1 = n.shown.length)) := by
    have hgrid : (n.plan .builtin isRoot).decision.useGrid = true := hd
    unfold ChildPlan.contextAt
    rw [hgrid, fillsWidth_of_fixed hsizing]
    rfl
  rw [hloose, looseControl, get?_width_fixed_rectangle hr hsizing halign, hfillColumn]
  simp only [Bool.and_eq_true, decide_eq_true_eq]

/-- In a grid that stands in for a stack, a rectangle of a fixed width that does not stretch leaves its width out exactly in a
column that takes the space that is left, if it has a column of its own. Where children are spread, that is so exactly for the
first and the last child, and for the last one only if the frame is not a top-level one. -/
theorem width_eq_none_iff_star_iff (c : BuildContext) (hk : n.kind = .frame)
    (hd : (n.decision .builtin isRoot).useGrid = true) (hchild : n.shown[index]? = some child)
    (hr : child.kind = .rectangle) (hsizing : child.stringOr "layoutSizingHorizontal" "FIXED" = "FIXED")
    (halign : child.stringOr "layoutAlign" "INHERIT" ≠ "STRETCH") {width : Float}
    (hwidth : child.number? "width" = some width) (hzero : (width != 0) = true) :
    ∃ (control : UiNode) (column : Nat) (track : String),
      (n.buildIn .builtin isRoot c).value.unboxed.children[index]? = some control ∧
      control.get? "Grid.Column" = some (toString column) ∧
      (n.buildIn .builtin isRoot c).value.unboxed.columns[column]? = some track ∧
      ((control.get? "Width" = none ↔ track = "*") ↔
        ((n.decision .builtin isRoot).spaceBetween = true →
          (index = 0 ∨ index + 1 = n.shown.length) ∧ ¬(isRoot = true ∧ index + 1 = n.shown.length))) := by
  obtain ⟨column, track, hcolumn, htrack, hstar⟩ := column_of_useGrid hd hchild
  have hdimension : dimension? child "width" = some (formatNumber width) := by
    unfold dimension?
    rw [hwidth]
    exact if_pos hzero
  have habsent : (n.cellControl .builtin isRoot index child).get? "Width" = none ↔
      isRoot = true ∧ index + 1 = n.shown.length := by
    rw [get?_width_cellControl hd hr hsizing halign, hdimension]
    simp
  refine ⟨_, column, track, getElem?_children_unboxed c hk hchild, hcolumn, ?_, ?_⟩
  · rw [columns_unboxed c hk]
    exact htrack
  · rw [habsent, hstar, fillsWidth_of_fixed hsizing]
    cases (n.decision .builtin isRoot).spaceBetween with
    | false => simp
    | true =>
      -- the last child is one at the edge, where the column is no star
      have hedge : isRoot = true ∧ index + 1 = n.shown.length → index = 0 ∨ index + 1 = n.shown.length := fun h => .inr h.2
      simp only [if_true, true_implies]
      by_cases h : index = 0 ∨ index + 1 = n.shown.length
      · simp only [h, not_true_eq_false, iff_false, true_and]
      · have hnot := mt hedge h
        simp only [h, hnot, not_false_eq_true, iff_true, false_and]

/-- A square of a fixed width. -/
def fixedSquare : SceneNode :=
  .mk [("type", .str "RECTANGLE"), ("width", .num (.whole 10))] none

/-- A row that spreads three squares. -/
def spreadRow : SceneNode :=
  .mk [("type", .str "FRAME"), ("layoutMode", .str "HORIZONTAL"), ("primaryAxisAlignItems", .str "SPACE_BETWEEN")]
    (some [fixedSquare, fixedSquare, fixedSquare])

/-- The row becomes a grid of three columns. -/
theorem decision_spreadRow : spreadRow.decision .builtin false = ⟨.grid, some .horizontal, true, false, true⟩ := by
  have hmode : ((FrameLayout.of spreadRow).context false).get? "layout_mode" = some (.str "HORIZONTAL") := rfl
  have hwrap : ((FrameLayout.of spreadRow).context false).get? "layout_wrap" = some (.str "NO_WRAP") := rfl
  have halign : ((FrameLayout.of spreadRow).context false).get? "primary_axis_align" = some (.str "SPACE_BETWEEN") := rfl
  have hcount : ((FrameLayout.of spreadRow).context false).get? "visible_children_count" = some (.number 3) := rfl
  have hmore : Rule.Value.orderNumbers? 3 1 = some .gt := rfl
  rw [decision]
  exact Engine.selectContainer_builtin_spread hmode hwrap (by decide) halign hcount hmore

/-- The first square is in a column that is as wide as it needs, and has its width. -/
theorem width_eq_none_iff_star_spreadRow :
    (spreadRow.decision .builtin false).useGrid = true ∧ ((10 : Float) != 0) = true ∧
      ∃ (control : UiNode) (column : Nat) (track : String),
        (spreadRow.buildIn .builtin false .root).value.unboxed.children[0]? = some control ∧
          control.get? "Grid.Column" = some (toString column) ∧
          (spreadRow.buildIn .builtin false .root).value.unboxed.columns[column]? = some track ∧
          (control.get? "Width" = none ↔ track = "*") := by
  have hd : (spreadRow.decision .builtin false).useGrid = true := by
    rw [decision_spreadRow]
  have hzero : ((10 : Float) != 0) = true := rfl
  obtain ⟨control, column, track, hcontrol, hcolumn, htrack, hiff⟩ := width_eq_none_iff_star_iff .root
    (rfl : spreadRow.kind = .frame) hd (rfl : spreadRow.shown[0]? = some fixedSquare) rfl rfl (by decide)
    (rfl : fixedSquare.number? "width" = some 10) hzero
  exact ⟨hd, hzero, control, column, track, hcontrol, hcolumn, htrack, hiff.2 fun _ => ⟨.inl rfl, by simp⟩⟩

/-- The square in the middle is in the column that takes the space that is left, and still has its width. -/
theorem width_spreadRow :
    (spreadRow.decision .builtin false).useGrid = true ∧
      (spreadRow.buildIn .builtin false .root).value.unboxed.columns[1]? = some "*" ∧
      ∃ control, (spreadRow.buildIn .builtin false .root).value.unboxed.children[1]? = some control ∧
        control.get? "Grid.Column" = some "1" ∧ control.get? "Width" = dimension? fixedSquare "width" ∧
        dimension? fixedSquare "width" = some "10" := by
  have hd : (spreadRow.decision .builtin false).useGrid = true := by
    rw [decision_spreadRow]
  obtain ⟨hcolumns, hcell⟩ := cells_of_spread decision_spreadRow 1 fixedSquare
  refine ⟨hd, ?_, _, getElem?_children_unboxed .root (rfl : spreadRow.kind = .frame)
    (rfl : spreadRow.shown[1]? = some fixedSquare), ?_, ?_, ?_⟩
  · rw [columns_unboxed .root rfl, hcolumns]
    rfl
  · rw [hcell, UiNode.get?_set, if_pos rfl]
    rfl
  · exact get?_width_cellControl hd rfl rfl (by decide)
  · rfl

end SceneNode

end SceneMarkup
