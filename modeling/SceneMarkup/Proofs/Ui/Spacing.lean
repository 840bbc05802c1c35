import SceneMarkup.Proofs.Decimal.Sign
import SceneMarkup.Proofs.Ui.StackGrid

/-!
# Spacing between siblings

With the built-in rules the spacing of a vertical or horizontal layout becomes a margin of each child but the first, and of
nothing else (`SceneNode.margin_of_not_isGrid`): the margin is on the control of the child, not on a container in its box.
-/

namespace SceneMarkup

open Rule (Engine)

/-- The margin that keeps a child apart from the one before it: above it in a vertical layout, to the left of it in a
horizontal one, and half of it on all sides where a horizontal layout wraps. -/
def spacingText (mode wrap : String) (spacing : Float) : String :=
  if mode = "VERTICAL" then "0," ++ formatNumber spacing ++ ",0,0"
  else if wrap = "WRAP" then formatNumber (spacing / 2)
  else formatNumber spacing ++ ",0,0,0"

/-- A child is kept apart from the one before it if there is one, the spacing is above zero, and the layout has a direction. -/
theorem spacingMargin?_eq {c : BuildContext} {mode wrap : String} (hlayout : c.parentLayout = ParentLayout.ofLayout mode wrap)
    (hspacing : c.parentSpacing ≤ 0 ↔ ¬0 < c.parentSpacing) :
    spacingMargin? c =
      if c.isFirstChild = false ∧ 0 < c.parentSpacing ∧ (mode = "VERTICAL" ∨ mode = "HORIZONTAL") then
        some (spacingText mode wrap c.parentSpacing)
      else none := by
  unfold spacingMargin? spacingText
  rw [hlayout]
  unfold ParentLayout.ofLayout
  by_cases hfirst : c.isFirstChild = true
  · simp [hfirst]
  · rw [Bool.not_eq_true] at hfirst
    by_cases hpositive : 0 < c.parentSpacing
    · by_cases hvertical : mode = "VERTICAL"
      · simp [hfirst, hspacing, hpositive, hvertical]
      · by_cases hhorizontal : mode = "HORIZONTAL"
        · by_cases hwrap : wrap = "WRAP" <;> simp [hfirst, hspacing, hpositive, hhorizontal, hwrap]
        · simp [hfirst, hspacing, hpositive, hvertical, hhorizontal]
    · simp [hspacing, hpositive]

namespace SceneNode

open BitPattern (IsNumber read)

/-- An attribute that is read as a number is one. -/
theorem isNumber_numberOr (n : SceneNode) (key : String) : IsNumber (read (n.numberOr key 0).toBits.toBitVec) := by
  have hzero : IsNumber (read (0 : Float).toBits.toBitVec) := isNumber_of_isFinite rfl
  unfold numberOr number?
  cases n.get? key with
  | none => exact hzero
  | some v =>
    cases v with
    | num x => exact x.isNumber_toFloat
    | _ => exact hzero

variable {isRoot : Bool} {n : SceneNode}

/-- With the built-in rules only a grid is laid out in a grid of its own. -/
theorem useGridLayout_builtin_of_not_isGrid (h : n.isGrid = false) : (n.decision .builtin isRoot).useGridLayout = false := by
  cases hl : (n.decision .builtin isRoot).useGridLayout with
  | false => rfl
  | true =>
    have hgrid : (false || n.isGrid) = true := reads_cells_of_useGridLayout (.inr Engine.builtin_discreet) n isRoot hl
    rw [h] at hgrid
    nomatch hgrid

/-- With the built-in rules the children of a frame that is no grid are kept apart as its layout says. -/
theorem get?_margin_cellControl (hgrid : n.isGrid = false) (index : Nat) (child : SceneNode) :
    (n.cellControl .builtin isRoot index child).get? "Margin" =
      if 0 < index ∧ 0 < n.numberOr "itemSpacing" 0 ∧
          (n.stringOr "layoutMode" "NONE" = "VERTICAL" ∨ n.stringOr "layoutMode" "NONE" = "HORIZONTAL") ∧
          child.kind.isKnown = true then
        some (spacingText (n.stringOr "layoutMode" "NONE") (n.stringOr "layoutWrap" "NO_WRAP") (n.numberOr "itemSpacing" 0))
      else none := by
  -- The context of the child is named, so that no step below computes what the rules decide.
  obtain ⟨context, hcontext⟩ : ∃ context, (n.plan .builtin isRoot).contextAt index child = context := ⟨_, rfl⟩
  have hspacing : context.parentSpacing = n.numberOr "itemSpacing" 0 := hcontext ▸ rfl
  have hlayout : context.parentLayout =
      ParentLayout.ofLayout (n.stringOr "layoutMode" "NONE") (n.stringOr "layoutWrap" "NO_WRAP") := hcontext ▸ rfl
  have hfirst : context.isFirstChild = false ↔ 0 < index := by
    rw [← hcontext, ChildPlan.contextAt, decide_eq_false_iff_not]
    exact Nat.pos_iff_ne_zero.symm
  have hsign : context.parentSpacing ≤ 0 ↔ ¬0 < context.parentSpacing := by
    rw [hspacing]
    exact le_zero_iff_not_lt (n.isNumber_numberOr "itemSpacing")
  rw [get?_cellControl_of_notMem (useGridLayout_builtin_of_not_isGrid hgrid) (by decide), looseControl, hcontext,
    get?_margin_buildIn (Engine.notMem_attributeNames_builtin (by decide)), spacingMargin?_eq hlayout hsign, hspacing]
  simp only [hfirst]
  by_cases hknown : child.kind.isKnown = true
  · simp only [hknown, if_true, and_true]
  · simp only [hknown, Bool.false_eq_true, if_false, and_false]

/-- The cell of a child does not change what its control is. -/
theorem bare_cellControl (g : Engine) (isRoot : Bool) (n : SceneNode) (index : Nat) (child : SceneNode) :
    (n.cellControl g isRoot index child).bare = (n.looseControl g isRoot index child).bare :=
  bare_place ..

section

variable (g : Engine) (isRoot : Bool) (n : SceneNode) (index : Nat) {child : SceneNode} (hk : child.kind = .frame)

include hk

/-- The control of a child that is a frame is a box exactly if the child is decorated. -/
theorem kind_cellControl_eq_box_iff : (n.cellControl g isRoot index child).kind = .box ↔ isDecorated child = true := by
  rw [(UiNode.bare_eq_iff.1 (bare_cellControl g isRoot n index child)).1]
  exact kind_eq_box_iff g false _ hk

/-- In the box of a child that is a frame there is its container, which has no margin. -/
theorem margin_of_boxed (hbox : (n.cellControl g isRoot index child).kind = .box) :
    ∃ container, (n.cellControl g isRoot index child).children = [container] ∧ container.get? "Margin" = none := by
  have hd := (kind_cellControl_eq_box_iff g isRoot n index hk).1 hbox
  have hloose : (n.looseControl g isRoot index child).children = [child.filledContainer g false] :=
    (boxed_of_isDecorated g false _ hk hd).2
  obtain ⟨-, hchildren, -⟩ := UiNode.bare_eq_iff.1 (bare_cellControl g isRoot n index child)
  exact ⟨_, hchildren.trans hloose, get?_filledContainer_of_notMem false (by decide)⟩

end

/-- With the built-in rules, in a frame that is no grid, the control of a child has a margin exactly if the child is not the
first one, the spacing is above zero, the layout is vertical or horizontal, and the child is a frame, a rectangle or a text. The
margin is the spacing before the child, or half of it on all sides where the layout wraps. If the child is a frame in a box, the
container in the box has none. -/
theorem margin_of_not_isGrid (c : BuildContext) (hk : n.kind = .frame) (hgrid : n.isGrid = false) {index : Nat}
    {child : SceneNode} (hchild : n.shown[index]? = some child) :
    ∃ control, (n.buildIn .builtin isRoot c).value.unboxed.children[index]? = some control ∧
      (control.get? "Margin" =
        if 0 < index ∧ 0 < n.numberOr "itemSpacing" 0 ∧
            (n.stringOr "layoutMode" "NONE" = "VERTICAL" ∨ n.stringOr "layoutMode" "NONE" = "HORIZONTAL") ∧
            child.kind.isKnown = true then
          some (spacingText (n.stringOr "layoutMode" "NONE") (n.stringOr "layoutWrap" "NO_WRAP") (n.numberOr "itemSpacing" 0))
        else none) ∧
      (child.kind = .frame → control.kind = .box →
        ∃ container, control.children = [container] ∧ container.get? "Margin" = none) :=
  ⟨_, getElem?_children_unboxed c hk hchild, get?_margin_cellControl hgrid index child,
    margin_of_boxed .builtin isRoot n index⟩

/-- A frame with a border. -/
def borderedFrame : SceneNode :=
  .mk [("type", .str "FRAME"), ("strokes", .arr [.obj []])] none

/-- A column in which a frame with a border comes after a square and a node that is hidden. -/
def spacedColumn : SceneNode :=
  .mk [("type", .str "FRAME"), ("layoutMode", .str "VERTICAL"), ("layoutWrap", .str "WRAP"), ("itemSpacing", .num (.whole 8))]
    (some [.mk [("type", .str "RECTANGLE")] none, .mk [("type", .str "TEXT"), ("visible", .bool false)] none, borderedFrame])

/-- The frame is kept apart from the square by a margin of its box, and the container in the box has none. -/
theorem margin_of_not_isGrid_spacedColumn :
    spacedColumn.kind = .frame ∧ spacedColumn.isGrid = false ∧ spacedColumn.shown[1]? = some borderedFrame ∧
      ∃ control container, (spacedColumn.buildIn .builtin true .root).value.unboxed.children[1]? = some control ∧
        control.get? "Margin" = some "0,8,0,0" ∧ control.children = [container] ∧ container.get? "Margin" = none := by
  have hshown : spacedColumn.shown[1]? = some borderedFrame := rfl
  have hcell : (spacedColumn.buildIn .builtin true .root).value.unboxed.children[1]? =
      some (spacedColumn.cellControl .builtin true 1 borderedFrame) := getElem?_children_unboxed .root rfl hshown
  obtain ⟨control, hcontrol, hmargin, hboxed⟩ := margin_of_not_isGrid .root (rfl : spacedColumn.kind = .frame) rfl hshown
  obtain rfl := Option.some.inj (hcontrol.symm.trans hcell)
  have hpositive : (0 : Float) < spacedColumn.numberOr "itemSpacing" 0 := by decide
  rw [if_pos ⟨Nat.one_pos, hpositive, .inl rfl, rfl⟩] at hmargin
  have hbox := (kind_cellControl_eq_box_iff .builtin true spacedColumn 1 (rfl : borderedFrame.kind = .frame)).2 rfl
  obtain ⟨container, hchildren, hnone⟩ := hboxed rfl hbox
  exact ⟨rfl, rfl, hshown, _, container, hcell, hmargin, hchildren, hnone⟩

end SceneNode

end SceneMarkup
