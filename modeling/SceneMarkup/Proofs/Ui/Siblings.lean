import SceneMarkup.Proofs.Ui.Container
import SceneMarkup.Rule.Builtin

/-!
# Siblings are independent

Of a child of a frame, all that counts for the rest of the frame is whether it is visible and how it is sized horizontally. If
it is replaced by another visible child that is sized alike, then the frame has the same box and the same container, and every
other child has the same control in the same cell (`SceneNode.siblings_of_replaced`).
-/

namespace SceneMarkup

open Rule (Engine)

/-! ## Controls without contents -/

namespace UiNode

/-- A control without the controls inside it: its role, attributes, comment and tracks. -/
def shell (u : UiNode) : UiNode :=
  { u with children := [] }

variable (u : UiNode)

@[simp] theorem has_shell (name : String) : u.shell.has name = u.has name := rfl

@[simp] theorem shell_set (name value : String) : (u.set name value).shell = u.shell.set name value := rfl

@[simp] theorem shell_setSome (name : String) (value? : Option String) :
    (u.setSome name value?).shell = u.shell.setSome name value? := by
  cases value? <;> rfl

/-- What is put into a control does not change the control itself. -/
@[simp] theorem shell_addChild (child : UiNode) : (u.addChild child).shell = u.shell := rfl

end UiNode

section

variable (g : Engine) (n : SceneNode) (c : BuildContext) (l : FrameLayout) (isRoot : Bool) (u : UiNode)

/-- The attribute rules do not ask what is inside a control. -/
theorem shell_applyAttributeRules :
    (applyAttributeRules g n c u).value.shell = (applyAttributeRules g n c u.shell).value := by
  have hadd : ∀ control context names (u : UiNode), (addRuleAttributes g control context names u).value.shell =
      (addRuleAttributes g control context names u.shell).value := by
    intro control context names
    -- The control grows with every name, so it stays general.
    induction names with
    | nil => exact fun u => rfl
    | cons name rest ih =>
      intro u
      unfold addRuleAttributes
      rw [UiNode.has_shell]
      split
      · exact ih u
      · rw [Logged.value_bind, Logged.value_bind, ih, UiNode.shell_setSome]
  have hkind : u.shell.kind = u.kind := rfl
  unfold applyAttributeRules
  rw [hkind]
  split
  · exact hadd ..
  · rfl

/-- The size of a frame does not hang on what is inside it. -/
theorem shell_withFrameSize : (withFrameSize g n l isRoot c u).shell = withFrameSize g n l isRoot c u.shell := by
  unfold withFrameSize
  simp [apply_ite UiNode.shell]

/-- A frame is finished whatever is inside its container. -/
theorem shell_finishFrame :
    (finishFrame g n l isRoot c u).shell = (finishFrame g n l isRoot c u.shell).shell := by
  have hmargin : ∀ v w : UiNode, v.shell = w.shell →
      (if isRoot then v else v.setSome "Margin" (spacingMargin? c)).shell =
        (if isRoot then w else w.setSome "Margin" (spacingMargin? c)).shell := by
    intro v w hvw
    split
    · exact hvw
    · rw [UiNode.shell_setSome, UiNode.shell_setSome, hvw]
  unfold finishFrame
  refine hmargin _ _ ?_
  split
  · unfold frameBox
    rw [UiNode.shell_addChild, UiNode.shell_addChild]
  · rw [shell_withFrameSize, shell_withFrameSize]
    rfl

end

namespace SceneNode

section

variable {g : Engine} {isRoot : Bool} {n : SceneNode} (c : BuildContext) (hk : n.kind = .frame)

include hk

/-- What a frame is without its children hangs on its attributes and its container. -/
theorem shell_buildIn_frame :
    (n.buildIn g isRoot c).value.shell =
      (applyAttributeRules g n c
        (finishFrame g n (FrameLayout.of n) isRoot c (n.container g isRoot).shell).shell).value := by
  have hfilled : (n.filledContainer g isRoot).shell = (n.container g isRoot).shell := rfl
  rw [value_buildIn_frame g isRoot c hk, shell_applyAttributeRules, shell_finishFrame, hfilled]

/-- What the container of a frame is without the children: the container of the rules in a box, or else the frame itself. -/
theorem shell_unboxed :
    (n.buildIn g isRoot c).value.unboxed.shell =
      if isDecorated n then (n.container g isRoot).shell else (n.buildIn g isRoot c).value.shell := by
  cases hd : isDecorated n with
  | true =>
    rw [unboxed_of_isDecorated g isRoot c hk hd]
    rfl
  | false =>
    rw [unboxed_of_not_isDecorated g isRoot c hk hd]
    rfl

end

/-! ## One child among others -/

/-- Two frames are the same but for the control at one place in their containers, which is `x` in the first and `y` in the
second: the frames, and the containers in them, have the same role, attributes, comment and tracks, a box has nothing in it but
the container, and all other controls in the container are the same. -/
structure ReplacedAt (place : Nat) (x y u v : UiNode) : Prop where
  frame : u.shell = v.shell
  container : u.unboxed.shell = v.unboxed.shell
  boxed : u.kind = .box → u.children = [u.unboxed] ∧ v.children = [v.unboxed]
  others : ∃ earlier later : List UiNode, earlier.length = place ∧ u.unboxed.children = earlier ++ x :: later ∧
    v.unboxed.children = earlier ++ y :: later

/-- A node with one child among others. -/
def withChild (attributes : Fields) (before after : List SceneNode) (child : SceneNode) : SceneNode :=
  .mk attributes (some (before ++ child :: after))

section

variable {g : Engine} {isRoot : Bool} {attributes : Fields} {before after : List SceneNode} {a b : SceneNode}

/-- A visible child stands among the other visible ones. -/
theorem shown_withChild (ha : a.isVisible = true) :
    (withChild attributes before after a).shown = before.filter isVisible ++ a :: after.filter isVisible := by
  have hchildren : (withChild attributes before after a).children = before ++ a :: after := rfl
  rw [shown, hchildren, List.filter_append, List.filter_cons_of_pos ha]

/-- The container of a frame, and the control of a child at a place, are the same with another child that is sized alike. -/
theorem container_withChild (g : Engine) (isRoot : Bool) (attributes : Fields) (before after : List SceneNode)
    (ha : a.isVisible = true) (hb : b.isVisible = true)
    (hsizing : a.stringOr "layoutSizingHorizontal" "FIXED" = b.stringOr "layoutSizingHorizontal" "FIXED") :
    (withChild attributes before after a).container g isRoot = (withChild attributes before after b).container g isRoot ∧
      (withChild attributes before after a).cellControl g isRoot =
        (withChild attributes before after b).cellControl g isRoot := by
  have hfill : a.fillsWidth = b.fillsWidth := by
    rw [fillsWidth, fillsWidth, hsizing]
  have hfills : (withChild attributes before after a).shown.map fillsWidth =
      (withChild attributes before after b).shown.map fillsWidth := by
    rw [shown_withChild ha, shown_withChild hb]
    simp [hfill]
  have hagrees : (withChild attributes before after a).Agrees (withChild attributes before after b) :=
    agrees_of_attributes rfl
  exact hagrees.container_eq g isRoot hfills

/-- The controls in the container of a frame: that of a visible child stands among those of the others. -/
theorem children_withChild (c : BuildContext) (hk : (withChild attributes before after a).kind = .frame)
    (ha : a.isVisible = true) :
    ((withChild attributes before after a).buildIn g isRoot c).value.unboxed.children =
      (before.filter isVisible).mapIdx ((withChild attributes before after a).cellControl g isRoot) ++
        (withChild attributes before after a).cellControl g isRoot (before.filter isVisible).length a ::
          (after.filter isVisible).mapIdx fun index child =>
            (withChild attributes before after a).cellControl g isRoot (index + 1 + (before.filter isVisible).length)
              child := by
  rw [children_unboxed c hk, shown_withChild ha, List.mapIdx_append, List.mapIdx_cons, Nat.zero_add]

/-- Siblings are independent: if a visible child of a frame is replaced by another one that is sized alike horizontally, only
its own control changes. The frame is in a box as before, with the same attributes, the container has the same role, tracks and
attributes, and the controls of all other children are the same, in the same cells and with the same margins. -/
theorem siblings_of_replaced (g : Engine) (isRoot : Bool) (c : BuildContext)
    (hk : (withChild attributes before after a).kind = .frame) (ha : a.isVisible = true) (hb : b.isVisible = true)
    (hsizing : a.stringOr "layoutSizingHorizontal" "FIXED" = b.stringOr "layoutSizingHorizontal" "FIXED") :
    ReplacedAt (before.filter isVisible).length
      ((withChild attributes before after a).cellControl g isRoot (before.filter isVisible).length a)
      ((withChild attributes before after b).cellControl g isRoot (before.filter isVisible).length b)
      ((withChild attributes before after a).buildIn g isRoot c).value
      ((withChild attributes before after b).buildIn g isRoot c).value := by
  have hkb : (withChild attributes before after b).kind = .frame := hk
  have hdecorated : isDecorated (withChild attributes before after a) = isDecorated (withChild attributes before after b) := rfl
  obtain ⟨hcontainer, hcells⟩ := container_withChild g isRoot attributes before after ha hb hsizing
  have hshell : ((withChild attributes before after a).buildIn g isRoot c).value.shell =
      ((withChild attributes before after b).buildIn g isRoot c).value.shell := by
    rw [shell_buildIn_frame c hk, shell_buildIn_frame c hkb, hcontainer]
    -- What else is asked of the frame is told by its attributes.
    rfl
  refine ⟨hshell, ?_, ?_, ?_⟩
  · rw [shell_unboxed c hk, shell_unboxed c hkb, hdecorated, hcontainer, hshell]
  · intro hbox
    have hda := (kind_eq_box_iff g isRoot c hk).1 hbox
    have hdb := hdecorated.symm.trans hda
    rw [unboxed_of_isDecorated g isRoot c hk hda, unboxed_of_isDecorated g isRoot c hkb hdb]
    exact ⟨(boxed_of_isDecorated g isRoot c hk hda).2, (boxed_of_isDecorated g isRoot c hkb hdb).2⟩
  · refine ⟨(before.filter isVisible).mapIdx ((withChild attributes before after b).cellControl g isRoot),
      (after.filter isVisible).mapIdx fun index child =>
        (withChild attributes before after b).cellControl g isRoot (index + 1 + (before.filter isVisible).length) child,
      List.length_mapIdx, ?_, ?_⟩
    · rw [children_withChild c hk ha, hcells]
    · rw [children_withChild c hkb hb]

end

/-- A heading that is as wide as its text. -/
def heading : SceneNode :=
  .mk [("type", .str "TEXT"), ("layoutSizingHorizontal", .str "HUG")] none

/-- A group of two headings with a background, which is as wide as they are. -/
def headings : SceneNode :=
  .mk [("type", .str "FRAME"), ("layoutSizingHorizontal", .str "HUG"), ("fills", .arr [.obj []])] (some [heading, heading])

/-- A row of a square, some child and a text that takes the width that is left, with a hidden text before them. -/
def rowAround (child : SceneNode) : SceneNode :=
  withChild [("type", .str "FRAME"), ("layoutMode", .str "HORIZONTAL"), ("itemSpacing", .num (.whole 8))]
    [.mk [("type", .str "TEXT"), ("visible", .bool false)] none, .mk [("type", .str "RECTANGLE")] none]
    [.mk [("type", .str "TEXT"), ("layoutSizingHorizontal", .str "FILL")] none] child

/-- A group of headings in place of a heading leaves the square and the text in the row as they are. -/
theorem siblings_of_replaced_rowAround :
    (rowAround heading).kind = .frame ∧ heading.isVisible = true ∧ headings.isVisible = true ∧
      heading.stringOr "layoutSizingHorizontal" "FIXED" = headings.stringOr "layoutSizingHorizontal" "FIXED" ∧
      ReplacedAt 1 ((rowAround heading).cellControl .builtin true 1 heading)
        ((rowAround headings).cellControl .builtin true 1 headings) ((rowAround heading).buildIn .builtin true .root).value
        ((rowAround headings).buildIn .builtin true .root).value := by
  have hk : (rowAround heading).kind = .frame := rfl
  have hsizing : heading.stringOr "layoutSizingHorizontal" "FIXED" = headings.stringOr "layoutSizingHorizontal" "FIXED" := rfl
  exact ⟨hk, rfl, rfl, hsizing, siblings_of_replaced .builtin true .root hk rfl rfl hsizing⟩

end SceneNode

end SceneMarkup
