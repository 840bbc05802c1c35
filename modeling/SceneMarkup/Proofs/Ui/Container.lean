import SceneMarkup.Proofs.Ui.Agreement
import SceneMarkup.Proofs.Ui.Outline

/-!
# The container of a frame

Whether a frame has a box or not, there is one container in its control (`UiNode.unboxed`), with the tracks that follow from
the decision of the rules (`SceneNode.form_unboxed`). In it each visible child has its control at its own place in the
order of children, put into its cell (`SceneNode.children_unboxed`).
-/

namespace SceneMarkup

open Rule (ContainerDecision Engine)

/-- The control in a box that has one in it; any other control itself. -/
def UiNode.unboxed (u : UiNode) : UiNode :=
  if u.kind = .box then u.children.headD u else u

namespace SceneNode

variable (g : Engine) (isRoot : Bool) (n : SceneNode)

/-- The visible children of a node. -/
def shown (n : SceneNode) : List SceneNode :=
  n.children.filter isVisible

/-- What the container rules decide for a frame. -/
def decision : ContainerDecision :=
  (g.selectContainer ((FrameLayout.of n).context isRoot)).value

/-- The container of a frame without its children. -/
def container : UiNode :=
  withTracks (n.decision g isRoot) n (FrameLayout.of n) isRoot (containerOf g (n.decision g isRoot) (FrameLayout.of n))

/-- What a frame does with its children. -/
def plan : ChildPlan :=
  ChildPlan.of (n.decision g isRoot) n (FrameLayout.of n) isRoot (n.container g isRoot)

/-- The control of a visible child at a place, before it is put into its cell. -/
def looseControl (index : Nat) (child : SceneNode) : UiNode :=
  (child.buildIn g false ((n.plan g isRoot).contextAt index child)).value

/-- The control of a visible child at a place, in its cell. -/
def cellControl (index : Nat) (child : SceneNode) : UiNode :=
  (n.plan g isRoot).place index child (n.looseControl g isRoot index child)

/-- A frame is planned by what the rules decide. -/
theorem value_planFrame : (planFrame g n isRoot).value = (n.container g isRoot, n.plan g isRoot) := rfl

/-- Frames that agree and whose children fill their widths alike have the same container, and put a child at a place into the
same control. -/
theorem Agrees.container_eq {m n : SceneNode} (h : m.Agrees n) (hfills : m.shown.map fillsWidth = n.shown.map fillsWidth) :
    m.container g isRoot = n.container g isRoot ∧ m.cellControl g isRoot = n.cellControl g isRoot := by
  have hplanned : (m.container g isRoot, m.plan g isRoot) = (n.container g isRoot, n.plan g isRoot) :=
    congrArg Logged.value (h.planFrame hfills g isRoot)
  rw [Prod.mk.injEq] at hplanned
  refine ⟨hplanned.1, ?_⟩
  funext index child
  unfold cellControl looseControl
  rw [hplanned.2]

/-- The controls of children are those of the visible ones, each put into its place. -/
theorem value_buildChildren (p : ChildPlan) (children : List SceneNode) (index : Nat) :
    (buildChildren g p index children).value =
      (children.filter isVisible).mapIdx fun i child =>
        p.place (index + i) child (child.buildIn g false (p.contextAt (index + i) child)).value := by
  induction children generalizing index with
  | nil => rfl
  | cons child rest ih =>
    rw [value_buildChildren_cons, ih (index + 1), ih index, List.filter_cons]
    split
    · rw [List.mapIdx_cons]
      simp only [Nat.add_zero, Nat.add_assoc, Nat.add_comm 1]
    · rfl

/-- The container of a frame with the controls of its visible children, each in its cell. -/
def filledContainer : UiNode :=
  { n.container g isRoot with children := n.shown.mapIdx (n.cellControl g isRoot) }

/-- The container of a frame has the role of one. -/
theorem isContainer_filledContainer : (n.filledContainer g isRoot).kind.isContainer = true :=
  isContainer_planFrame g n isRoot

section

variable {n : SceneNode} (c : BuildContext) (hk : n.kind = .frame)

include hk

/-- A frame is finished around its container. -/
theorem value_buildIn_frame :
    (n.buildIn g isRoot c).value =
      (applyAttributeRules g n c (finishFrame g n (FrameLayout.of n) isRoot c (n.filledContainer g isRoot))).value := by
  have hchildren : (buildChildren g (n.plan g isRoot) 0 n.children).value = n.shown.mapIdx (n.cellControl g isRoot) := by
    have hmap := value_buildChildren g (n.plan g isRoot) n.children 0
    simp only [Nat.zero_add] at hmap
    exact hmap
  rw [value_buildIn, if_pos hk, value_planFrame, hchildren]
  rfl

/-- But for its attributes, a decorated frame is a box around its container, and any other frame its container. -/
theorem form_buildIn_frame :
    (n.buildIn g isRoot c).value.form =
      if isDecorated n then
        (((UiNode.ofKind .box).withComment (FrameLayout.of n).name).addChild (n.filledContainer g isRoot)).form
      else ((n.filledContainer g isRoot).withComment ((FrameLayout.of n).name ++ " container")).form := by
  rw [value_buildIn_frame g isRoot c hk, form_applyAttributeRules, form_finishFrame]

/-- A decorated frame is a box with its container in it. -/
theorem boxed_of_isDecorated (hd : isDecorated n = true) :
    (n.buildIn g isRoot c).value.kind = .box ∧
      (n.buildIn g isRoot c).value.children = [n.filledContainer g isRoot] := by
  have hform := form_buildIn_frame g isRoot c hk
  rw [if_pos hd] at hform
  obtain ⟨hkind, hchildren, -⟩ := UiNode.form_eq_iff.1 hform
  exact ⟨hkind, hchildren⟩

/-- A frame without decoration is its container, with another comment and other attributes. -/
theorem form_of_not_isDecorated (hd : isDecorated n = false) :
    (n.buildIn g isRoot c).value.form =
      ((n.filledContainer g isRoot).withComment ((FrameLayout.of n).name ++ " container")).form := by
  rw [form_buildIn_frame g isRoot c hk, if_neg (by simp [hd])]

/-- The control of a frame is a box exactly if the frame is decorated. -/
theorem kind_eq_box_iff : (n.buildIn g isRoot c).value.kind = .box ↔ isDecorated n = true := by
  cases hd : isDecorated n with
  | true => simp only [(boxed_of_isDecorated g isRoot c hk hd).1]
  | false =>
    have hkind := (UiNode.form_eq_iff.1 (form_of_not_isDecorated g isRoot c hk hd)).1
    have hbox := UiKind.ne_box_of_isContainer (isContainer_filledContainer g isRoot n)
    rw [hkind]
    exact iff_of_false hbox Bool.false_ne_true

/-- In the box of a decorated frame there is its container. -/
theorem unboxed_of_isDecorated (hd : isDecorated n = true) :
    (n.buildIn g isRoot c).value.unboxed = n.filledContainer g isRoot := by
  obtain ⟨hkind, hchildren⟩ := boxed_of_isDecorated g isRoot c hk hd
  rw [UiNode.unboxed, if_pos hkind, hchildren]
  rfl

/-- The control of a frame without decoration is in no box. -/
theorem unboxed_of_not_isDecorated (hd : isDecorated n = false) :
    (n.buildIn g isRoot c).value.unboxed = (n.buildIn g isRoot c).value := by
  have hkind : (n.buildIn g isRoot c).value.kind ≠ .box := by
    rw [Ne, kind_eq_box_iff g isRoot c hk, hd]
    exact Bool.false_ne_true
  rw [UiNode.unboxed, if_neg hkind]

/-- In the control of a frame, boxed or not, there is the container that the rules decide on, with the controls of the
children. -/
theorem form_unboxed :
    ∃ comment, (n.buildIn g isRoot c).value.unboxed.form =
      UiNode.form { n.filledContainer g isRoot with comment := comment } := by
  cases hd : isDecorated n with
  | true => exact ⟨_, congrArg UiNode.form (unboxed_of_isDecorated g isRoot c hk hd)⟩
  | false =>
    rw [unboxed_of_not_isDecorated g isRoot c hk hd]
    exact ⟨_, form_of_not_isDecorated g isRoot c hk hd⟩

end

section

variable {g : Engine} {isRoot : Bool} {n : SceneNode} (c : BuildContext) (hk : n.kind = .frame)

include hk

/-- The controls in the container of a frame are those of its visible children, each in its cell. -/
theorem children_unboxed : (n.buildIn g isRoot c).value.unboxed.children = n.shown.mapIdx (n.cellControl g isRoot) := by
  obtain ⟨comment, hform⟩ := form_unboxed g isRoot c hk
  exact (UiNode.form_eq_iff.1 hform).2.1

/-- The rows of the container of a frame are those that follow from the decision. -/
theorem rows_unboxed : (n.buildIn g isRoot c).value.unboxed.rows = (n.container g isRoot).rows := by
  obtain ⟨comment, hform⟩ := form_unboxed g isRoot c hk
  exact (UiNode.form_eq_iff.1 hform).2.2.2.1

/-- The columns of the container of a frame are those that follow from the decision. -/
theorem columns_unboxed : (n.buildIn g isRoot c).value.unboxed.columns = (n.container g isRoot).columns := by
  obtain ⟨comment, hform⟩ := form_unboxed g isRoot c hk
  exact (UiNode.form_eq_iff.1 hform).2.2.2.2

/-- At the place of a visible child there is its control, in its cell. -/
theorem getElem?_children_unboxed {index : Nat} {child : SceneNode} (hchild : n.shown[index]? = some child) :
    (n.buildIn g isRoot c).value.unboxed.children[index]? = some (n.cellControl g isRoot index child) := by
  rw [children_unboxed c hk, List.getElem?_mapIdx, hchild]
  rfl

end

end SceneNode

end SceneMarkup
