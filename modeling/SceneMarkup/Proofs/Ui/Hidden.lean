import SceneMarkup.Proofs.Scene.Node
import SceneMarkup.Proofs.Ui.Agreement

/-!
# Hidden nodes have no influence

The interface tree of a scene tree is that of the tree without its hidden nodes (`SceneNode.buildIn_withoutHidden`), and so
is the log of building it: every number, every place and every choice is made by what is visible.
-/

namespace SceneMarkup

open Rule (Engine)

namespace SceneNode

variable {n : SceneNode}

/-! ## Trees without hidden nodes -/

mutual
/-- The tree without the nodes below its root that are hidden, and without all that is below them. -/
def withoutHidden : SceneNode → SceneNode
  | mk attributes none => mk attributes none
  | mk attributes (some children) => mk attributes (some (shownOf children))

/-- The visible nodes of a list, each without the hidden nodes below it. -/
def shownOf : List SceneNode → List SceneNode
  | [] => []
  | n :: rest => if n.isVisible then n.withoutHidden :: shownOf rest else shownOf rest
end

/-- Of the nodes of a list the hidden ones are taken away, and then those below the others. -/
theorem shownOf_eq (ns : List SceneNode) : shownOf ns = (ns.filter isVisible).map withoutHidden := by
  induction ns with
  | nil => simp [shownOf]
  | cons n rest ih =>
    rw [shownOf, ih, List.filter_cons]
    split <;> simp

/-- What is told by the attributes of a node is told alike of the node without hidden nodes below it. -/
theorem congr_withoutHidden {α : Type} {f : SceneNode → α}
    (h : ∀ attributes children children', f (mk attributes children) = f (mk attributes children')) (n : SceneNode) :
    f n.withoutHidden = f n := by
  obtain ⟨attributes, children⟩ := n
  cases children with
  | none => rfl
  | some cs => exact h attributes (some (shownOf cs)) (some cs)

/-- The root keeps its attributes. -/
@[simp] theorem attributes_withoutHidden (n : SceneNode) : n.withoutHidden.attributes = n.attributes :=
  congr_withoutHidden (f := attributes) (fun _ _ _ => rfl) n

/-- The root keeps its visible children. -/
@[simp] theorem children_withoutHidden (n : SceneNode) :
    n.withoutHidden.children = (n.children.filter isVisible).map withoutHidden := by
  obtain ⟨attributes, children⟩ := n
  cases children with
  | none => simp [withoutHidden, SceneNode.children, children?]
  | some cs => simp [withoutHidden, SceneNode.children, children?, shownOf_eq]

/-- Only visible nodes are left below the root. -/
theorem isVisible_of_mem_withoutHidden (n : SceneNode) :
    ∀ child ∈ n.withoutHidden.children, ∀ m ∈ child.nodes, m.isVisible = true := by
  induction n using byParts with
  | node n ih =>
    intro child hchild m hm
    rw [children_withoutHidden, List.mem_map] at hchild
    obtain ⟨shown, hshown, rfl⟩ := hchild
    rw [List.mem_filter] at hshown
    rcases mem_nodes.1 hm with rfl | ⟨below, hbelow, hm⟩
    · unfold isVisible get?
      rw [attributes_withoutHidden]
      exact hshown.2
    · exact ih shown hshown.1 below hbelow m hm

/-! ## What is built -/

/-- Whether a node is visible is told by its attributes. -/
@[simp] theorem isVisible_withoutHidden (n : SceneNode) : n.withoutHidden.isVisible = n.isVisible :=
  congr_withoutHidden (f := isVisible) (fun _ _ _ => rfl) n

/-- Whether a node takes all the width there is, is told by its attributes. -/
@[simp] theorem fillsWidth_withoutHidden (n : SceneNode) : n.withoutHidden.fillsWidth = n.fillsWidth :=
  congr_withoutHidden (f := fillsWidth) (fun _ _ _ => rfl) n

/-- Of hidden nodes the layout of a frame holds none, and of those below its children it asks nothing. -/
theorem shown_withoutHidden (n : SceneNode) :
    (FrameLayout.of n.withoutHidden).shown = (FrameLayout.of n).shown.map withoutHidden := by
  have hvisible : isVisible ∘ withoutHidden = isVisible := by
    funext n
    exact isVisible_withoutHidden n
  simp only [FrameLayout.of, children_withoutHidden, List.filter_map, hvisible, List.filter_filter, Bool.and_self]

variable (g : Engine)

/-- A frame gets the same container, and treats its children alike. -/
theorem planFrame_withoutHidden (n : SceneNode) (isRoot : Bool) :
    planFrame g n.withoutHidden isRoot = planFrame g n isRoot := by
  have hfills : (FrameLayout.of n.withoutHidden).shown.map fillsWidth = (FrameLayout.of n).shown.map fillsWidth := by
    rw [shown_withoutHidden]
    simp
  exact (agrees_of_attributes (attributes_withoutHidden n)).planFrame hfills g isRoot

/-- Visible children have the same controls, if each of them has. -/
theorem buildChildren_shownOf (p : ChildPlan) {children : List SceneNode}
    (ih : ∀ child ∈ children, ∀ c, child.withoutHidden.buildIn g false c = child.buildIn g false c) (index : Nat) :
    buildChildren g p index (shownOf children) = buildChildren g p index children := by
  induction children generalizing index with
  | nil => rfl
  | cons child rest ihs =>
    rw [List.forall_mem_cons] at ih
    rw [shownOf, buildChildren.eq_def g p index (child :: rest)]
    by_cases hv : child.isVisible = true
    · have hcontext : p.contextAt index child.withoutHidden = p.contextAt index child := by
        simp [ChildPlan.contextAt]
      have hplace : p.place index child.withoutHidden = p.place index child :=
        congr_withoutHidden (f := p.place index) (fun _ _ _ => rfl) child
      simp only [hv, if_true]
      rw [buildChildren, isVisible_withoutHidden, if_pos hv, hcontext, hplace, ih.1, ihs ih.2]
    · simp only [hv]
      exact ihs ih.2 index

/-- Without its hidden nodes a scene tree has the same interface tree, and building it writes the same log. -/
theorem buildIn_without (n : SceneNode) (isRoot : Bool) (c : BuildContext) :
    n.withoutHidden.buildIn g isRoot c = n.buildIn g isRoot c := by
  induction n using byParts generalizing isRoot c with
  | node n ih =>
    obtain ⟨attributes, children⟩ := n
    cases children with
    | none => rfl
    | some cs =>
      have hplan := planFrame_withoutHidden g (mk attributes (some cs)) isRoot
      have hbuilt : ∀ p, buildChildren g p 0 (shownOf cs) = buildChildren g p 0 cs := by
        intro p
        exact buildChildren_shownOf g p (fun child hchild c => ih child hchild false c) 0
      -- What else the node is asked is told by its attributes, which are the same.
      rw [withoutHidden] at hplan ⊢
      simp only [buildIn, hplan, hbuilt]
      rfl

/-- Hidden nodes have no influence: when all of them below the root are taken away, with all that is below them, the scene
tree has the same interface tree, and building it writes the same log. -/
theorem buildIn_withoutHidden (n : SceneNode) (isRoot : Bool) (c : BuildContext) :
    n.withoutHidden.buildIn g isRoot c = n.buildIn g isRoot c ∧
      ∀ child ∈ n.withoutHidden.children, ∀ m ∈ child.nodes, m.isVisible = true :=
  ⟨buildIn_without g n isRoot c, isVisible_of_mem_withoutHidden n⟩

end SceneNode

end SceneMarkup
