import Mathlib.Data.List.Forall2
import SceneMarkup.Proofs.Scene.Node
import SceneMarkup.Proofs.Ui.Build

/-!
# Every visible node has one control

An interface tree without the boxes around containers depicts its scene tree (`Depicts`): a frame becomes one container with
the controls of its visible children in their order, and any other node one control without contents. Rules, sizes and the
places in grids change no more than attributes and tracks (`UiNode.bare`), so this holds of every tree that is built, and a
box holds at most one control (`depicts_contract_buildIn`).
-/

namespace SceneMarkup

open Rule (Engine)

/-- The role of a control that frames become. -/
def UiKind.isContainer : UiKind → Bool
  | .stackVertical | .stackHorizontal | .wrapContainer | .gridContainer => true
  | .box | .textLeaf | .unknown => false

/-- A container is no box. -/
theorem UiKind.ne_box_of_isContainer {k : UiKind} (h : k.isContainer = true) : k ≠ .box := by
  rintro rfl
  nomatch h

namespace UiNode

variable {n m u v : UiNode}

/-! ## Controls by their parts -/

/-- What holds of a control because it holds of the controls inside it holds of every control. -/
theorem byParts {P : UiNode → Prop} (node : ∀ n : UiNode, (∀ c ∈ n.children, P c) → P n) (n : UiNode) : P n :=
  @UiNode.rec P (fun cs => ∀ c ∈ cs, P c)
    (fun kind attributes children comment rows columns h => node ⟨kind, attributes, children, comment, rows, columns⟩ h)
    (by simp) (fun _ _ hc hrest => List.forall_mem_cons.2 ⟨hc, hrest⟩) n

mutual
/-- The controls of a tree, each before those inside it. -/
def nodes : UiNode → List UiNode
  | ⟨kind, attributes, children, comment, rows, columns⟩ =>
    ⟨kind, attributes, children, comment, rows, columns⟩ :: nodesOfAll children

/-- The controls of the trees of a list. -/
def nodesOfAll : List UiNode → List UiNode
  | [] => []
  | n :: rest => n.nodes ++ nodesOfAll rest
end

/-- The controls of the trees of a list are those of each of them. -/
theorem mem_nodesOfAll {trees : List UiNode} : m ∈ nodesOfAll trees ↔ ∃ n ∈ trees, m ∈ n.nodes := by
  induction trees with
  | nil => simp [nodesOfAll]
  | cons n rest ih => simp [nodesOfAll, ih]

/-- The controls of a tree are its root and the controls of the trees inside it. -/
theorem mem_nodes : m ∈ n.nodes ↔ m = n ∨ ∃ c ∈ n.children, m ∈ c.nodes := by
  obtain ⟨kind, attributes, children, comment, rows, columns⟩ := n
  rw [nodes, List.mem_cons, mem_nodesOfAll]

mutual
/-- The tree in which every box around one control is replaced by that control. -/
def contract : UiNode → UiNode
  | ⟨kind, attributes, children, comment, rows, columns⟩ =>
    match kind, contractAll children with
    | .box, [child] => child
    | kind, children => ⟨kind, attributes, children, comment, rows, columns⟩

/-- `contract` of every tree of a list. -/
def contractAll : List UiNode → List UiNode
  | [] => []
  | n :: rest => n.contract :: contractAll rest
end

/-- The trees of a list are contracted one by one. -/
theorem contractAll_eq_map (trees : List UiNode) : contractAll trees = trees.map contract := by
  induction trees with
  | nil => simp [contractAll]
  | cons n rest ih => simp [contractAll, ih]

/-- A box around one control is replaced by it. -/
theorem contract_box (hk : n.kind = .box) {c : UiNode} (hc : n.children = [c]) : n.contract = c.contract := by
  obtain ⟨kind, attributes, children, comment, rows, columns⟩ := n
  obtain rfl : kind = .box := hk
  obtain rfl : children = [c] := hc
  rw [contract]
  rfl

/-- Any other control stays, around what is left inside it. -/
theorem contract_of_ne (h : n.kind = .box → n.children.length ≠ 1) :
    n.contract = { n with children := n.children.map contract } := by
  obtain ⟨kind, attributes, children, comment, rows, columns⟩ := n
  have hall := contractAll_eq_map children
  rw [contract]
  · simp only [hall]
  · intro c hbox hc
    have hlen := congrArg List.length (hall.symm.trans hc)
    rw [List.length_map] at hlen
    exact h hbox hlen

/-! ## Controls without attributes -/

/-- The control without attributes. -/
def form (n : UiNode) : UiNode :=
  { n with attributes := [] }

/-- Controls that are the same but for attributes have the same role, contents, comment and tracks. -/
theorem form_eq_iff : n.form = m.form ↔
    n.kind = m.kind ∧ n.children = m.children ∧ n.comment = m.comment ∧ n.rows = m.rows ∧ n.columns = m.columns := by
  simp [form]

@[simp] theorem form_set (n : UiNode) (name value : String) : (n.set name value).form = n.form := rfl

@[simp] theorem form_setSome (n : UiNode) (name : String) (value? : Option String) : (n.setSome name value?).form = n.form := by
  cases value? <;> rfl

/-- A control is added to the contents whatever the attributes are. -/
theorem form_addChild_congr (h : n.form = m.form) (child : UiNode) : (n.addChild child).form = (m.addChild child).form := by
  obtain ⟨hkind, hchildren, hcomment, htracks⟩ := form_eq_iff.1 h
  exact form_eq_iff.2 ⟨hkind, congrArg (· ++ [child]) hchildren, hcomment, htracks⟩

/-- The control without attributes and tracks. -/
def bare (n : UiNode) : UiNode :=
  ⟨n.kind, [], n.children, n.comment, [], []⟩

/-- Controls that are the same but for attributes are the same but for attributes and tracks. -/
theorem bare_eq_of_form (h : n.form = m.form) : n.bare = m.bare := by
  have hbare : n.form.bare = m.form.bare := congrArg bare h
  exact hbare

/-- Controls that are the same but for attributes and tracks have the same role, contents and comment. -/
theorem bare_eq_iff : n.bare = m.bare ↔ n.kind = m.kind ∧ n.children = m.children ∧ n.comment = m.comment := by
  simp [bare]

@[simp] theorem bare_set (n : UiNode) (name value : String) : (n.set name value).bare = n.bare := rfl

@[simp] theorem bare_setSome (n : UiNode) (name : String) (value? : Option String) : (n.setSome name value?).bare = n.bare := by
  cases value? <;> rfl

/-- A choice between two controls that are the same but for attributes. -/
theorem bare_ite {p : Prop} [Decidable p] (hn : n.bare = u) (hm : m.bare = u) : (if p then n else m).bare = u := by
  split
  · exact hn
  · exact hm

/-- Contraction leaves attributes alone. -/
theorem bare_contract_congr (h : n.bare = m.bare) : n.contract.bare = m.contract.bare := by
  obtain ⟨hkind, hchildren, hcomment⟩ := bare_eq_iff.1 h
  by_cases hbox : n.kind = .box ∧ n.children.length = 1
  · obtain ⟨c, hc⟩ := List.length_eq_one_iff.1 hbox.2
    rw [contract_box hbox.1 hc, contract_box (hkind.symm.trans hbox.1) (hchildren.symm.trans hc)]
  · rw [not_and] at hbox
    rw [contract_of_ne hbox, contract_of_ne (by rwa [← hkind, ← hchildren])]
    exact bare_eq_iff.2 ⟨hkind, congrArg (List.map contract) hchildren, hcomment⟩

end UiNode

/-! ## What depicts a tree -/

/-- A control depicts a node: a frame is depicted by one container whose contents depict its visible children in their order,
any other node by one control without contents, which names it in its comment. -/
inductive Depicts : UiNode → SceneNode → Prop where
  | frame {u : UiNode} {n : SceneNode} (kind : n.kind = .frame) (container : u.kind.isContainer = true)
      (children : List.Forall₂ Depicts u.children (n.children.filter SceneNode.isVisible)) : Depicts u n
  | rectangle {u : UiNode} {n : SceneNode} (kind : n.kind = .rectangle) (box : u.kind = .box) (empty : u.children = [])
      (name : u.comment = some (n.name?.getD "Rectangle")) : Depicts u n
  | text {u : UiNode} {n : SceneNode} (kind : n.kind = .text) (leaf : u.kind = .textLeaf) (empty : u.children = [])
      (name : u.comment = some (n.name?.getD "Text")) : Depicts u n
  | unknown {u : UiNode} {n : SceneNode} {tag : String} (kind : n.kind = .unknown tag) (unknown : u.kind = .unknown)
      (empty : u.children = []) (name : u.comment = some ("unsupported node type: " ++ tag)) : Depicts u n

namespace Depicts

variable {u v : UiNode} {n : SceneNode}

/-- What depicts a node does so whatever its attributes are. -/
theorem congr (h : Depicts u n) (he : u.bare = v.bare) : Depicts v n := by
  obtain ⟨hkind, hchildren, hcomment⟩ := UiNode.bare_eq_iff.1 he
  cases h with
  | frame kind container children => exact .frame kind (hkind ▸ container) (hchildren ▸ children)
  | rectangle kind box empty name => exact .rectangle kind (hkind ▸ box) (hchildren ▸ empty) (hcomment ▸ name)
  | text kind leaf empty name => exact .text kind (hkind ▸ leaf) (hchildren ▸ empty) (hcomment ▸ name)
  | unknown kind unknown empty name => exact .unknown kind (hkind ▸ unknown) (hchildren ▸ empty) (hcomment ▸ name)

/-- What depicts a list of nodes depicts one of them. -/
theorem exists_of_forall₂ {us : List UiNode} {ns : List SceneNode} (h : List.Forall₂ Depicts us ns) :
    ∀ u ∈ us, ∃ n ∈ ns, Depicts u n := by
  induction h with
  | nil => simp
  | cons hu _ ih =>
    rw [List.forall_mem_cons]
    refine ⟨⟨_, List.mem_cons_self, hu⟩, fun u hm => ?_⟩
    obtain ⟨n, hn, hd⟩ := ih u hm
    exact ⟨n, List.mem_cons_of_mem _ hn, hd⟩

/-- In a tree that depicts another, boxes are empty. -/
theorem box_empty (h : Depicts u n) : ∀ m ∈ u.nodes, m.kind = .box → m.children = [] := by
  -- The induction is on the scene tree: what depicts the children of a frame stands in a list, not in a constructor.
  induction n using SceneNode.byParts generalizing u with
  | node n ih =>
    have hleaf : u.children = [] → ∀ m ∈ u.nodes, m.kind = .box → m.children = [] := by
      intro hempty m hm _
      rcases UiNode.mem_nodes.1 hm with rfl | ⟨c, hc, -⟩
      · exact hempty
      · rw [hempty] at hc
        nomatch hc
    cases h with
    | rectangle _ _ empty _ => exact hleaf empty
    | text _ _ empty _ => exact hleaf empty
    | unknown _ _ empty _ => exact hleaf empty
    | frame _ container children =>
      intro m hm hbox
      rcases UiNode.mem_nodes.1 hm with rfl | ⟨c, hc, hmc⟩
      · rw [hbox] at container
        nomatch container
      · obtain ⟨child, hchild, hdepicts⟩ := exists_of_forall₂ children c hc
        exact ih child (List.mem_of_mem_filter hchild) hdepicts m hmc hbox

end Depicts

/-- Where contraction leaves only empty boxes, a box holds at most one control. -/
theorem UiNode.length_children_of_contract {u : UiNode}
    (h : ∀ m ∈ u.contract.nodes, m.kind = .box → m.children = []) :
    ∀ m ∈ u.nodes, m.kind = .box → m.children.length ≤ 1 := by
  induction u using byParts with
  | node u ih =>
    intro m hm hbox
    by_cases hone : u.kind = .box ∧ u.children.length = 1
    · obtain ⟨c, hc⟩ := List.length_eq_one_iff.1 hone.2
      rw [contract_box hone.1 hc] at h
      rcases mem_nodes.1 hm with rfl | ⟨d, hd, hmd⟩
      · exact Nat.le_of_eq hone.2
      · rw [hc, List.mem_singleton] at hd
        subst hd
        exact ih d (by simp [hc]) h m hmd hbox
    · rw [not_and] at hone
      rw [contract_of_ne hone] at h
      rcases mem_nodes.1 hm with rfl | ⟨d, hd, hmd⟩
      · have hempty := h _ (mem_nodes.2 (.inl rfl)) hbox
        rw [List.map_eq_nil_iff.1 hempty]
        exact Nat.zero_le 1
      · refine ih d hd (fun k hk => h k (mem_nodes.2 (.inr ⟨d.contract, ?_, hk⟩))) m hmd hbox
        exact List.mem_map_of_mem hd

/-! ## What is built -/

section

variable (g : Engine) (n : SceneNode) (c : BuildContext) (l : FrameLayout) (isRoot : Bool) (u : UiNode)

/-- The attribute rules change nothing but attributes. -/
theorem form_addRuleAttributes (control : String) (context : Rule.Context) (names : List String) :
    (addRuleAttributes g control context names u).value.form = u.form := by
  induction names generalizing u with
  | nil => rfl
  | cons name rest ih =>
    unfold addRuleAttributes
    split
    · exact ih u
    · exact (ih _).trans (UiNode.form_setSome ..)

/-- The attribute rules for the control of a node change nothing but attributes. -/
theorem form_applyAttributeRules : (applyAttributeRules g n c u).value.form = u.form := by
  unfold applyAttributeRules
  split
  · exact form_addRuleAttributes ..
  · rfl

/-- The attribute rules for the control of a node change nothing but attributes. -/
theorem bare_applyAttributeRules : (applyAttributeRules g n c u).value.bare = u.bare :=
  UiNode.bare_eq_of_form (form_applyAttributeRules ..)

/-- A place in a grid is told by attributes alone. -/
theorem bare_place (p : ChildPlan) (index : Nat) : (p.place index n u).bare = u.bare := by
  unfold ChildPlan.place NativeGrid.place placeInStack
  split
  · simp only []
    refine UiNode.bare_ite ?_ ?_ <;> simp [apply_ite UiNode.bare]
  · split
    · split
      · split <;> rfl
      · rfl
    · rfl

/-- The size of a frame is told by attributes alone. -/
theorem form_withFrameSize : (withFrameSize g n l isRoot c u).form = u.form := by
  unfold withFrameSize
  simp [apply_ite UiNode.form]

/-- A rectangle becomes an empty box with its name. -/
theorem bare_rectangleBox :
    (rectangleBox g n c).bare = ((UiNode.ofKind .box).withComment (n.name?.getD "Rectangle")).bare := by
  unfold rectangleBox
  simp [apply_ite UiNode.bare]

/-- A text becomes an empty text block with its name. -/
theorem bare_textBlock : (textBlock n c).bare = ((UiNode.ofKind .textLeaf).withComment (n.name?.getD "Text")).bare := by
  unfold textBlock
  simp [apply_ite UiNode.bare]

/-- Whatever the rules decide, the container has the role of one. -/
theorem isContainer_containerOf (d : Rule.ContainerDecision) : (containerOf g d l).kind.isContainer = true := by
  have hstack : ∀ o, (stackContainer g o l).kind.isContainer = true := by
    intro o
    unfold stackContainer
    cases o <;> simp only [] <;> split <;> rfl
  have hgrid : (gridContainer d).kind.isContainer = true := by
    unfold gridContainer
    split
    · cases d.orientationOrDefault <;> rfl
    · rfl
  unfold containerOf
  cases d.containerType with
  | stackPanel => exact hstack _
  | unknown => exact hstack _
  | wrapPanel => rfl
  | grid => exact hgrid

/-- The container of a frame has the role of one. -/
theorem isContainer_planFrame : (planFrame g n isRoot).value.1.kind.isContainer = true := by
  have hkind : ∀ d container, (withTracks d n (FrameLayout.of n) isRoot container).kind = container.kind := by
    intro d container
    unfold withTracks
    split
    · rfl
    · split <;> rfl
  unfold planFrame
  simp only [Logged.value_bind, Logged.value_pure, hkind]
  exact isContainer_containerOf ..

/-- A decorated frame is a box around its container, any other frame its container. -/
theorem form_finishFrame :
    (finishFrame g n l isRoot c u).form =
      if isDecorated n then (((UiNode.ofKind .box).withComment l.name).addChild u).form
      else (u.withComment (l.name ++ " container")).form := by
  have hmargin : ∀ v : UiNode, (if isRoot then v else v.setSome "Margin" (spacingMargin? c)).form = v.form := by
    intro v
    split
    · rfl
    · exact UiNode.form_setSome ..
  unfold finishFrame
  simp only [hmargin]
  split
  · unfold frameBox
    refine UiNode.form_addChild_congr ?_ u
    simp only [UiNode.form_setSome, form_withFrameSize]
    split <;> simp only [UiNode.form_set, UiNode.form_setSome]
  · exact form_withFrameSize ..

/-- The control of a frame depicts it if the controls in its container depict the visible children. -/
theorem depicts_contract_finishFrame (hk : n.kind = .frame) (hu : u.kind.isContainer = true)
    (hchildren : List.Forall₂ Depicts (u.children.map UiNode.contract) (n.children.filter SceneNode.isVisible)) :
    Depicts (finishFrame g n l isRoot c u).contract n := by
  have hframe : ∀ v : UiNode, v.kind = u.kind → v.children = u.children → Depicts v.contract n := by
    intro v hkind hsame
    rw [← hkind] at hu
    rw [UiNode.contract_of_ne fun h => absurd h (UiKind.ne_box_of_isContainer hu)]
    refine .frame hk hu ?_
    rwa [hsame]
  have hform := form_finishFrame g n c l isRoot u
  split at hform
  · refine Depicts.congr ?_ (UiNode.bare_contract_congr (UiNode.bare_eq_of_form hform.symm))
    rw [UiNode.contract_box rfl rfl]
    exact hframe u rfl rfl
  · exact (hframe (u.withComment _) rfl rfl).congr (UiNode.bare_contract_congr (UiNode.bare_eq_of_form hform.symm))

end

variable {g : Engine} {n : SceneNode}

/-- The control of a node that is no frame depicts it. -/
theorem depicts_contract_leafOf (hk : n.kind ≠ .frame) (c : BuildContext) : Depicts (leafOf g n c).value.contract n := by
  have hleaf : ∀ u v : UiNode, u.bare = v.bare → v.children = [] → Depicts v n → Depicts u.contract n := by
    intro u v he hempty hd
    have hsame : v.contract.bare = v.bare := by
      rw [UiNode.contract_of_ne fun _ => by simp [hempty], hempty]
      exact UiNode.bare_eq_iff.2 ⟨rfl, hempty.symm, rfl⟩
    exact hd.congr (hsame.symm.trans (UiNode.bare_contract_congr he.symm))
  unfold leafOf
  cases hkind : n.kind with
  | frame => exact absurd hkind hk
  | rectangle =>
    refine hleaf _ _ ((bare_applyAttributeRules ..).trans (bare_rectangleBox ..)) rfl ?_
    exact .rectangle hkind rfl rfl rfl
  | text =>
    refine hleaf _ _ ((bare_applyAttributeRules ..).trans (bare_textBlock ..)) rfl ?_
    exact .text hkind rfl rfl rfl
  | unknown tag => exact hleaf _ (unknownNode tag) rfl rfl (.unknown hkind rfl rfl rfl)

/-- The controls of children depict the visible ones in their order, if this holds for each of them. -/
theorem depicts_contract_buildChildren (p : ChildPlan) {children : List SceneNode}
    (ih : ∀ child ∈ children, ∀ c, Depicts (child.buildIn g false c).value.contract child) (index : Nat) :
    List.Forall₂ Depicts ((SceneNode.buildChildren g p index children).value.map UiNode.contract)
      (children.filter SceneNode.isVisible) := by
  induction children generalizing index with
  | nil => exact .nil
  | cons child rest ihs =>
    rw [List.forall_mem_cons] at ih
    rw [SceneNode.value_buildChildren_cons]
    split
    · rename_i hv
      rw [List.map_cons, List.filter_cons_of_pos hv]
      refine .cons ?_ (ihs ih.2 (index + 1))
      exact (ih.1 _).congr (UiNode.bare_contract_congr (bare_place ..).symm)
    · rename_i hv
      rw [List.filter_cons_of_neg hv]
      exact ihs ih.2 index

/-- Without the boxes around containers, the interface tree of a node depicts it. -/
theorem depicts_buildIn (g : Engine) (isRoot : Bool) (c : BuildContext) (n : SceneNode) :
    Depicts (n.buildIn g isRoot c).value.contract n := by
  induction n using SceneNode.byParts generalizing isRoot c with
  | node n ih =>
    rw [SceneNode.value_buildIn]
    split
    · rename_i hk
      refine Depicts.congr ?_ (UiNode.bare_contract_congr (bare_applyAttributeRules ..).symm)
      refine depicts_contract_finishFrame _ _ _ _ _ _ hk (isContainer_planFrame ..) ?_
      exact depicts_contract_buildChildren _ (fun child hchild c => ih child hchild false c) 0
    · rename_i hk
      exact depicts_contract_leafOf hk c

/-- Without the boxes around containers, the interface tree of a node depicts it: every visible node below frames has one
control, in the same order. A box holds at most one control. -/
theorem depicts_contract_buildIn (g : Engine) (isRoot : Bool) (c : BuildContext) (n : SceneNode) :
    Depicts (n.buildIn g isRoot c).value.contract n ∧
      ∀ m ∈ (n.buildIn g isRoot c).value.nodes, m.kind = .box → m.children.length ≤ 1 :=
  ⟨depicts_buildIn g isRoot c n, UiNode.length_children_of_contract (depicts_buildIn g isRoot c n).box_empty⟩

end SceneMarkup
