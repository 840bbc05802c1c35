import SceneMarkup.Proofs.Ui.Edits

/-!
# The builder edits attributes

A tree is edited if the attributes of each control in it are what a run of edits leaves on a fresh one (`UiNode.Edited`).
All steps of the builder keep a tree edited: what a node sets, what attribute rules add, and what a grid sets on a child that
it is put over. So every tree that is built is edited (`SceneNode.edited_buildIn`), whatever the rules are.
-/

namespace SceneMarkup

open Rule (ContainerDecision Engine Orientation)

namespace UiNode

/-- A tree in which the attributes of each control are what a run of edits leaves on a fresh control. -/
inductive Edited : UiNode → Prop where
  | intro {u : UiNode} (edits : List AttributeEdit) (attributes : u.attributes = ((ofKind u.kind).run edits).attributes)
      (children : ∀ child ∈ u.children, Edited child) : Edited u

namespace Edited

variable {u v : UiNode}

/-- A fresh control. -/
theorem ofKind (kind : UiKind) : (UiNode.ofKind kind).Edited :=
  .intro [] rfl nofun

/-- Comments and tracks are no attributes. -/
theorem congr (h : u.Edited) (kind : v.kind = u.kind) (attributes : v.attributes = u.attributes)
    (children : v.children = u.children) : v.Edited := by
  obtain ⟨edits, hattributes, hchildren⟩ := h
  exact .intro edits (by rw [attributes, hattributes, kind]) (children ▸ hchildren)

/-- A comment is no attribute. -/
theorem withComment (h : u.Edited) (comment : String) : (u.withComment comment).Edited :=
  h.congr rfl rfl rfl

/-- An edit follows the run of edits before it. -/
theorem set (h : u.Edited) (name value : String) : (u.set name value).Edited := by
  obtain ⟨edits, attributes, children⟩ := h
  refine .intro (edits ++ [.set name value]) ?_ children
  rw [run_concat]
  exact congrArg (Named.put name value) attributes

/-- What may be set. -/
theorem setSome (h : u.Edited) (name : String) (value? : Option String) : (u.setSome name value?).Edited := by
  cases value? with
  | none => exact h
  | some value => exact h.set name value

/-- What is set under a condition. -/
theorem setIf (h : u.Edited) (p : Prop) [Decidable p] (name value : String) :
    (if p then u.set name value else u).Edited := by
  split
  · exact h.set name value
  · exact h

/-- What may be set under a condition. -/
theorem setSomeIf (h : u.Edited) (p : Prop) [Decidable p] (name : String) (value? : Option String) :
    (if p then u.setSome name value? else u).Edited := by
  split
  · exact h.setSome name value?
  · exact h

/-- Other controls inside a control. -/
theorem withChildren (h : u.Edited) {children : List UiNode} (hc : ∀ child ∈ children, child.Edited) :
    Edited { u with children := children } := by
  obtain ⟨edits, attributes, -⟩ := h
  exact .intro edits attributes hc

/-- A further control inside a control. -/
theorem addChild (h : u.Edited) (hv : v.Edited) : (u.addChild v).Edited := by
  refine h.withChildren ?_
  rw [List.forall_mem_append, List.forall_mem_singleton]
  obtain ⟨-, -, children⟩ := h
  exact ⟨children, hv⟩

/-- In an edited tree no attribute of a control is there twice. -/
theorem nodup_names (h : u.Edited) : ∀ m ∈ u.nodes, m.names.Nodup := by
  induction h with
  | @intro u edits attributes children ih =>
    intro m hm
    obtain rfl | ⟨child, hchild, hm⟩ := mem_nodes.1 hm
    · rw [names, attributes]
      exact (remembers_run _ edits).names.distinct
    · exact ih child hchild m hm

end Edited

end UiNode

/-! ## Steps of the builder -/

section

variable {g : Engine} {n : SceneNode} {c : BuildContext} {l : FrameLayout} {u : UiNode}

open UiNode (Edited)

/-- The container of a decision. -/
theorem edited_containerOf (d : ContainerDecision) : (containerOf g d l).Edited := by
  have hstack : ∀ orientation, (stackContainer g orientation l).Edited := by
    intro orientation
    cases orientation with
    | vertical =>
      have hset := (Edited.ofKind .stackVertical).set "Orientation" "Vertical"
      unfold stackContainer
      simp only []
      split
      · exact hset
      · exact hset.set "HorizontalAlignment" _
    | horizontal =>
      have hset := (Edited.ofKind .stackHorizontal).set "Orientation" "Horizontal"
      unfold stackContainer
      simp only []
      split
      · exact hset
      · exact hset.set "VerticalAlignment" _
  have hgrid : (gridContainer d).Edited := by
    unfold gridContainer
    simp only []
    split
    · cases d.orientationOrDefault with
      | horizontal => exact (Edited.ofKind .gridContainer).congr rfl rfl rfl
      | vertical => exact (Edited.ofKind .gridContainer).congr rfl rfl rfl
    · exact .ofKind .gridContainer
  unfold containerOf
  cases d.containerType with
  | stackPanel => exact hstack _
  | unknown => exact hstack _
  | wrapPanel =>
    exact (((Edited.ofKind .wrapContainer).set "Orientation" _).set "HorizontalAlignment" _).set "VerticalAlignment" _
  | grid => exact hgrid

/-- The container of a frame. -/
theorem edited_planFrame (isRoot : Bool) : (planFrame g n isRoot).value.1.Edited := by
  let d := (g.selectContainer ((FrameLayout.of n).context isRoot)).value
  have hcontainer : (containerOf g d (FrameLayout.of n)).Edited := edited_containerOf d
  show (withTracks d n (FrameLayout.of n) isRoot (containerOf g d (FrameLayout.of n))).Edited
  unfold withTracks
  split
  · exact hcontainer.congr rfl rfl rfl
  · split
    · exact hcontainer.congr rfl rfl rfl
    · exact hcontainer

/-- The size of a frame. -/
theorem UiNode.Edited.withFrameSize (h : u.Edited) (isRoot : Bool) : (withFrameSize g n l isRoot c u).Edited := by
  unfold SceneMarkup.withFrameSize
  refine setIf ?_ _ "HorizontalAlignment" "Stretch"
  refine setSomeIf ?_ _ "Height" _
  exact h.setSomeIf _ "Width" _

/-- The box around a container. -/
theorem UiNode.Edited.frameBox (h : u.Edited) (isRoot : Bool) : (frameBox g n l isRoot c u).Edited := by
  have hbox := ((ofKind .box).withComment l.name).setSome "CornerRadius" (cornerRadius? n)
  unfold SceneMarkup.frameBox
  refine addChild (setSome (setSome (withFrameSize ?_ isRoot) "Background" _) "Padding" _) h
  cases borderColor? n with
  | none => exact hbox
  | some color => exact (hbox.set "BorderBrush" color).set "BorderThickness" "1"

/-- A finished frame. -/
theorem UiNode.Edited.finishFrame (h : u.Edited) (isRoot : Bool) : (finishFrame g n l isRoot c u).Edited := by
  have hresult : (if isDecorated n then SceneMarkup.frameBox g n l isRoot c u
      else SceneMarkup.withFrameSize g n l isRoot c (u.withComment (l.name ++ " container"))).Edited := by
    split
    · exact h.frameBox isRoot
    · exact (h.withComment _).withFrameSize isRoot
  unfold SceneMarkup.finishFrame
  cases isRoot with
  | true => exact hresult
  | false => exact hresult.setSome "Margin" (spacingMargin? c)

/-- A child in its place. -/
theorem UiNode.Edited.place (h : u.Edited) (p : ChildPlan) (index : Nat) : (p.place index n u).Edited := by
  unfold ChildPlan.place
  split
  · unfold NativeGrid.place
    simp only []
    refine setIf ?_ _ "Margin" _
    refine setIf ?_ _ "Grid.ColumnSpan" _
    refine setIf ?_ _ "Grid.RowSpan" _
    exact (h.set "Grid.Row" _).set "Grid.Column" _
  · split
    · unfold placeInStack
      split
      · cases p.decision.orientationOrDefault with
        | horizontal => exact h.set "Grid.Column" _
        | vertical => exact h.set "Grid.Row" _
      · exact h.set "Grid.Column" _
    · exact h

/-- What attribute rules add. -/
theorem UiNode.Edited.addRuleAttributes (h : u.Edited) (control : String) (context : Rule.Context) (names : List String) :
    (addRuleAttributes g control context names u).value.Edited := by
  induction names generalizing u with
  | nil => exact h
  | cons name rest ih =>
    unfold SceneMarkup.addRuleAttributes
    split
    · exact ih h
    · rw [Logged.value_bind]
      exact ih (h.setSome name _)

/-- What the attribute rules add for a node. -/
theorem UiNode.Edited.applyAttributeRules (h : u.Edited) : (applyAttributeRules g n c u).value.Edited := by
  unfold SceneMarkup.applyAttributeRules
  split
  · exact h.addRuleAttributes ..
  · exact h

/-- The box of a rectangle. -/
theorem edited_rectangleBox : (rectangleBox g n c).Edited := by
  unfold rectangleBox
  refine Edited.setSome (Edited.setSome (Edited.setSome ?_ "Background" _) "CornerRadius" _) "Margin" _
  refine Edited.setIf ?_ _ "VerticalAlignment" "Stretch"
  refine Edited.setIf ?_ _ "HorizontalAlignment" "Stretch"
  refine Edited.setSomeIf ?_ _ "Height" _
  refine Edited.setSomeIf ?_ _ "Width" _
  exact (Edited.ofKind .box).withComment _

/-- The block of a text. -/
theorem edited_textBlock : (textBlock n c).Edited := by
  unfold textBlock
  refine Edited.setSome ?_ "Margin" _
  refine Edited.setSomeIf ?_ _ "Height" _
  refine Edited.setSomeIf ?_ _ "Width" _
  refine Edited.setSome ?_ "Foreground" _
  refine Edited.setIf ?_ _ "FontWeight" "Bold"
  exact ((((Edited.ofKind .textLeaf).withComment _).set "Text" _).setSome "FontFamily" _).setSome "FontSize" _

/-- The control of a node that is no frame. -/
theorem edited_leafOf (n : SceneNode) : (leafOf g n c).value.Edited := by
  unfold leafOf
  cases n.kind with
  | frame => exact (Edited.ofKind .unknown).withComment _
  | rectangle => exact edited_rectangleBox.applyAttributeRules
  | text => exact edited_textBlock.applyAttributeRules
  | unknown tag => exact (Edited.ofKind .unknown).withComment _

end

/-! ## Trees -/

namespace SceneNode

/-- The controls of children are edited, each in its place, if this holds for each child. -/
theorem edited_buildChildren (g : Engine) (p : ChildPlan) {children : List SceneNode}
    (ih : ∀ child ∈ children, ∀ c, (child.buildIn g false c).value.Edited) (index : Nat) :
    ∀ u ∈ (buildChildren g p index children).value, u.Edited := by
  induction children generalizing index with
  | nil => exact nofun
  | cons child rest ihs =>
    rw [List.forall_mem_cons] at ih
    rw [value_buildChildren_cons]
    split
    · exact List.forall_mem_cons.2 ⟨(ih.1 _).place p index, ihs ih.2 (index + 1)⟩
    · exact ihs ih.2 index

/-- Every tree that is built is edited. -/
theorem edited_buildIn (g : Engine) (isRoot : Bool) (c : BuildContext) (n : SceneNode) :
    (n.buildIn g isRoot c).value.Edited := by
  induction n using byParts generalizing isRoot c with
  | node n ih =>
    rw [value_buildIn]
    split
    · have hchildren := edited_buildChildren g (planFrame g n isRoot).value.2 (fun child hchild => ih child hchild false) 0
      exact (((edited_planFrame isRoot).withChildren hchildren).finishFrame isRoot).applyAttributeRules
    · exact edited_leafOf n

end SceneNode

/-- The attributes of a control are a map in the order of insertion. After any run of edits on a fresh one the names are
distinct and stand in the order in which they entered, each with the value that was set last and not removed since; and each
further edit leaves the others where they are. So no attribute is there twice in any tree that is built. -/
theorem UiNode.attributes_insertionOrdered :
    (∀ kind edits, ((ofKind kind).run edits).Remembers edits ∧ ((ofKind kind).run edits).KeepsOrder) ∧
      ∀ (g : Engine) (isRoot : Bool) (c : BuildContext) (scene : SceneNode),
        ∀ m ∈ (scene.buildIn g isRoot c).value.nodes, m.names.Nodup := by
  refine ⟨?_, ?_⟩
  · intro kind edits
    have h : ((ofKind kind).run edits).Remembers edits := remembers_run kind edits
    exact ⟨h, keepsOrder h.names.distinct⟩
  · intro g isRoot c scene
    exact (SceneNode.edited_buildIn g isRoot c scene).nodup_names

/-- An attribute that is removed and set again stands behind those that entered meanwhile. -/
example :
    ((UiNode.ofKind .box).run [.set "Width" "1", .set "Height" "2", .setSome "Width" none, .set "Width" "3", .remove "Width",
      .setSome "Margin" (some "4"), .set "Width" "5"]).attributes = [("Height", "2"), ("Margin", "4"), ("Width", "5")] := by
  decide

end SceneMarkup
