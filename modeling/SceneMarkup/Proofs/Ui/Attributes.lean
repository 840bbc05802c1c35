import SceneMarkup.Proofs.Ui.Additions
import SceneMarkup.Proofs.Ui.Container

/-!
# Where attributes come from

An attribute that is neither among those that the builder sets nor named by the attribute rules is not set
(`SceneNode.get?_buildIn_of_notMem`), and without a rule for it the margin of a child is the one that keeps it apart from the
child before it (`SceneNode.get?_margin_buildIn`). What is set later does not change what is set under another name.
-/

namespace SceneMarkup

open Rule (ContainerDecision Engine)

namespace UiNode

variable (n m : UiNode) (name other : String)

/-- What may be set changes its own value and no other. -/
theorem get?_setSome (value? : Option String) :
    (n.setSome name value?).get? other = if other = name then value?.or (n.get? other) else n.get? other := by
  cases value? with
  | none => simp [setSome]
  | some value => simp [setSome, get?_set]

/-- An attribute of one of two controls. -/
theorem get?_ite (p : Prop) [Decidable p] :
    (if p then n else m).get? name = if p then n.get? name else m.get? name :=
  apply_ite (UiNode.get? · name) p n m

/-- What is set under a condition changes its own value and no other. -/
theorem get?_setIf (p : Prop) [Decidable p] (value : String) :
    (if p then n.set name value else n).get? other = if other = name ∧ p then some value else n.get? other := by
  by_cases hp : p <;> simp [hp, get?_set]

@[simp] theorem get?_withComment (comment : String) : (n.withComment comment).get? name = n.get? name := rfl

@[simp] theorem get?_addChild (child : UiNode) : (n.addChild child).get? name = n.get? name := rfl

@[simp] theorem get?_ofKind (kind : UiKind) : (UiNode.ofKind kind).get? name = none := rfl

end UiNode

/-- The attributes that the builder sets, the margin apart. -/
def builtNames : List String :=
  ["Width", "Height", "HorizontalAlignment", "VerticalAlignment", "Orientation", "CornerRadius", "BorderBrush",
   "BorderThickness", "Background", "Padding", "Text", "FontFamily", "FontSize", "FontWeight", "Foreground"]

/-- A node has a type that has a meaning for the layout. -/
def NodeKind.isKnown : NodeKind → Bool
  | .frame | .rectangle | .text => true
  | .unknown _ => false

section

variable {g : Engine} {n : SceneNode} {c : BuildContext} {l : FrameLayout} {u : UiNode} {name : String}

/-- A rectangle has no other attribute but the margin. -/
theorem get?_rectangleBox_of_notMem (hname : name ∉ builtNames) :
    (rectangleBox g n c).get? name = if name = "Margin" then spacingMargin? c else none := by
  simp only [builtNames, List.mem_cons, List.not_mem_nil, or_false, not_or] at hname
  simp [rectangleBox, UiNode.get?_setSome, UiNode.get?_set, UiNode.get?_ite, hname]

/-- A text has no other attribute but the margin. -/
theorem get?_textBlock_of_notMem (hname : name ∉ builtNames) :
    (textBlock n c).get? name = if name = "Margin" then spacingMargin? c else none := by
  simp only [builtNames, List.mem_cons, List.not_mem_nil, or_false, not_or] at hname
  simp [textBlock, UiNode.get?_setSome, UiNode.get?_set, UiNode.get?_ite, hname]

/-- A container has no other attribute. -/
theorem get?_containerOf_of_notMem (d : ContainerDecision) (hname : name ∉ builtNames) :
    (containerOf g d l).get? name = none := by
  simp only [builtNames, List.mem_cons, List.not_mem_nil, or_false, not_or] at hname
  have hstack : ∀ o, (stackContainer g o l).get? name = none := by
    intro o
    unfold stackContainer
    cases o <;> simp [UiNode.get?_set, UiNode.get?_ite, hname]
  have hgrid : (gridContainer d).get? name = none := by
    unfold gridContainer
    simp only []
    split
    · cases d.orientationOrDefault <;> rfl
    · rfl
  unfold containerOf
  cases d.containerType with
  | stackPanel => exact hstack _
  | unknown => exact hstack _
  | wrapPanel => simp [wrapContainer, UiNode.get?_set, hname]
  | grid => exact hgrid

/-- The tracks of a container are no attributes. -/
theorem get?_container (isRoot : Bool) :
    (n.container g isRoot).get? name = (containerOf g (n.decision g isRoot) (FrameLayout.of n)).get? name := by
  unfold SceneNode.container withTracks
  split
  · rfl
  · split <;> rfl

/-- A container, whatever is in it, has no other attribute. -/
theorem get?_filledContainer_of_notMem (isRoot : Bool) (hname : name ∉ builtNames) :
    (n.filledContainer g isRoot).get? name = none :=
  (get?_container isRoot).trans (get?_containerOf_of_notMem _ hname)

/-- The size of a frame is told by three attributes. -/
theorem get?_withFrameSize_of_notMem (isRoot : Bool) (hname : name ∉ builtNames) :
    (withFrameSize g n l isRoot c u).get? name = u.get? name := by
  simp only [builtNames, List.mem_cons, List.not_mem_nil, or_false, not_or] at hname
  simp [withFrameSize, UiNode.get?_setSome, UiNode.get?_set, UiNode.get?_ite, hname]

/-- A frame has no other attribute but the margin, which a top-level frame has not, if its container has none. -/
theorem get?_finishFrame_of_notMem (isRoot : Bool) (hname : name ∉ builtNames) (hu : u.get? name = none) :
    (finishFrame g n l isRoot c u).get? name = if name = "Margin" ∧ isRoot = false then spacingMargin? c else none := by
  have hnames := hname
  simp only [builtNames, List.mem_cons, List.not_mem_nil, or_false, not_or] at hnames
  -- the box around the container is a new control, so nothing of the container is seen on it
  have hbox : (frameBox g n l isRoot c u).get? name = none := by
    unfold frameBox
    cases borderColor? n <;>
      simp [UiNode.get?_setSome, UiNode.get?_set, get?_withFrameSize_of_notMem isRoot hname, hnames]
  have hresult : (if isDecorated n then frameBox g n l isRoot c u
      else withFrameSize g n l isRoot c (u.withComment (l.name ++ " container"))).get? name = none := by
    rw [UiNode.get?_ite, hbox, get?_withFrameSize_of_notMem isRoot hname, UiNode.get?_withComment, hu, ite_self]
  unfold finishFrame
  cases isRoot with
  | true => simpa using hresult
  | false => simp [UiNode.get?_setSome, hresult]

/-- Rules set no attribute that they do not name. -/
theorem get?_addRuleAttributes_of_notMem {control : String} {context : Rule.Context} {names : List String}
    (hname : name ∉ names) (u : UiNode) : (addRuleAttributes g control context names u).value.get? name = u.get? name := by
  induction names generalizing u with
  | nil => rfl
  | cons other rest ih =>
    rw [List.mem_cons, not_or] at hname
    unfold addRuleAttributes
    split
    · exact ih hname.2 u
    · rw [Logged.value_bind, ih hname.2, UiNode.get?_setSome, if_neg hname.1]

/-- Rules set no attribute of the control of a node that they do not name. -/
theorem get?_applyAttributeRules_of_notMem (hrules : ∀ control, name ∉ g.attributeNames control) (u : UiNode) :
    (applyAttributeRules g n c u).value.get? name = u.get? name := by
  unfold applyAttributeRules
  split
  · exact get?_addRuleAttributes_of_notMem (hrules _) u
  · rfl

namespace SceneNode

/-- What is neither set by the builder nor named by the rules is not set on a child, the margin apart. -/
theorem get?_buildIn_of_notMem_builtNames (hname : name ∉ builtNames) (hrules : ∀ control, name ∉ g.attributeNames control)
    (n : SceneNode) (c : BuildContext) :
    (n.buildIn g false c).value.get? name =
      if name = "Margin" ∧ n.kind.isKnown = true then spacingMargin? c else none := by
  by_cases hk : n.kind = .frame
  · rw [value_buildIn_frame g false c hk, get?_applyAttributeRules_of_notMem hrules,
      get?_finishFrame_of_notMem false hname (get?_filledContainer_of_notMem false hname), hk]
    simp [NodeKind.isKnown]
  · rw [value_buildIn, if_neg hk]
    unfold leafOf
    cases hkind : n.kind with
    | frame => exact absurd hkind hk
    | rectangle =>
      simp only [get?_applyAttributeRules_of_notMem hrules, get?_rectangleBox_of_notMem hname]
      simp [NodeKind.isKnown]
    | text =>
      simp only [get?_applyAttributeRules_of_notMem hrules, get?_textBlock_of_notMem hname]
      simp [NodeKind.isKnown]
    | unknown tag => simp [NodeKind.isKnown, unknownNode]

/-- What is neither set by the builder nor named by the rules is not set on a child. -/
theorem get?_buildIn_of_notMem (hname : name ∉ "Margin" :: builtNames) (hrules : ∀ control, name ∉ g.attributeNames control)
    (n : SceneNode) (c : BuildContext) : (n.buildIn g false c).value.get? name = none := by
  rw [List.mem_cons, not_or] at hname
  rw [get?_buildIn_of_notMem_builtNames hname.2 hrules, if_neg fun h => hname.1 h.1]

/-- Without a rule for it the margin of a child is the one that keeps it apart from the child before it. -/
theorem get?_margin_buildIn (hrules : ∀ control, "Margin" ∉ g.attributeNames control) (n : SceneNode) (c : BuildContext) :
    (n.buildIn g false c).value.get? "Margin" = if n.kind.isKnown then spacingMargin? c else none := by
  rw [get?_buildIn_of_notMem_builtNames (by decide) hrules]
  simp

end SceneNode

end

end SceneMarkup
