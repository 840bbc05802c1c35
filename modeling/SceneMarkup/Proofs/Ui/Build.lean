import SceneMarkup.Proofs.Rule.Names
import SceneMarkup.Proofs.Ui.View

/-!
# Trees with the same view have the same interface tree

Two scene trees that look alike to the builder become the same control (`SceneNode.value_buildIn_of_view`). Where the view
is not exact this needs rules that give a grid of its own only to a grid, and that do not ask for the spacing of the parent
(`Rule.Engine.Discreet`).
-/

namespace SceneMarkup

open Rule (ContainerDecision Engine Value)

/-- What is exact, or the same but for the sign of zero. -/
def SameSpacing (exact : Bool) (x y : Float) : Prop :=
  if exact then x = y else SameNumber x y

theorem SameSpacing.refl (exact : Bool) (x : Float) : SameSpacing exact x x := by
  cases exact
  · exact SameNumber.refl x
  · rfl

theorem SameSpacing.same {exact : Bool} {x y : Float} (h : SameSpacing exact x y) : SameNumber x y := by
  cases exact
  · exact h
  · exact .inl h

/-- Contexts in which only the sign of a spacing of zero may differ. -/
structure BuildContext.Like (exact : Bool) (c d : BuildContext) : Prop where
  spacing : SameSpacing exact c.parentSpacing d.parentSpacing
  layout : c.parentLayout = d.parentLayout
  first : c.isFirstChild = d.isFirstChild
  fill : c.inFillColumn = d.inFillColumn

theorem BuildContext.Like.refl (exact : Bool) (c : BuildContext) : c.Like exact c :=
  ⟨SameSpacing.refl exact _, rfl, rfl, rfl⟩

/-- The margin does not show the sign of a spacing of zero. -/
theorem spacingMargin?_congr {exact : Bool} {c d : BuildContext} (h : c.Like exact d) :
    spacingMargin? c = spacingMargin? d := by
  unfold spacingMargin?
  rw [h.layout, h.first]
  rcases h.spacing.same with hs | ⟨hc, hd⟩
  · rw [hs]
  · have hcz := hc.le_zero
    have hdz := hd.le_zero
    simp [hcz, hdz]

/-! ## Attribute rules -/

section

variable {exact inGrid : Bool} {a b : SceneNode} {c d : BuildContext} {g : Engine}

/-- What the attribute rules may ask about nodes of the same reading differs at most in the spacing of the parent. -/
theorem attributeContext_of_reading (h : a.reading exact inGrid = b.reading exact inGrid) (hc : c.Like exact d) :
    attributeContext a c = attributeContext b { d with parentSpacing := c.parentSpacing } := by
  have hunit : ((a.lineHeightField? "unit").bind Json.string?).getD "AUTO" =
      ((b.lineHeightField? "unit").bind Json.string?).getD "AUTO" := congrArg NodeReading.lineHeightUnit h
  have hvalue : ((a.lineHeightField? "value").map Value.ofJson).getD .none =
      ((b.lineHeightField? "value").map Value.ofJson).getD .none := congrArg NodeReading.lineHeight h
  unfold SceneNode.lineHeightField? at hunit hvalue
  unfold attributeContext
  simp only [hunit, hvalue, SceneNode.name?_of_reading h, SceneNode.number?_width_of_reading h,
    SceneNode.number?_height_of_reading h, hc.layout, hc.first, hc.fill,
    SceneNode.stringOr_of_reading h "layoutSizingHorizontal" "FIXED" (by decide),
    SceneNode.stringOr_of_reading h "layoutSizingVertical" "FIXED" (by decide),
    SceneNode.stringOr_of_reading h "layoutAlign" "INHERIT" (by decide),
    SceneNode.stringOr_of_reading h "textAlignHorizontal" "LEFT" (by decide),
    SceneNode.stringOr_of_reading h "textAutoResize" "WIDTH_AND_HEIGHT" (by decide),
    SceneNode.numberOr_of_reading h "opacity" 1 (by simp [numberReadings])]

/-- The spacing of the parent is only one of the names. -/
theorem get?_attributeContext_spacing (n : SceneNode) (c : BuildContext) (s : Float) {x : String}
    (hx : x ≠ "parent_spacing") :
    (attributeContext n { c with parentSpacing := s }).get? x = (attributeContext n c).get? x := by
  simp only [attributeContext, Rule.Context.ofList, List.foldl_cons, List.foldl_nil, Rule.Context.get?_set, hx, if_false]

/-- An attribute rule gives nodes of the same reading the same value. -/
theorem value_attributeValue?_congr (hg : exact = true ∨ g.Discreet) (h : a.reading exact inGrid = b.reading exact inGrid)
    (hc : c.Like exact d) (control name : String) :
    (g.attributeValue? control name (attributeContext a c)).value =
      (g.attributeValue? control name (attributeContext b d)).value := by
  rw [attributeContext_of_reading h hc]
  rcases hg with he | hg
  · have hs : c.parentSpacing = d.parentSpacing := by simpa [SameSpacing, he] using hc.spacing
    rw [hs]
  · refine Engine.attributeValue?_congr fun x hx => get?_attributeContext_spacing b d c.parentSpacing ?_
    rintro rfl
    exact hg.spacing control name hx

/-- Rules add the same attributes if they give the same values. -/
theorem value_addRuleAttributes_congr {control : String} {c d : Rule.Context}
    (h : ∀ name, (g.attributeValue? control name c).value = (g.attributeValue? control name d).value)
    (names : List String) (n : UiNode) :
    (addRuleAttributes g control c names n).value = (addRuleAttributes g control d names n).value := by
  induction names generalizing n with
  | nil => rfl
  | cons name rest ih =>
    unfold addRuleAttributes
    split
    · exact ih n
    · rw [Logged.value_bind, Logged.value_bind, h name]
      exact ih _

/-- The rules add the same attributes to a control for nodes of the same reading. -/
theorem value_applyAttributeRules_congr (hg : exact = true ∨ g.Discreet)
    (h : a.reading exact inGrid = b.reading exact inGrid) (hc : c.Like exact d) (n : UiNode) :
    (applyAttributeRules g a c n).value = (applyAttributeRules g b d n).value := by
  unfold applyAttributeRules
  split
  · exact value_addRuleAttributes_congr (value_attributeValue?_congr hg h hc _) _ n
  · rfl

/-! ## Leaves -/

/-- Rectangles of the same reading have the same box. -/
theorem rectangleBox_of_reading (h : a.reading exact inGrid = b.reading exact inGrid) (hc : c.Like exact d) :
    rectangleBox g a c = rectangleBox g b d := by
  unfold rectangleBox
  simp only [SceneNode.stringOr_of_reading h "layoutSizingHorizontal" "FIXED" (by decide),
    SceneNode.stringOr_of_reading h "layoutSizingVertical" "FIXED" (by decide),
    SceneNode.stringOr_of_reading h "layoutAlign" "INHERIT" (by decide), SceneNode.name?_of_reading h,
    SceneNode.dimension?_width_of_reading h, SceneNode.dimension?_height_of_reading h,
    SceneNode.backgroundColor?_of_reading h, SceneNode.cornerRadius?_of_reading h, spacingMargin?_congr hc, hc.fill]

/-- Texts of the same reading have the same block. -/
theorem textBlock_of_reading (h : a.reading exact inGrid = b.reading exact inGrid) (hc : c.Like exact d) :
    textBlock a c = textBlock b d := by
  have hchars : a.string? "characters" = b.string? "characters" := congrArg NodeReading.characters h
  unfold textBlock
  simp only [SceneNode.stringOr.eq_def _ "characters", hchars, SceneNode.name?_of_reading h,
    SceneNode.fontFamily?_of_reading h, SceneNode.fontSize?_of_reading h,
    SceneNode.numberOr_of_reading h "fontWeight" 400 (by simp [numberReadings]), SceneNode.textColor?_of_reading h,
    SceneNode.stringOr_of_reading h "layoutSizingHorizontal" "FIXED" (by decide),
    SceneNode.stringOr_of_reading h "layoutSizingVertical" "FIXED" (by decide),
    SceneNode.dimension?_width_of_reading h, SceneNode.dimension?_height_of_reading h, spacingMargin?_congr hc]

/-- Nodes of the same reading that are no frames have the same control. -/
theorem value_leafOf_congr (hg : exact = true ∨ g.Discreet) (h : a.reading exact inGrid = b.reading exact inGrid)
    (hc : c.Like exact d) : (leafOf g a c).value = (leafOf g b d).value := by
  unfold leafOf
  rw [SceneNode.kind_of_reading h]
  cases b.kind with
  | frame => simp only [SceneNode.tag_of_reading h]
  | rectangle =>
    rw [rectangleBox_of_reading h hc]
    exact value_applyAttributeRules_congr hg h hc _
  | text =>
    rw [textBlock_of_reading h hc]
    exact value_applyAttributeRules_congr hg h hc _
  | unknown tag => rfl

/-! ## Frames -/

/-- The layouts of frames of the same reading differ at most in their spacing and their children. -/
theorem layout_of_reading (h : a.reading exact inGrid = b.reading exact inGrid) :
    FrameLayout.of a =
      { FrameLayout.of b with spacing := a.numberOr "itemSpacing" 0, shown := a.children.filter SceneNode.isVisible } := by
  unfold FrameLayout.of
  simp only [SceneNode.name?_of_reading h, SceneNode.stringOr_of_reading h "layoutMode" "NONE" (by decide),
    SceneNode.stringOr_of_reading h "layoutWrap" "NO_WRAP" (by decide),
    SceneNode.stringOr_of_reading h "layoutSizingHorizontal" "FIXED" (by decide),
    SceneNode.stringOr_of_reading h "layoutSizingVertical" "FIXED" (by decide),
    SceneNode.stringOr_of_reading h "layoutAlign" "INHERIT" (by decide),
    SceneNode.stringOr_of_reading h "counterAxisAlignItems" "MIN" (by decide),
    SceneNode.stringOr_of_reading h "primaryAxisAlignItems" "MIN" (by decide)]

/-- Frames of the same reading are finished alike. -/
theorem finishFrame_of_reading (h : a.reading exact inGrid = b.reading exact inGrid) (hc : c.Like exact d) (isRoot : Bool)
    (n : UiNode) :
    finishFrame g a (FrameLayout.of a) isRoot c n = finishFrame g b (FrameLayout.of b) isRoot d n := by
  rw [layout_of_reading h]
  unfold finishFrame isDecorated frameBox withFrameSize
  simp only [SceneNode.cornerRadius?_of_reading h, SceneNode.borderColor?_of_reading h,
    SceneNode.backgroundColor?_of_reading h, SceneNode.padding?_of_reading h, SceneNode.dimension?_width_of_reading h,
    SceneNode.dimension?_height_of_reading h, spacingMargin?_congr hc, hc.fill]

/-- The visible children of frames with the same view fill their widths alike. -/
theorem fillsWidth_of_views {as bs : List SceneNode}
    (h : as.map (SceneNode.view exact inGrid) = bs.map (SceneNode.view exact inGrid)) :
    (as.filter SceneNode.isVisible).map SceneNode.fillsWidth = (bs.filter SceneNode.isVisible).map SceneNode.fillsWidth := by
  induction as generalizing bs with
  | nil => simp [List.map_eq_nil_iff.1 h.symm]
  | cons x xs ih =>
    obtain ⟨y, ys, rfl, hy, hys⟩ := List.map_eq_cons_iff.1 h.symm
    have hr := (SceneNode.view_eq_view_iff.1 hy).1.symm
    have hrest := ih hys.symm
    rw [List.filter_cons, List.filter_cons, SceneNode.isVisible_of_reading hr]
    split
    · rw [List.map_cons, List.map_cons, hrest, SceneNode.fillsWidth_of_reading hr]
    · exact hrest

/-- Of the children of a frame its rules only ask how many there are and which fill their width. -/
theorem context_congr {l : FrameLayout} {shown : List SceneNode}
    (hs : shown.map SceneNode.fillsWidth = l.shown.map SceneNode.fillsWidth) (spacing : Float) (isRoot : Bool) :
    FrameLayout.context { l with spacing := spacing, shown := shown } isRoot = l.context isRoot := by
  have hlen : shown.length = l.shown.length := by simpa using congrArg List.length hs
  have hany : shown.any SceneNode.fillsWidth = l.shown.any SceneNode.fillsWidth := by
    simpa [Function.comp_def] using congrArg (fun fs => fs.any id) hs
  unfold FrameLayout.context FrameLayout.hasFillChild
  simp only [hlen, hany]

/-- The columns of a grid that stands in for a stack follow from which children fill their width. -/
theorem childColumns_congr {as bs : List SceneNode} (isRoot : Bool)
    (h : as.map SceneNode.fillsWidth = bs.map SceneNode.fillsWidth) : childColumns isRoot as = childColumns isRoot bs := by
  induction as generalizing bs with
  | nil => rw [List.map_eq_nil_iff.1 h.symm]
  | cons x xs ih =>
    obtain ⟨y, ys, rfl, hy, hys⟩ := List.map_eq_cons_iff.1 h.symm
    have hempty : xs.isEmpty = ys.isEmpty := by simpa using congrArg List.isEmpty hys.symm
    rw [childColumns, childColumns, ih hys.symm, hy, hempty]

/-- Frames of the same reading whose children fill their widths alike have the same container. -/
theorem withTracks_of_reading (h : a.reading exact inGrid = b.reading exact inGrid)
    (hs : (FrameLayout.of a).shown.map SceneNode.fillsWidth = (FrameLayout.of b).shown.map SceneNode.fillsWidth)
    (e : ContainerDecision) (isRoot : Bool) :
    withTracks e a (FrameLayout.of a) isRoot (containerOf g e (FrameLayout.of a)) =
      withTracks e b (FrameLayout.of b) isRoot (containerOf g e (FrameLayout.of b)) := by
  have hrows : nativeTracks a "gridRowSizes" = nativeTracks b "gridRowSizes" := congrArg NodeReading.rows h
  have hcolumns : nativeTracks a "gridColumnSizes" = nativeTracks b "gridColumnSizes" := congrArg NodeReading.columns h
  have hcontainer : containerOf g e (FrameLayout.of a) = containerOf g e (FrameLayout.of b) := by
    rw [layout_of_reading h]
    rfl
  unfold withTracks
  rw [hcontainer, hrows, hcolumns, childColumns_congr isRoot hs]

/-- Plans that treat children of the same view alike. -/
structure ChildPlan.Like (exact : Bool) (p q : ChildPlan) : Prop where
  decision : p.decision = q.decision
  grid : q.decision.useGridLayout = true → p.grid = q.grid
  layout : p.layout = q.layout
  spacing : SameSpacing exact p.spacing q.spacing
  count : p.count = q.count
  isRoot : p.isRoot = q.isRoot

/-- Children are told alike. -/
theorem contextAt_congr {p q : ChildPlan} (hp : p.Like exact q) (h : a.reading exact inGrid = b.reading exact inGrid)
    (index : Nat) : (p.contextAt index a).Like exact (q.contextAt index b) := by
  refine ⟨hp.spacing, hp.layout, rfl, ?_⟩
  unfold ChildPlan.contextAt
  rw [hp.decision, hp.isRoot, hp.count, SceneNode.fillsWidth_of_reading h]

/-- An anchor below zero is none. -/
theorem trackIndex?_filter (anchor : Option Float) (count : Nat) :
    trackIndex? (anchor.filter (0 ≤ ·)) count = trackIndex? anchor count := by
  cases anchor with
  | none => rfl
  | some x => by_cases hx : 0 ≤ x <;> simp [trackIndex?, Option.filter, hx]

/-- A span that is missing is one. -/
theorem trackSpan_getD (span : Option Float) (start count : Nat) :
    trackSpan (some (span.getD 1)) start count = trackSpan span start count := by
  cases span with
  | none => rfl
  | some x => rfl

/-- Children whose cells are read alike are put into the same cell. -/
theorem gridPlace_of_reading (hcell : (exact || inGrid) = true) (h : a.reading exact inGrid = b.reading exact inGrid)
    (grid : NativeGrid) (index : Nat) (n : UiNode) : grid.place a index n = grid.place b index n := by
  have hanchors := congrArg NodeReading.anchors h
  have hspans := congrArg NodeReading.spans h
  simp only [SceneNode.reading, hcell, if_true, List.map_cons, List.map_nil, List.cons.injEq, and_true] at hanchors hspans
  have hindex : grid.cell a index = grid.cell b index := by
    unfold NativeGrid.cell
    rw [← trackIndex?_filter (a.number? "gridRowAnchorIndex"), ← trackIndex?_filter (a.number? "gridColumnAnchorIndex"),
      hanchors.1, hanchors.2, trackIndex?_filter, trackIndex?_filter]
  have hspan : ∀ key, a.numberOr key 1 = b.numberOr key 1 →
      ∀ start count, trackSpan (a.number? key) start count = trackSpan (b.number? key) start count := by
    intro key hkey start count
    rw [← trackSpan_getD (a.number? key), ← trackSpan_getD (b.number? key)]
    exact congrArg (fun x => trackSpan (some x) start count) hkey
  unfold NativeGrid.place
  simp only [hindex, hspan _ hspans.1, hspan _ hspans.2]

/-- Children whose cells are read alike are placed alike. -/
theorem place_congr {p q : ChildPlan} (hp : p.Like exact q) (h : a.reading exact inGrid = b.reading exact inGrid)
    (hcell : q.decision.useGridLayout = true → (exact || inGrid) = true) (index : Nat) (n : UiNode) :
    p.place index a n = q.place index b n := by
  unfold ChildPlan.place
  rw [hp.decision, hp.count]
  split
  · rename_i hl
    rw [hp.grid hl, gridPlace_of_reading (hcell hl) h]
  · rfl

/-- The container rules are told the layout mode. -/
theorem FrameLayout.get?_mode (l : FrameLayout) (isRoot : Bool) :
    (l.context isRoot).get? "layout_mode" = some (.str l.mode) := by
  simp [FrameLayout.context, Rule.Context.ofList, Rule.Context.get?_set]

/-- A frame gets a grid of its own only where the cells of its children are read. -/
theorem reads_cells_of_useGridLayout (hg : exact = true ∨ g.Discreet) (n : SceneNode) (isRoot : Bool)
    (hl : (g.selectContainer ((FrameLayout.of n).context isRoot)).value.useGridLayout = true) :
    (exact || n.isGrid) = true := by
  rcases hg with he | hg
  · rw [he, Bool.true_or]
  · have hmode := hg.grid _ hl
    rw [FrameLayout.get?_mode] at hmode
    simp only [Option.some.injEq, Value.str.injEq] at hmode
    have hgrid : n.isGrid = true := by
      unfold SceneNode.isGrid
      exact beq_iff_eq.2 hmode
    rw [hgrid, Bool.or_true]

/-- Frames with the same view have the same container, and treat their children alike. -/
theorem value_planFrame_congr (hg : exact = true ∨ g.Discreet) (h : a.reading exact inGrid = b.reading exact inGrid)
    (hc : a.children.map (SceneNode.view exact a.isGrid) = b.children.map (SceneNode.view exact b.isGrid)) (isRoot : Bool) :
    (planFrame g a isRoot).value.1 = (planFrame g b isRoot).value.1 ∧
      (planFrame g a isRoot).value.2.Like exact (planFrame g b isRoot).value.2 := by
  have hs : (FrameLayout.of a).shown.map SceneNode.fillsWidth = (FrameLayout.of b).shown.map SceneNode.fillsWidth := by
    rw [SceneNode.isGrid_of_reading h] at hc
    exact fillsWidth_of_views hc
  have hcontext : (FrameLayout.of a).context isRoot = (FrameLayout.of b).context isRoot := by
    rw [layout_of_reading h]
    exact context_congr hs _ isRoot
  have hcontainer := withTracks_of_reading (g := g) h hs
    (g.selectContainer ((FrameLayout.of b).context isRoot)).value isRoot
  have hlayout := layout_of_reading h
  unfold planFrame
  simp only [Logged.value_bind, Logged.value_pure, hcontext, hcontainer]
  refine ⟨trivial, rfl, fun hl => ?_, ?_, ?_, ?_, rfl⟩
  · have hgaps := congrArg NodeReading.gaps h
    have hread := reads_cells_of_useGridLayout hg b isRoot hl
    rw [SceneNode.reading, SceneNode.reading, SceneNode.isGrid_of_reading h] at hgaps
    simp only [hread, if_true, Prod.mk.injEq] at hgaps
    unfold ChildPlan.of
    rw [hgaps.1, hgaps.2]
  · unfold ChildPlan.of
    rw [hlayout]
  · have hspacing : (SceneNode.reading exact inGrid a).spacing = (SceneNode.reading exact inGrid b).spacing :=
      congrArg NodeReading.spacing h
    unfold SameSpacing
    unfold SceneNode.reading at hspacing
    cases exact with
    | true => exact hspacing
    | false => exact unsignedZero_eq_iff.1 hspacing
  · have hlen : (FrameLayout.of a).shown.length = (FrameLayout.of b).shown.length := by
      simpa using congrArg List.length hs
    exact hlen

/-! ## Trees -/

/-- The control of a node: a frame is built around the controls of its children. -/
theorem SceneNode.value_buildIn (g : Engine) (isRoot : Bool) (c : BuildContext) (n : SceneNode) :
    (n.buildIn g isRoot c).value =
      if n.kind = .frame then
        (applyAttributeRules g n c (finishFrame g n (FrameLayout.of n) isRoot c
          { (planFrame g n isRoot).value.1 with
            children := (SceneNode.buildChildren g (planFrame g n isRoot).value.2 0 n.children).value })).value
      else (leafOf g n c).value := by
  obtain ⟨attributes, children⟩ := n
  by_cases hk : (mk attributes children).kind = .frame
  · rw [if_pos hk]
    cases children <;> simp only [buildIn, if_pos hk] <;> rfl
  · rw [if_neg hk]
    cases children <;> simp only [buildIn, if_neg hk]

/-- The controls of children are those of the visible ones, put into their places. -/
theorem SceneNode.value_buildChildren_cons (g : Engine) (p : ChildPlan) (index : Nat) (n : SceneNode)
    (rest : List SceneNode) :
    (SceneNode.buildChildren g p index (n :: rest)).value =
      if n.isVisible then
        p.place index n (n.buildIn g false (p.contextAt index n)).value ::
          (SceneNode.buildChildren g p (index + 1) rest).value
      else (SceneNode.buildChildren g p index rest).value := by
  rw [buildChildren.eq_def]
  by_cases hv : n.isVisible = true
  · simp only [if_pos hv]
    rfl
  · simp only [if_neg hv]

/-- Children with the same views have the same controls, if this holds for each of them. -/
theorem SceneNode.value_buildChildren_congr {p q : ChildPlan} (hp : p.Like exact q)
    (hcell : q.decision.useGridLayout = true → (exact || inGrid) = true) {as bs : List SceneNode}
    (ih : ∀ a ∈ as, ∀ (b : SceneNode) c d, a.view exact inGrid = b.view exact inGrid → c.Like exact d →
      (a.buildIn g false c).value = (b.buildIn g false d).value)
    (h : as.map (SceneNode.view exact inGrid) = bs.map (SceneNode.view exact inGrid)) (index : Nat) :
    (SceneNode.buildChildren g p index as).value = (SceneNode.buildChildren g q index bs).value := by
  induction as generalizing bs index with
  | nil => rw [List.map_eq_nil_iff.1 h.symm]; rfl
  | cons x xs ihs =>
    obtain ⟨y, ys, rfl, hy, hys⟩ := List.map_eq_cons_iff.1 h.symm
    rw [List.forall_mem_cons] at ih
    have hr := (SceneNode.view_eq_view_iff.1 hy).1.symm
    have hrest := fun i => ihs ih.2 hys.symm i
    have hx := ih.1 y _ _ hy.symm (contextAt_congr hp hr index)
    rw [value_buildChildren_cons, value_buildChildren_cons, SceneNode.isVisible_of_reading hr]
    split
    · rw [hx, place_congr hp hr hcell, hrest]
    · exact hrest index

/-- Trees with the same view have the same interface tree, if the view is exact or the rules are discreet. -/
theorem SceneNode.value_buildIn_of_view (hg : exact = true ∨ g.Discreet) (h : a.view exact inGrid = b.view exact inGrid)
    (hc : c.Like exact d) (isRoot : Bool) : (a.buildIn g isRoot c).value = (b.buildIn g isRoot d).value := by
  induction a using SceneNode.byParts generalizing b c d inGrid isRoot with
  | node a ih =>
    -- On the way down the contexts stay alike, and the children are viewed in the scope of their parent.
    obtain ⟨hr, hchildren⟩ := SceneNode.view_eq_view_iff.1 h
    obtain ⟨hcontainer, hplan⟩ := value_planFrame_congr hg hr hchildren isRoot
    have hbuilt : (SceneNode.buildChildren g (planFrame g a isRoot).value.2 0 a.children).value =
        (SceneNode.buildChildren g (planFrame g b isRoot).value.2 0 b.children).value := by
      refine value_buildChildren_congr hplan (fun hl => reads_cells_of_useGridLayout hg b isRoot hl) ?_ ?_ 0
      · intro x hx y e f hv he
        exact ih x hx hv he false
      · rwa [SceneNode.isGrid_of_reading hr] at hchildren
    rw [value_buildIn, value_buildIn, SceneNode.kind_of_reading hr, hcontainer, hbuilt]
    split
    · rw [finishFrame_of_reading hr hc]
      exact value_applyAttributeRules_congr hg hr hc _
    · exact value_leafOf_congr hg hr hc

end

end SceneMarkup
