import Mathlib.Data.List.Forall2
import SceneMarkup.Proofs.Rule.Compile
import SceneMarkup.Proofs.Scene.Node
import SceneMarkup.Proofs.Ui.Build
import SceneMarkup.Proofs.Ui.Outline
import SceneMarkup.Rule.Builtin

/-!
# Attribute rules only add attributes

A tree is extended by another one if both have the same controls, comments and tracks, and if every attribute of the first
has the same value in the second (`UiNode.ExtendedBy`). What a scene tree becomes without attribute rules is extended by what
it becomes with any (`SceneNode.value_buildIn_extendedBy`): a rule leaves alone what is set before it is asked, and what a
parent sets on a child afterwards is set whether a rule was there first or not.
-/

namespace SceneMarkup

open Rule (Engine)

/-- Of a control only the attribute that is set has another value. -/
theorem UiNode.get?_set (n : UiNode) (name value other : String) :
    (n.set name value).get? other = if other = name then some value else n.get? other :=
  Named.lookup_put name value other n.attributes

namespace UiNode

/-- A tree is extended by one with the same controls, comments and tracks in which every attribute of it has the same value;
only there may be further attributes. -/
inductive ExtendedBy : UiNode → UiNode → Prop where
  | intro {u v : UiNode} (kind : u.kind = v.kind) (comment : u.comment = v.comment) (rows : u.rows = v.rows)
      (columns : u.columns = v.columns) (attributes : ∀ name value, u.get? name = some value → v.get? name = some value)
      (children : List.Forall₂ ExtendedBy u.children v.children) : ExtendedBy u v

namespace ExtendedBy

variable {u v a b : UiNode}

/-- A tree is extended by itself. -/
theorem refl (u : UiNode) : u.ExtendedBy u := by
  induction u using byParts with
  | node u ih => exact .intro rfl rfl rfl rfl (fun _ _ h => h) (List.forall₂_same.2 ih)

/-- What is set on both sides is the same on both. -/
theorem set (h : u.ExtendedBy v) (name value : String) : (u.set name value).ExtendedBy (v.set name value) := by
  obtain ⟨kind, comment, rows, columns, attributes, children⟩ := h
  refine .intro kind comment rows columns ?_ children
  intro other x hx
  by_cases hother : other = name
  · rw [get?_set, if_pos hother] at hx ⊢
    exact hx
  · rw [get?_set, if_neg hother] at hx ⊢
    exact attributes other x hx

/-- What is set on both sides, or on none, is the same on both. -/
theorem setSome (h : u.ExtendedBy v) (name : String) (value? : Option String) :
    (u.setSome name value?).ExtendedBy (v.setSome name value?) := by
  cases value? with
  | none => exact h
  | some value => exact h.set name value

/-- What is set on both sides under a condition is the same on both. -/
theorem setIf (h : u.ExtendedBy v) (p : Prop) [Decidable p] (name value : String) :
    (if p then u.set name value else u).ExtendedBy (if p then v.set name value else v) := by
  split
  · exact h.set name value
  · exact h

/-- What is set on both sides under a condition, or on none, is the same on both. -/
theorem setSomeIf (h : u.ExtendedBy v) (p : Prop) [Decidable p] (name : String) (value? : Option String) :
    (if p then u.setSome name value? else u).ExtendedBy (if p then v.setSome name value? else v) := by
  split
  · exact h.setSome name value?
  · exact h

/-- An attribute that is set nowhere may be set in the extension. -/
theorem setSome_right (h : u.ExtendedBy v) {name : String} (hnew : v.has name = false) (value? : Option String) :
    u.ExtendedBy (v.setSome name value?) := by
  cases value? with
  | none => exact h
  | some value =>
    obtain ⟨kind, comment, rows, columns, attributes, children⟩ := h
    refine .intro kind comment rows columns ?_ children
    intro other x hx
    have hother : other ≠ name := by
      rintro rfl
      rw [has, attributes other x hx] at hnew
      nomatch hnew
    have hkept : (v.set name value).get? other = v.get? other := by
      rw [get?_set, if_neg hother]
    exact hkept.trans (attributes other x hx)

/-- The same comment on both sides. -/
theorem withComment (h : u.ExtendedBy v) (comment : String) : (u.withComment comment).ExtendedBy (v.withComment comment) := by
  obtain ⟨kind, -, rows, columns, attributes, children⟩ := h
  exact .intro kind rfl rows columns attributes children

/-- Other contents, which are extended one by one. -/
theorem withChildren {us vs : List UiNode} (h : List.Forall₂ ExtendedBy us vs) (u : UiNode) :
    ExtendedBy { u with children := us } { u with children := vs } :=
  .intro rfl rfl rfl rfl (fun _ _ h => h) h

/-- A further control on both sides. -/
theorem addChild (h : a.ExtendedBy b) (u : UiNode) : (u.addChild a).ExtendedBy (u.addChild b) := by
  refine withChildren ?_ u
  exact List.rel_append (List.forall₂_same.2 fun c _ => refl c) (.cons h .nil)

end ExtendedBy

end UiNode

/-! ## Steps of the builder -/

section

variable {g : Engine} {n : SceneNode} {c : BuildContext} {l : FrameLayout} {u v : UiNode}

/-- A child is put into its place whatever its attributes are. -/
theorem UiNode.ExtendedBy.place (h : u.ExtendedBy v) (p : ChildPlan) (index : Nat) :
    (p.place index n u).ExtendedBy (p.place index n v) := by
  unfold ChildPlan.place
  split
  · unfold NativeGrid.place
    simp only []
    refine setIf ?_ _ "Margin" _
    refine setIf ?_ _ "Grid.ColumnSpan" _
    refine setIf ?_ _ "Grid.RowSpan" _
    exact (h.set "Grid.Row" _).set "Grid.Column" _
  · split
    · unfold placeInStack
      split
      · cases p.decision.orientationOrDefault with
        | horizontal => exact h.set "Grid.Column" _
        | vertical => exact h.set "Grid.Row" _
      · exact h.set "Grid.Column" _
    · exact h

/-- A frame is finished whatever the attributes of the controls in it are. -/
theorem UiNode.ExtendedBy.finishFrame (h : u.ExtendedBy v) (isRoot : Bool) :
    (finishFrame g n l isRoot c u).ExtendedBy (finishFrame g n l isRoot c v) := by
  have hsize : ∀ {a b : UiNode}, a.ExtendedBy b →
      (withFrameSize g n l isRoot c a).ExtendedBy (withFrameSize g n l isRoot c b) := by
    intro a b hab
    unfold withFrameSize
    refine setIf ?_ _ "HorizontalAlignment" "Stretch"
    refine setSomeIf ?_ _ "Height" _
    exact setSomeIf hab _ "Width" _
  have hresult : (if isDecorated n then frameBox g n l isRoot c u
      else withFrameSize g n l isRoot c (u.withComment (l.name ++ " container"))).ExtendedBy
        (if isDecorated n then frameBox g n l isRoot c v
          else withFrameSize g n l isRoot c (v.withComment (l.name ++ " container"))) := by
    split
    · exact h.addChild _
    · exact hsize (h.withComment _)
  unfold SceneMarkup.finishFrame
  cases isRoot with
  | true => exact hresult
  | false => exact hresult.setSome "Margin" (spacingMargin? c)

/-- Attribute rules extend a control. -/
theorem extendedBy_addRuleAttributes (h : u.ExtendedBy v) (control : String) (context : Rule.Context)
    (names : List String) : u.ExtendedBy (addRuleAttributes g control context names v).value := by
  induction names generalizing v with
  | nil => exact h
  | cons name rest ih =>
    unfold addRuleAttributes
    by_cases hset : v.has name = true
    · rw [if_pos hset]
      exact ih h
    · rw [if_neg hset, Logged.value_bind]
      exact ih (h.setSome_right (Bool.eq_false_iff.2 hset) _)

/-- The attribute rules for the control of a node extend it. -/
theorem extendedBy_applyAttributeRules (h : u.ExtendedBy v) : u.ExtendedBy (applyAttributeRules g n c v).value := by
  unfold applyAttributeRules
  split
  · exact extendedBy_addRuleAttributes h ..
  · exact h

/-- Without attribute rules a control stays what it is. -/
theorem value_applyAttributeRules_of_no_rules (hnone : ∀ control name, g.rulesFor control name = []) :
    (applyAttributeRules g n c u).value = u := by
  have hvalue : ∀ control name context, (g.attributeValue? control name context).value = none := by
    intro control name context
    rw [Engine.attributeValue?, hnone]
    rfl
  have hadd : ∀ control context names, (addRuleAttributes g control context names u).value = u := by
    intro control context names
    induction names with
    | nil => rfl
    | cons name rest ih =>
      unfold addRuleAttributes
      split
      · exact ih
      · rw [Logged.value_bind, hvalue]
        exact ih
  unfold applyAttributeRules
  split
  · exact hadd ..
  · rfl

end

/-! ## Trees -/

section

variable {g h : Engine} {n : SceneNode} {c : BuildContext}

/-- What attribute rules have no part in is the same for engines with the same container rules and mapping: the container of
a frame, the frame around it, and the box of a rectangle. -/
theorem steps_congr (hrules : g.containerRules = h.containerRules) (hmapping : g.mapping = h.mapping) (isRoot : Bool) :
    planFrame g n isRoot = planFrame h n isRoot ∧
      (∀ l u, finishFrame g n l isRoot c u = finishFrame h n l isRoot c u) ∧ rectangleBox g n c = rectangleBox h n c := by
  have hselect : g.selectContainer = h.selectContainer := by
    funext context
    unfold Engine.selectContainer Engine.selectRule
    rw [hrules]
  unfold planFrame
  rw [hselect]
  -- What else the steps ask of an engine is its mapping.
  clear hrules hselect
  obtain ⟨config, mapping, conditions, table⟩ := g
  obtain ⟨config', mapping', conditions', table'⟩ := h
  obtain rfl : mapping = mapping' := hmapping
  exact ⟨rfl, fun l u => rfl, rfl⟩

/-- A node that is no frame has the control that it has without attribute rules, extended by what they add. -/
theorem value_leafOf_extendedBy (hrules : g.containerRules = h.containerRules) (hmapping : g.mapping = h.mapping)
    (hnone : ∀ control name, h.rulesFor control name = []) (n : SceneNode) (c : BuildContext) :
    (leafOf h n c).value.ExtendedBy (leafOf g n c).value := by
  unfold leafOf
  cases n.kind with
  | frame => exact .refl _
  | rectangle =>
    obtain ⟨-, -, hbox⟩ := steps_congr (n := n) (c := c) hrules hmapping false
    simp only [value_applyAttributeRules_of_no_rules hnone, hbox]
    exact extendedBy_applyAttributeRules (.refl _)
  | text =>
    simp only [value_applyAttributeRules_of_no_rules hnone]
    exact extendedBy_applyAttributeRules (.refl _)
  | unknown tag => exact .refl _

namespace SceneNode

/-- The controls of children are extended one by one, if this holds for each child. -/
theorem value_buildChildren_extendedBy (p : ChildPlan) {children : List SceneNode}
    (ih : ∀ child ∈ children, ∀ c, (child.buildIn h false c).value.ExtendedBy (child.buildIn g false c).value)
    (index : Nat) :
    List.Forall₂ UiNode.ExtendedBy (buildChildren h p index children).value (buildChildren g p index children).value := by
  induction children generalizing index with
  | nil => exact .nil
  | cons child rest ihs =>
    rw [List.forall_mem_cons] at ih
    rw [value_buildChildren_cons, value_buildChildren_cons]
    split
    · exact .cons ((ih.1 _).place p index) (ihs ih.2 (index + 1))
    · exact ihs ih.2 index

/-- Attribute rules only add attributes: what a scene tree becomes with them extends what it becomes without any, if the
container rules and the mapping are the same. -/
theorem value_buildIn_extendedBy (hrules : g.containerRules = h.containerRules) (hmapping : g.mapping = h.mapping)
    (hnone : ∀ control name, h.rulesFor control name = []) (n : SceneNode) (isRoot : Bool) (c : BuildContext) :
    (n.buildIn h isRoot c).value.ExtendedBy (n.buildIn g isRoot c).value := by
  induction n using byParts generalizing isRoot c with
  | node n ih =>
    rw [value_buildIn, value_buildIn]
    split
    · obtain ⟨hplan, hfinish, -⟩ := steps_congr (n := n) (c := c) hrules hmapping isRoot
      have hchildren := value_buildChildren_extendedBy (planFrame h n isRoot).value.2
        (fun child hchild c => ih child hchild false c) 0
      rw [value_applyAttributeRules_of_no_rules hnone, hplan, hfinish]
      exact extendedBy_applyAttributeRules ((UiNode.ExtendedBy.withChildren hchildren _).finishFrame isRoot)
    · exact value_leafOf_extendedBy hrules hmapping hnone n c

/-- Layout rules whose attribute rules ask for what the builder, and then the grid, sets on a text. -/
def greedyRules : Rule.RuleConfig where
  containerRules := Rule.RuleConfig.builtin.containerRules
  attributeRules := [("TextBlock", [("Grid.Column", [⟨"true", "7"⟩]), ("Opacity", [⟨"opacity < 1", "\x7bopacity\x7d"⟩]),
    ("Text", [⟨"true", "Ruled"⟩])])]

/-- The same layout rules without attribute rules. -/
def modestRules : Rule.RuleConfig where
  containerRules := Rule.RuleConfig.builtin.containerRules
  attributeRules := []

/-- A grid of one column around a text. -/
def textGrid : SceneNode :=
  .mk [("type", .str "FRAME"), ("layoutMode", .str "GRID"), ("gridColumnSizes", .arr [.obj [("type", .str "FLEX")]])]
    (some [.mk [("type", .str "TEXT"), ("characters", .str "Title")] none])

/-- The text in the grid keeps what it has without the greedy rules. -/
theorem value_buildIn_extendedBy_textGrid :
    (Engine.compile greedyRules .builtin).value.containerRules = (Engine.compile modestRules .builtin).value.containerRules ∧
      (Engine.compile greedyRules .builtin).value.mapping = (Engine.compile modestRules .builtin).value.mapping ∧
      (∀ control name, (Engine.compile modestRules .builtin).value.rulesFor control name = []) ∧
      (textGrid.buildIn (Engine.compile modestRules .builtin).value true .root).value.ExtendedBy
        (textGrid.buildIn (Engine.compile greedyRules .builtin).value true .root).value := by
  have hrules : (Engine.compile greedyRules .builtin).value.containerRules =
      (Engine.compile modestRules .builtin).value.containerRules := by
    rw [Engine.containerRules_compile, Engine.containerRules_compile]
    rfl
  have hmapping : (Engine.compile greedyRules .builtin).value.mapping = (Engine.compile modestRules .builtin).value.mapping := by
    rw [Engine.value_compile, Engine.value_compile]
  have hnone : ∀ control name, (Engine.compile modestRules .builtin).value.rulesFor control name = [] := by
    intro control name
    rw [Engine.rulesFor_compile]
    rfl
  exact ⟨hrules, hmapping, hnone, value_buildIn_extendedBy hrules hmapping hnone textGrid true .root⟩

end SceneNode

end

end SceneMarkup
