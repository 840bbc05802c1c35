import SceneMarkup.Proofs.Ui.Build

/-!
# Nodes that agree but for decoration

The attributes that decorate a frame have no part in its layout. Nodes that agree on all others (`SceneNode.Agrees`) have the
same size and ask the same of the attribute rules, and as frames they get the same container and do the same with their
children if these fill their widths alike (`SceneNode.Agrees.planFrame`).
-/

namespace SceneMarkup

open Rule (Engine)

/-- The attributes that decorate a frame: its border, its background, its corners and its padding. -/
def decorationNames : List String :=
  ["strokes", "fills", "cornerRadius", "paddingLeft", "paddingTop", "paddingRight", "paddingBottom"]

namespace SceneNode

/-- Nodes agree on all attributes but those that decorate a frame. -/
def Agrees (m n : SceneNode) : Prop :=
  ∀ key ∉ decorationNames, m.get? key = n.get? key

/-- Nodes with the same attributes agree. -/
theorem agrees_of_attributes {m n : SceneNode} (h : m.attributes = n.attributes) : m.Agrees n := by
  intro key _
  rw [get?, get?, h]

namespace Agrees

variable {m n : SceneNode} (h : m.Agrees n)

include h

theorem stringOr {key : String} (hkey : key ∉ decorationNames) (default : String) :
    m.stringOr key default = n.stringOr key default := by
  rw [SceneNode.stringOr, SceneNode.stringOr, string?, string?, h key hkey]

theorem number? {key : String} (hkey : key ∉ decorationNames) : m.number? key = n.number? key := by
  rw [SceneNode.number?, SceneNode.number?, h key hkey]

theorem numberOr {key : String} (hkey : key ∉ decorationNames) (default : Float) :
    m.numberOr key default = n.numberOr key default := by
  rw [SceneNode.numberOr, SceneNode.numberOr, h.number? hkey]

theorem name? : m.name? = n.name? := by
  rw [SceneNode.name?, SceneNode.name?, string?, string?, h "name" (by decide)]

theorem kind : m.kind = n.kind := by
  rw [SceneNode.kind, SceneNode.kind, tag, tag, h.stringOr (by decide)]

theorem dimension? {key : String} (hkey : key ∉ decorationNames) : dimension? m key = dimension? n key := by
  rw [SceneMarkup.dimension?, SceneMarkup.dimension?, h.number? hkey]

theorem nativeTracks {key : String} (hkey : key ∉ decorationNames) : nativeTracks m key = nativeTracks n key := by
  rw [SceneMarkup.nativeTracks, SceneMarkup.nativeTracks, h key hkey]

/-- The layouts of frames that agree differ at most in their children. -/
theorem layout : FrameLayout.of m = { FrameLayout.of n with shown := (FrameLayout.of m).shown } := by
  have htext : ∀ key ∉ decorationNames, ∀ default, m.stringOr key default = n.stringOr key default :=
    fun key hkey default => h.stringOr hkey default
  have hspacing : m.numberOr "itemSpacing" 0 = n.numberOr "itemSpacing" 0 := h.numberOr (by decide) 0
  unfold FrameLayout.of
  rw [h.name?, htext "layoutMode" (by decide), htext "layoutWrap" (by decide), htext "layoutSizingHorizontal" (by decide),
    htext "layoutSizingVertical" (by decide), htext "layoutAlign" (by decide), hspacing,
    htext "counterAxisAlignItems" (by decide), htext "primaryAxisAlignItems" (by decide)]

/-- Frames that agree and whose children fill their widths alike are planned alike. -/
theorem planFrame (hfills : (FrameLayout.of m).shown.map fillsWidth = (FrameLayout.of n).shown.map fillsWidth) (g : Engine)
    (isRoot : Bool) : planFrame g m isRoot = planFrame g n isRoot := by
  have hcontext : (FrameLayout.of m).context isRoot = (FrameLayout.of n).context isRoot := by
    rw [h.layout]
    exact context_congr hfills _ isRoot
  have hcontainer : ∀ d, containerOf g d (FrameLayout.of m) = containerOf g d (FrameLayout.of n) := by
    intro d
    rw [h.layout]
    rfl
  have htracks : ∀ d, withTracks d m (FrameLayout.of m) isRoot (containerOf g d (FrameLayout.of m)) =
      withTracks d n (FrameLayout.of n) isRoot (containerOf g d (FrameLayout.of n)) := by
    intro d
    unfold withTracks
    rw [hcontainer, h.nativeTracks (by decide), h.nativeTracks (by decide), childColumns_congr isRoot hfills]
  have hcount : (FrameLayout.of m).shown.length = (FrameLayout.of n).shown.length := by
    simpa using congrArg List.length hfills
  have hplan : ∀ d container, ChildPlan.of d m (FrameLayout.of m) isRoot container =
      ChildPlan.of d n (FrameLayout.of n) isRoot container := by
    intro d container
    unfold ChildPlan.of
    rw [hcount, h.numberOr (by decide), h.numberOr (by decide), h.layout]
  have hname : (FrameLayout.of m).name = (FrameLayout.of n).name := by
    rw [h.layout]
  unfold SceneMarkup.planFrame
  simp only [hcontext, htracks, hplan, hname]

/-- Of nodes that agree the attribute rules may ask the same. -/
theorem attributeContext (c : BuildContext) : attributeContext m c = attributeContext n c := by
  have htext : ∀ key ∉ decorationNames, ∀ default, m.stringOr key default = n.stringOr key default :=
    fun key hkey default => h.stringOr hkey default
  have hnumber : ∀ key ∉ decorationNames, m.number? key = n.number? key := fun key hkey => h.number? hkey
  have hopacity : m.numberOr "opacity" 1 = n.numberOr "opacity" 1 := h.numberOr (by decide) 1
  unfold SceneMarkup.attributeContext
  simp only [h "lineHeight" (by decide), h.name?, htext "layoutSizingHorizontal" (by decide),
    htext "layoutSizingVertical" (by decide), htext "layoutAlign" (by decide), hnumber "width" (by decide),
    hnumber "height" (by decide), hopacity, htext "textAlignHorizontal" (by decide), htext "textAutoResize" (by decide)]

/-- The attribute rules add the same for nodes that agree. -/
theorem applyAttributeRules (g : Engine) (c : BuildContext) (u : UiNode) :
    applyAttributeRules g m c u = applyAttributeRules g n c u := by
  unfold SceneMarkup.applyAttributeRules
  rw [h.attributeContext]

/-- Frames that agree have the same size. -/
theorem withFrameSize (g : Engine) (isRoot : Bool) (c : BuildContext) (u : UiNode) :
    withFrameSize g m (FrameLayout.of m) isRoot c u = withFrameSize g n (FrameLayout.of n) isRoot c u := by
  unfold SceneMarkup.withFrameSize
  rw [h.dimension? (by decide), h.dimension? (by decide), h.layout]

end Agrees

end SceneNode

end SceneMarkup
