import SceneMarkup.Proofs.Ui.Container
import SceneMarkup.Rule.Builtin

/-!
# Decoration only adds a box

A frame is in a box exactly if it has a border, a background, round corners or padding. What is in the box is the container
that the frame has without them, and without them nothing else is left out (`SceneNode.boxed_iff_decorated`).
-/

namespace SceneMarkup

open Rule (Engine)

/-- The fields but those of some names. -/
def Fields.without (names : List String) (fields : Fields) : Fields :=
  fields.filter fun p => !names.contains p.1

/-- The names that are taken away lead to nothing, any other name to what it led to. -/
theorem Fields.lookup_without (names : List String) (fields : Fields) (key : String) :
    (without names fields).lookup key = if key ∈ names then none else fields.lookup key := by
  unfold without
  induction fields with
  | nil => simp
  | cons p rest ih =>
    obtain ⟨name, v⟩ := p
    rw [List.filter_cons]
    by_cases hname : name ∈ names
    · rw [if_neg (by simp [hname]), ih, List.lookup_cons]
      by_cases hkey : key ∈ names
      · rw [if_pos hkey, if_pos hkey]
      · have hne : (key == name) = false := beq_eq_false_iff_ne.2 fun he => hkey (he ▸ hname)
        rw [if_neg hkey, if_neg hkey, hne]
    · rw [if_pos (by simp [hname]), List.lookup_cons, List.lookup_cons, ih]
      by_cases hkey : key = name
      · subst hkey
        simp [hname]
      · rw [beq_eq_false_iff_ne.2 hkey]

namespace SceneNode

/-- A node without the attributes that decorate a frame. -/
def undecorated (n : SceneNode) : SceneNode :=
  .mk (n.attributes.without decorationNames) n.children?

section

variable (n : SceneNode)

/-- The attributes that decorate a frame are gone. -/
theorem get?_undecorated_of_mem {key : String} (h : key ∈ decorationNames) : n.undecorated.get? key = none :=
  (Fields.lookup_without ..).trans (if_pos h)

/-- All other attributes are left. -/
theorem undecorated_agrees : n.undecorated.Agrees n :=
  fun _ h => (Fields.lookup_without ..).trans (if_neg h)

/-- The children are left. -/
theorem shown_undecorated : n.undecorated.shown = n.shown := rfl

/-- What is left is not decorated. -/
theorem isDecorated_undecorated : isDecorated n.undecorated = false := by
  have hpaint : ∀ key ∈ decorationNames, ∀ fallback, firstPaint? n.undecorated key fallback = none := by
    intro key hkey fallback
    rw [firstPaint?, paints, get?_undecorated_of_mem n hkey]
  have hside : ∀ key ∈ decorationNames, n.undecorated.numberOr key 0 = 0 := by
    intro key hkey
    rw [numberOr, number?, get?_undecorated_of_mem n hkey]
    rfl
  have hcorner : cornerRadius? n.undecorated = none := by
    rw [cornerRadius?, get?_undecorated_of_mem n (by decide)]
  have hborder : borderColor? n.undecorated = none := by
    rw [borderColor?, hpaint _ (by decide)]
    rfl
  have hbackground : backgroundColor? n.undecorated = none := by
    rw [backgroundColor?, hpaint _ (by decide)]
    rfl
  have hpadding : padding? n.undecorated = none := by
    unfold padding?
    rw [hside "paddingLeft" (by decide), hside "paddingTop" (by decide), hside "paddingRight" (by decide),
      hside "paddingBottom" (by decide)]
    rfl
  rw [isDecorated, hcorner, hborder, hbackground, hpadding]
  rfl

end

variable {g : Engine} {isRoot : Bool} {n : SceneNode}

/-- Without decoration a frame has the same container, with the same controls in it. -/
theorem filledContainer_undecorated : n.undecorated.filledContainer g isRoot = n.filledContainer g isRoot := by
  obtain ⟨hcontainer, hcells⟩ := n.undecorated_agrees.container_eq g isRoot (congrArg _ (shown_undecorated n))
  unfold filledContainer
  rw [hcontainer, hcells, shown_undecorated]

/-- A frame that is not decorated is the same without the attributes that could decorate it. -/
theorem buildIn_undecorated_of_not_isDecorated (c : BuildContext) (hk : n.kind = .frame) (hd : isDecorated n = false) :
    (n.undecorated.buildIn g isRoot c).value = (n.buildIn g isRoot c).value := by
  have hagrees := n.undecorated_agrees
  have hname : (FrameLayout.of n.undecorated).name = (FrameLayout.of n).name := by
    rw [hagrees.layout]
  have hfinish : finishFrame g n.undecorated (FrameLayout.of n.undecorated) isRoot c (n.filledContainer g isRoot) =
      finishFrame g n (FrameLayout.of n) isRoot c (n.filledContainer g isRoot) := by
    unfold finishFrame
    rw [isDecorated_undecorated, hd, hname]
    simp only [Bool.false_eq_true, if_false]
    rw [hagrees.withFrameSize]
  rw [value_buildIn_frame g isRoot c hk, value_buildIn_frame g isRoot c (hagrees.kind.trans hk), filledContainer_undecorated,
    hfinish, hagrees.applyAttributeRules]

/-- A frame is in a box exactly if it has a border, a background, round corners or padding. In the box there is one container,
which has the role, the tracks and the contents of the frame without what decorates it. A frame in no box is the same without
the attributes that could decorate it: a container, which its comment names. -/
theorem boxed_iff_decorated (g : Engine) (isRoot : Bool) (c : BuildContext) (hk : n.kind = .frame) :
    ((n.buildIn g isRoot c).value.kind = .box ↔
        (borderColor? n).isSome = true ∨ (backgroundColor? n).isSome = true ∨ (cornerRadius? n).isSome = true ∨
          (padding? n).isSome = true) ∧
      ((n.buildIn g isRoot c).value.kind = .box →
        ∃ container, (n.buildIn g isRoot c).value.children = [container] ∧ container.kind.isContainer = true ∧
          container.kind = (n.undecorated.buildIn g isRoot c).value.kind ∧
          container.rows = (n.undecorated.buildIn g isRoot c).value.rows ∧
          container.columns = (n.undecorated.buildIn g isRoot c).value.columns ∧
          container.children = (n.undecorated.buildIn g isRoot c).value.children) ∧
      ((n.buildIn g isRoot c).value.kind ≠ .box →
        (n.buildIn g isRoot c).value = (n.undecorated.buildIn g isRoot c).value ∧
          (n.buildIn g isRoot c).value.kind.isContainer = true ∧
          (n.buildIn g isRoot c).value.comment = some (n.name?.getD "Frame" ++ " container")) := by
  have hcontainer := isContainer_filledContainer g isRoot n
  refine ⟨?_, ?_, ?_⟩
  · rw [kind_eq_box_iff g isRoot c hk, isDecorated]
    simp only [Bool.or_eq_true]
    tauto
  · intro hbox
    have hd := (kind_eq_box_iff g isRoot c hk).1 hbox
    -- Without decoration the frame is in no box, so it is the container with another comment and other attributes.
    have hkm := n.undecorated_agrees.kind.trans hk
    have hform := form_of_not_isDecorated g isRoot c hkm n.isDecorated_undecorated
    rw [filledContainer_undecorated] at hform
    obtain ⟨hkind, hchildren, -, hrows, hcolumns⟩ := UiNode.form_eq_iff.1 hform
    exact ⟨_, (boxed_of_isDecorated g isRoot c hk hd).2, hcontainer, hkind.symm, hrows.symm, hcolumns.symm, hchildren.symm⟩
  · intro hbox
    have hd : isDecorated n = false := by
      rw [Ne, kind_eq_box_iff g isRoot c hk] at hbox
      exact Bool.eq_false_iff.2 hbox
    obtain ⟨hkind, -, hcomment, -⟩ := UiNode.form_eq_iff.1 (form_of_not_isDecorated g isRoot c hk hd)
    refine ⟨(buildIn_undecorated_of_not_isDecorated c hk hd).symm, ?_, hcomment⟩
    rw [hkind]
    exact hcontainer

/-- A card with one round corner, and with paints and padding that do not show. -/
def mixedCard : SceneNode :=
  .mk [("type", .str "FRAME"), ("fills", .arr []), ("paddingTop", .num (.whole 0)), ("cornerRadius", .str "Mixed"),
      ("bottomLeftRadius", .num (.whole 4))]
    (some [.mk [("type", .str "TEXT")] none])

/-- A card with a fill that shines through and a stroke of no colour. -/
def paintedCard : SceneNode :=
  .mk [("type", .str "FRAME"), ("cornerRadius", .num (.whole 0)), ("strokes", .arr [.obj [("type", .str "SOLID")]]),
      ("fills", .arr [.obj [("type", .str "SOLID"), ("color", .str "#ff8800"), ("opacity", .num (.real 0.5 (by decide)))]])]
    (some [.mk [("type", .str "TEXT")] none])

/-- One round corner is enough for a box, and so is a paint. The container in the box is that of the card without them. -/
theorem boxed_iff_decorated_mixedCard :
    (mixedCard.kind = .frame ∧ cornerRadius? mixedCard = some "0,0,0,4" ∧
      (mixedCard.buildIn .builtin true .root).value.kind = .box ∧
      ∃ container, (mixedCard.buildIn .builtin true .root).value.children = [container] ∧
        container.children = (mixedCard.undecorated.buildIn .builtin true .root).value.children) ∧
    (paintedCard.kind = .frame ∧ borderColor? paintedCard = some "#000000" ∧
      backgroundColor? paintedCard = some "#80FF8800" ∧
      (paintedCard.buildIn .builtin true .root).value.kind = .box ∧
      ∃ container, (paintedCard.buildIn .builtin true .root).value.children = [container] ∧
        container.children = (paintedCard.undecorated.buildIn .builtin true .root).value.children) := by
  have hcorner : cornerRadius? mixedCard = some "0,0,0,4" := rfl
  have hborder : borderColor? paintedCard = some "#000000" := rfl
  have hbackground : backgroundColor? paintedCard = some "#80FF8800" := rfl
  refine ⟨?_, ?_⟩
  · obtain ⟨hiff, hboxed, -⟩ := boxed_iff_decorated .builtin true .root (rfl : mixedCard.kind = .frame)
    have hbox := hiff.2 (.inr (.inr (.inl (by rw [hcorner]; rfl))))
    obtain ⟨container, hchildren, -, -, -, -, hsame⟩ := hboxed hbox
    exact ⟨rfl, hcorner, hbox, container, hchildren, hsame⟩
  · obtain ⟨hiff, hboxed, -⟩ := boxed_iff_decorated .builtin true .root (rfl : paintedCard.kind = .frame)
    have hbox := hiff.2 (.inl (by rw [hborder]; rfl))
    obtain ⟨container, hchildren, -, -, -, -, hsame⟩ := hboxed hbox
    exact ⟨rfl, hborder, hbackground, hbox, container, hchildren, hsame⟩

end SceneNode

end SceneMarkup
