import SceneMarkup.Proofs.Compress.Reordered

/-!
# Building and the order of attributes

A node is read by the names of its attributes, and objects in attributes by the names of their fields. Trees that are the
same up to the order of attributes therefore have the same view, even the exact one (`SceneNode.view_reordered`).
-/

namespace SceneMarkup

open Rule (Value)

section

variable {v w : Json} {fs gs : Fields}

/-- The colour of a paint does not depend on the order of fields. -/
theorem paintHex?_reordered (h : (Json.obj fs).Reordered (.obj gs)) : paintHex? fs = paintHex? gs := by
  have hl := Json.lookup_reordered h "color"
  unfold paintHex?
  generalize fs.lookup "color" = x, gs.lookup "color" = y at hl
  cases hl with
  | none => rfl
  | some hvw =>
    cases hvw with
    | leaf => rfl
    | arr items => rfl
    | obj names values => exact colorHex?_reordered (.obj names values)

/-- The opacity of a paint does not depend on the order of fields. -/
theorem paintOpacity_reordered (h : (Json.obj fs).Reordered (.obj gs)) : paintOpacity fs = paintOpacity gs := by
  unfold paintOpacity
  rw [Json.read_lookup_reordered Json.number?_of_not_isScalar h]

/-- The size of a track does not depend on the order of fields. -/
theorem gridTrack_reordered (h : v.Reordered w) : gridTrack v = gridTrack w := by
  have hread : ∀ {α : Type} {p : Json → Option α}, (∀ v : Json, v.isScalar = false → p v = none) →
      ∀ name, (v.field? name).bind p = (w.field? name).bind p := by
    intro α p hp name
    have hf := h.field? name
    generalize v.field? name = x, w.field? name = y at hf
    cases hf with
    | none => rfl
    | some hxy => exact hxy.read hp
  unfold gridTrack
  rw [hread Json.string?_of_not_isScalar, hread Json.number?_of_not_isScalar]

/-- Rules see the items of a list in their order, and nothing of an object. -/
theorem ofJson_reordered (v : Json) : ∀ w, v.Reordered w → Value.ofJson v = Value.ofJson w := by
  induction v using Json.byParts with
  | leaf v ha ho =>
    intro w h
    cases h with
    | leaf => rfl
    | arr => nomatch ha
    | obj => nomatch ho
  | arr items ih =>
    intro w h
    cases h with
    | leaf ha ho => nomatch ha
    | arr items =>
      rw [Value.ofJson, Value.ofJson, Value.list.injEq]
      induction items with
      | nil => rfl
      | cons hxy _ ihs =>
        rw [List.forall_mem_cons] at ih
        rw [Value.ofJsonItems, Value.ofJsonItems, ih.1 _ hxy, ihs ih.2]
  | obj fields ih =>
    intro w h
    cases h with
    | leaf ha ho => nomatch ho
    | obj names values => rw [Value.ofJson, Value.ofJson]

end

namespace SceneNode

section

variable {a b : SceneNode} (h : a.Reordered b)

include h

/-- The text of an attribute, or the same fallback. -/
theorem stringOr_reordered (key default : String) : a.stringOr key default = b.stringOr key default := by
  unfold stringOr
  rw [h.string?]

/-- The number of an attribute, or the same fallback. -/
theorem numberOr_reordered (key : String) (default : Float) : a.numberOr key default = b.numberOr key default := by
  unfold numberOr
  rw [h.number?]

/-- The items of an attribute keep their order. -/
theorem itemsOf_reordered (key : String) : List.Forall₂ Json.Reordered (a.itemsOf key) (b.itemsOf key) := by
  have hk := h.get? key
  unfold itemsOf
  generalize a.get? key = x, b.get? key = y at hk
  cases hk with
  | none => exact .nil
  | some hvw =>
    cases hvw with
    | leaf ha ho => simp [ha]
    | arr items => exact items
    | obj names values => exact .nil

/-- The fields of an attribute are reordered. -/
theorem fieldsOf_reordered (key : String) : (Json.obj (a.fieldsOf key)).Reordered (.obj (b.fieldsOf key)) := by
  have hempty : (Json.obj []).Reordered (.obj []) := .obj (.refl _) fun name v w hv => nomatch hv
  have hk := h.get? key
  unfold fieldsOf
  generalize a.get? key = x, b.get? key = y at hk
  cases hk with
  | none => exact hempty
  | some hvw =>
    cases hvw with
    | leaf ha ho => simpa [ho] using hempty
    | arr items => exact hempty
    | obj names values => exact .obj names values

theorem isVisible_reordered : a.isVisible = b.isVisible := by
  rw [isVisible_eq, isVisible_eq, h.read Json.bool?_of_not_isScalar]

theorem padding?_reordered : padding? a = padding? b := by
  unfold padding?
  simp only [numberOr_reordered h]

theorem cornerRadius?_reordered : cornerRadius? a = cornerRadius? b := by
  rw [cornerRadius?_eq, cornerRadius?_eq, h.read Json.scalar?_of_not_isScalar]
  simp only [numberOr_reordered h]

/-- The first paint of a list has the same colour and opacity. -/
theorem paintReading_reordered (key : String) : a.paintReading key = b.paintReading key := by
  have hpaints : List.Forall₂ (fun fs gs => (Json.obj fs).Reordered (.obj gs)) (a.paints key) (b.paints key) := by
    rw [paints_eq, paints_eq]
    exact List.rel_filterMap (fun x y hxy => hxy.fields?) (itemsOf_reordered h key)
  unfold paintReading
  generalize a.paints key = xs, b.paints key = ys at hpaints
  cases hpaints with
  | nil => rfl
  | cons hp _ => simp [paintHex?_reordered hp, paintOpacity_reordered hp]

theorem nativeTracks_reordered (key : String) : nativeTracks a key = nativeTracks b key := by
  rw [nativeTracks_eq, nativeTracks_eq]
  have htracks := List.rel_map (fun x y hxy => gridTrack_reordered hxy) (itemsOf_reordered h key)
  rwa [List.forall₂_eq_eq_eq] at htracks

theorem fontFamily?_reordered : fontFamily? a = fontFamily? b := by
  rw [fontFamily?_eq, fontFamily?_eq,
    Json.read_lookup_reordered Json.string?_of_not_isScalar (fieldsOf_reordered h "fontName")]

/-- The unit of the height of lines. -/
theorem lineHeightUnit_reordered :
    ((a.lineHeightField? "unit").bind Json.string?).getD "AUTO" =
      ((b.lineHeightField? "unit").bind Json.string?).getD "AUTO" := by
  rw [lineHeightField?_eq, lineHeightField?_eq,
    Json.read_lookup_reordered Json.string?_of_not_isScalar (fieldsOf_reordered h "lineHeight")]

/-- The height of lines, as the rules see it. -/
theorem lineHeight_reordered :
    ((a.lineHeightField? "value").map Value.ofJson).getD .none =
      ((b.lineHeightField? "value").map Value.ofJson).getD .none := by
  have hl := Json.lookup_reordered (fieldsOf_reordered h "lineHeight") "value"
  rw [lineHeightField?_eq, lineHeightField?_eq]
  generalize (a.fieldsOf "lineHeight").lookup "value" = x, (b.fieldsOf "lineHeight").lookup "value" = y at hl
  cases hl with
  | none => rfl
  | some hvw => exact ofJson_reordered _ _ hvw

/-- Nodes that are the same up to the order of attributes are read alike. -/
theorem reading_reordered (exact inGrid : Bool) : a.reading exact inGrid = b.reading exact inGrid := by
  unfold reading
  simp only [h.tag, name?, h.string?, isVisible_reordered h, stringOr_reordered h, numberOr_reordered h, h.number?,
    padding?_reordered h, cornerRadius?_reordered h, paintReading_reordered h, fontFamily?_reordered h,
    lineHeightUnit_reordered h, lineHeight_reordered h, nativeTracks_reordered h, h.isGrid]

end

/-- Trees that are the same up to the order of attributes have the same view. -/
theorem view_reordered (exact : Bool) {a b : SceneNode} (h : a.Reordered b) (inGrid : Bool) :
    a.view exact inGrid = b.view exact inGrid := by
  induction a using byParts generalizing b inGrid with
  | node a ih =>
    rw [view_eq_view_iff, h.isGrid]
    refine ⟨reading_reordered h exact inGrid, ?_⟩
    have hviews : List.Forall₂ Eq (a.children.map (view exact b.isGrid)) (b.children.map (view exact b.isGrid)) := by
      rw [List.forall₂_map_left_iff, List.forall₂_map_right_iff]
      refine ((List.forall₂_and_left _ _).2 ⟨fun c hc => @ih c hc, h.forall₂_children⟩).imp ?_
      rintro c d ⟨ihc, hcd⟩
      exact ihc hcd b.isGrid
    rwa [List.forall₂_eq_eq_eq] at hviews

end SceneNode

end SceneMarkup
