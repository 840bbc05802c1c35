import SceneMarkup.Proofs.Compress.Tree
import SceneMarkup.Proofs.Json.Reordered
import SceneMarkup.Proofs.Scene.Codec

/-!
# Scene trees whose attributes stand in another order

Two trees are the same up to the order of attributes (`SceneNode.Reordered`) if they have the same shape, and their nodes at
each place the same attributes up to the order of fields. Objects that are the same up to the order of fields are decoded
into such trees (`SceneNode.decode_reordered`), although decoding moves another field to the place of the children.
-/

namespace SceneMarkup

namespace SceneNode

/-- The trees are the same up to the order of attributes, and of the fields of the objects in them. -/
inductive Reordered : SceneNode → SceneNode → Prop where
  | mk {a b : SceneNode} (attributes : (Json.obj a.attributes).Reordered (.obj b.attributes))
      (children : Option.Rel (List.Forall₂ Reordered) a.children? b.children?) : Reordered a b

variable {a b : SceneNode} {v w : Json} {fs gs : Fields}

/-- The children of reordered trees are reordered one by one. -/
theorem Reordered.forall₂_children (h : a.Reordered b) : List.Forall₂ Reordered a.children b.children := by
  obtain ⟨-, hc⟩ := h
  unfold children
  generalize a.children? = as, b.children? = bs at hc
  cases hc with
  | none => exact .nil
  | some hc => exact hc

/-- The attributes of reordered trees are reordered. -/
theorem Reordered.attributes (h : a.Reordered b) : (Json.obj a.attributes).Reordered (.obj b.attributes) := by
  cases h with
  | mk attributes children => exact attributes

/-- An attribute of reordered trees. -/
theorem Reordered.get? (h : a.Reordered b) (key : String) : Option.Rel Json.Reordered (a.get? key) (b.get? key) :=
  Json.lookup_reordered h.attributes key

/-- What is read of a scalar attribute. -/
theorem Reordered.read {α : Type} {p : Json → Option α} (hp : ∀ v : Json, v.isScalar = false → p v = none)
    (h : a.Reordered b) (key : String) : (a.get? key).bind p = (b.get? key).bind p :=
  Json.read_lookup_reordered hp h.attributes key

/-- The text of an attribute. -/
theorem Reordered.string? (h : a.Reordered b) (key : String) : a.string? key = b.string? key :=
  h.read Json.string?_of_not_isScalar key

/-- The number of an attribute. -/
theorem Reordered.number? (h : a.Reordered b) (key : String) : a.number? key = b.number? key :=
  h.read Json.number?_of_not_isScalar key

/-- Reordered trees have the same type. -/
theorem Reordered.tag (h : a.Reordered b) : a.tag = b.tag := by
  unfold SceneNode.tag stringOr
  rw [h.string?]

/-- Reordered trees are grids or not alike. -/
theorem Reordered.isGrid (h : a.Reordered b) : a.isGrid = b.isGrid := by
  unfold SceneNode.isGrid stringOr
  rw [h.string?]

/-! ## Decoding -/

/-- Reordered objects give their nodes reordered attributes. -/
theorem attributesOf_reordered (hd : (Json.obj fs).Distinct) (h : (Json.obj fs).Reordered (.obj gs)) :
    (Json.obj (attributesOf fs)).Reordered (.obj (attributesOf gs)) := by
  have hd' := h.distinct hd
  refine Json.reordered_of_lookup (Json.distinct_obj.1 (distinct_attributesOf hd)).1
    (Json.distinct_obj.1 (distinct_attributesOf hd')).1 fun key => ?_
  have hl := Json.lookup_reordered h key
  rw [lookup_attributesOf (Json.distinct_obj.1 hd).1, lookup_attributesOf (Json.distinct_obj.1 hd').1]
  generalize fs.lookup key = x, gs.lookup key = y at hl
  cases hl with
  | none => exact .none
  | some hvw =>
    rw [Option.filter_some, Option.filter_some, hvw.items?_isNone]
    split
    · exact .some hvw
    · exact .none

/-- The lists of children of reordered objects are decoded into reordered trees, if this holds for their items. -/
theorem decodeChildren_reordered
    (ih : ∀ items, (fs.lookup "children").bind Json.items? = some items →
      ∀ x ∈ items, ∀ y, x.Reordered y → Option.Rel Reordered (decode x).value (decode y).value)
    (h : (Json.obj fs).Reordered (.obj gs)) :
    Option.Rel (List.Forall₂ Reordered)
      (((fs.lookup "children").bind Json.items?).map (List.filterMap fun v => (decode v).value))
      (((gs.lookup "children").bind Json.items?).map (List.filterMap fun v => (decode v).value)) := by
  have hitems : Option.Rel (List.Forall₂ Json.Reordered) ((fs.lookup "children").bind Json.items?)
      ((gs.lookup "children").bind Json.items?) := by
    have hl := Json.lookup_reordered h "children"
    generalize fs.lookup "children" = x, gs.lookup "children" = y at hl
    cases hl with
    | none => exact .none
    | some hvw => exact hvw.items?
  generalize (fs.lookup "children").bind Json.items? = xs, (gs.lookup "children").bind Json.items? = ys at ih hitems
  cases hitems with
  | none => exact .none
  | some hitems =>
    have hdecoded := ((List.forall₂_and_left _ _).2 ⟨ih _ rfl, hitems⟩).imp fun x y hxy => hxy.1 y hxy.2
    exact .some (List.rel_filterMap (fun x y hxy => hxy) hdecoded)

/-- Values that are the same up to the order of fields are decoded into such trees, or both stand for no node. -/
theorem decode_reordered (v : Json) :
    v.Distinct → ∀ w, v.Reordered w → Option.Rel Reordered (decode v).value (decode w).value := by
  induction v using byEntries with
  | other v ho =>
    intro _ w h
    have hw : w.fields? = none := by
      have hf := h.fields?
      rw [ho] at hf
      generalize w.fields? = y at hf
      cases hf
      rfl
    rw [value_decode_of_fields? ho, value_decode_of_fields? hw]
    exact .none
  | obj fs ih =>
    intro hd w h
    have hvw := h
    cases h with
    | leaf ha ho => nomatch ho
    | obj names values =>
      rw [value_decode_obj, value_decode_obj]
      refine .some (.mk (attributesOf_reordered hd hvw) (decodeChildren_reordered (fun items hl x hx => ?_) hvw))
      exact ih items hl x hx (distinct_of_mem_children hd hl x hx)

end SceneNode

end SceneMarkup
