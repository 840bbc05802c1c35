import SceneMarkup.Proofs.Compress.Again
import SceneMarkup.Proofs.Compress.Tree
import SceneMarkup.Scene.BuiltinDefaults

/-!
# Compressing a tree again

Where no node becomes a grid by default and no default has objects in an array, compressing a tree twice is compressing it
once, except for the overlay backgrounds of which the first compression leaves nothing but that there are none
(`compressIn_again_iff`).
-/

namespace SceneMarkup

namespace SceneNode

variable {t : DefaultTable} {n : SceneNode} {inGrid : Bool}

/-- Nodes with the same attributes and the same children are the same. -/
theorem ext_iff {m : SceneNode} : n = m ↔ n.attributes = m.attributes ∧ n.children? = m.children? := by
  obtain ⟨fs, cs⟩ := n
  obtain ⟨gs, ds⟩ := m
  simp [attributes, children?]

/-- Lists of children are the same after a map if each child is. -/
theorem children?_map_eq_iff {f g : SceneNode → SceneNode} :
    n.children?.map (List.map f) = n.children?.map (List.map g) ↔ ∀ c ∈ n.children, f c = g c := by
  unfold children
  cases n.children? <;> simp

mutual
/-- Compression leaves, somewhere in a tree, an overlay background that says nothing but that there is none. -/
def leavesBareOverlayIn (t : DefaultTable) (inGrid : Bool) : SceneNode → Bool
  | mk attributes none =>
    let n := mk attributes none
    t.leavesBareOverlay n.tag (n.scope inGrid) attributes
  | mk attributes (some children) =>
    let n := mk attributes none
    t.leavesBareOverlay n.tag (n.scope inGrid) attributes || leavesBareOverlayInAny t n.isGrid children

/-- `leavesBareOverlayIn` of a tree in a list. -/
def leavesBareOverlayInAny (t : DefaultTable) (inGrid : Bool) : List SceneNode → Bool
  | [] => false
  | n :: rest => leavesBareOverlayIn t inGrid n || leavesBareOverlayInAny t inGrid rest
end

/-- `leavesBareOverlayIn` of a tree without parent. -/
def leavesBareOverlay (t : DefaultTable) (n : SceneNode) : Bool :=
  n.leavesBareOverlayIn t false

/-- No tree in a list leaves a bare overlay. -/
theorem leavesBareOverlayInAny_eq_false_iff {trees : List SceneNode} :
    leavesBareOverlayInAny t inGrid trees = false ↔ ∀ n ∈ trees, n.leavesBareOverlayIn t inGrid = false := by
  induction trees with
  | nil => simp [leavesBareOverlayInAny]
  | cons n rest ih => simp [leavesBareOverlayInAny, ih]

/-- No node of a tree leaves a bare overlay. -/
theorem leavesBareOverlayIn_eq_false_iff :
    n.leavesBareOverlayIn t inGrid = false ↔
      t.leavesBareOverlay n.tag (n.scope inGrid) n.attributes = false ∧
        ∀ c ∈ n.children, c.leavesBareOverlayIn t n.isGrid = false := by
  obtain ⟨attributes, children⟩ := n
  cases children with
  | none =>
    rw [leavesBareOverlayIn]
    exact (and_iff_left (by simp [children, children?])).symm
  | some cs =>
    rw [leavesBareOverlayIn, Bool.or_eq_false_iff, leavesBareOverlayInAny_eq_false_iff]
    rfl

/-- A compressed tree stays as it is exactly if no bare overlay is left in it. -/
theorem compressIn_again_iff (hf : t.arraysAreFlat = true) (hg : .str "GRID" ∉ t.defaultsOf "layoutMode")
    (hd : n.Distinct) (inGrid : Bool) :
    (n.compressIn t inGrid).compressIn t inGrid = n.compressIn t inGrid ↔ n.leavesBareOverlayIn t inGrid = false := by
  induction n using byParts generalizing inGrid with
  | node n ih =>
    rw [distinct_iff, Json.distinct_obj] at hd
    have hgrid : (n.compressIn t inGrid).isGrid = n.isGrid := isGrid_compressIn hd.1.1 hg
    have hscope : (n.compressIn t inGrid).scope inGrid = n.scope inGrid := by rw [scope, scope, hgrid]
    rw [ext_iff, attributes_compressIn, attributes_compressIn, children?_compressIn, children?_compressIn,
      tag_compressIn hd.1.1, hscope, hgrid, leavesBareOverlayIn_eq_false_iff,
      DefaultTable.compressFields_again_iff hf, Option.map_map, List.map_comp_map, children?_map_eq_iff]
    refine and_congr_right fun _ => forall₂_congr fun c hc => ?_
    exact ih c hc (hd.2 c hc) n.isGrid

/-! ## The defaults of the design tool -/

/-- No default of the design tool is an array with objects in it. -/
theorem builtin_arraysAreFlat : DefaultTable.builtin.arraysAreFlat = true := by
  decide

/-- The design tool lays out no frame in a grid by default. -/
theorem builtin_no_grid : .str "GRID" ∉ DefaultTable.builtin.defaultsOf "layoutMode" := by
  have h : DefaultTable.builtin.defaultsOf "layoutMode" = [.str "NONE"] := rfl
  simp [h]

/-- With the defaults of the design tool, compressing a tree twice is compressing it once exactly if no node and no object
in it is left with an overlay background that says nothing but that there is none. -/
theorem compress_compress_builtin_iff (hd : n.Distinct) :
    (n.compress .builtin).compress .builtin = n.compress .builtin ↔ n.leavesBareOverlay .builtin = false :=
  compressIn_again_iff builtin_arraysAreFlat builtin_no_grid hd false

/-- A frame with an overlay background that has no colour. -/
def overlayFrame : SceneNode :=
  .mk [("type", .str "FRAME"), ("overlayBackground", .obj [("type", .str "NONE"), ("color", .null)])] none

/-- The second compression of a frame takes out the overlay background that the first one has left. -/
theorem compress_compress_overlayFrame :
    (overlayFrame.compress .builtin).compress .builtin ≠ overlayFrame.compress .builtin := by
  intro h
  have hlen := congrArg (fun n => n.attributes.length) h
  revert hlen
  decide

/-- A frame with an overlay of one colour, a shadow and a text. -/
def cardFrame : SceneNode :=
  .mk [("type", .str "FRAME"), ("layoutMode", .str "VERTICAL"), ("itemSpacing", .int 8),
      ("effects", .arr [.obj [("visible", .bool true), ("type", .str "DROP_SHADOW"), ("color", .null)]]),
      ("overlayBackground", .obj [("type", .str "SOLID_COLOR"), ("opacity", .int 1)])]
    (some [.mk [("type", .str "TEXT"), ("characters", .str "Title"), ("fontSize", .int 12)] none])

/-- The second compression of a card leaves it as it is. -/
theorem compress_compress_cardFrame :
    cardFrame.Distinct ∧ (cardFrame.compress .builtin).compress .builtin = cardFrame.compress .builtin :=
  ⟨by decide, (compress_compress_builtin_iff (by decide)).2 (by decide)⟩

/-! ## Other defaults -/

/-- No overlay background is left bare where none is an object. -/
theorem leavesBareOverlayIn_of_no_object (ho : ∀ fields ∈ n.maps, ∀ o, ("overlayBackground", .obj o) ∉ fields)
    (inGrid : Bool) : n.leavesBareOverlayIn t inGrid = false := by
  induction n using byParts generalizing inGrid with
  | node n ih =>
    rw [forall_maps_iff] at ho
    rw [leavesBareOverlayIn_eq_false_iff]
    refine ⟨DefaultTable.leavesBareOverlay_of_no_object (ho.1 _ (Json.mem_objects_obj.2 (.inl rfl))) fun p hp => ?_,
      fun c hc => ih c hc (ho.2 c hc) n.isGrid⟩
    exact DefaultTable.leavesBareOverlayIn_of_no_object p.2 fun o h => ho.1 o (Json.mem_objects_obj.2 (.inr ⟨p, hp, h⟩))

/-- Whatever the defaults are, compressing a tree twice is compressing it once, provided that no frame is a grid by default,
no default has objects in an array, and no overlay background in the tree is an object. -/
theorem compress_compress (t : DefaultTable) (n : SceneNode) (hf : t.arraysAreFlat = true)
    (hg : .str "GRID" ∉ t.defaultsOf "layoutMode") (hd : n.Distinct)
    (ho : ∀ fields ∈ n.maps, ∀ o, ("overlayBackground", .obj o) ∉ fields) :
    (n.compress t).compress t = n.compress t :=
  (compressIn_again_iff hf hg hd false).2 (leavesBareOverlayIn_of_no_object ho false)

/-- A table in which frames are rows with a dashed border, and have no default opacity. -/
def rowTable : DefaultTable :=
  ⟨[("GLOBAL", .obj [("opacity", .int 1), ("visible", .bool true)]),
    ("FRAME", .obj [("layoutMode", .str "HORIZONTAL"), ("dashPattern", .arr [.int 4, .int 4]), ("opacity", .null)])]⟩

/-- A row with a dashed border around a shape. -/
def dashedRow : SceneNode :=
  .mk [("type", .str "FRAME"), ("layoutMode", .str "HORIZONTAL"), ("dashPattern", .arr [.int 4, .int 4]),
      ("opacity", .int 1), ("constraints", .obj [("horizontal", .str "MIN"), ("opacity", .int 1)])]
    (some [.mk [("type", .str "RECTANGLE"), ("opacity", .int 1)] none])

/-- The second compression of a row leaves it as it is. -/
theorem compress_compress_dashedRow :
    rowTable.arraysAreFlat = true ∧ .str "GRID" ∉ rowTable.defaultsOf "layoutMode" ∧ dashedRow.Distinct ∧
      (∀ fields ∈ dashedRow.maps, ∀ o, ("overlayBackground", .obj o) ∉ fields) ∧
      (dashedRow.compress rowTable).compress rowTable = dashedRow.compress rowTable := by
  have hf : rowTable.arraysAreFlat = true := by decide
  have hg : .str "GRID" ∉ rowTable.defaultsOf "layoutMode" := by
    have h : rowTable.defaultsOf "layoutMode" = [.str "HORIZONTAL"] := rfl
    simp [h]
  have hd : dashedRow.Distinct := by decide
  have ho : ∀ fields ∈ dashedRow.maps, ∀ o, ("overlayBackground", .obj o) ∉ fields := by
    simp [maps, dashedRow, nodes, nodesOfAll, attributes, Json.objects, Json.objectsOfFields, Json.objectsOfItems,
      Json.int]
  exact ⟨hf, hg, hd, ho, compress_compress rowTable dashedRow hf hg hd ho⟩

end SceneNode

end SceneMarkup
