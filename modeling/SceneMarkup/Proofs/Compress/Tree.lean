import SceneMarkup.Proofs.Compress.Kept
import SceneMarkup.Proofs.Decimal.Equality
import SceneMarkup.Proofs.Scene.Node

/-!
# Compressed trees

A compressed tree has the shape of the tree that it was made of (`children_compressIn`), and a node keeps its type and stays
a grid or none (`tag_compressIn`, `isGrid_compressIn`).
-/

namespace SceneMarkup

namespace SceneNode

variable {t : DefaultTable} {n : SceneNode} {inGrid : Bool} {key : String}

/-- Compressing a list of nodes compresses each of them. -/
theorem compressAllIn_eq_map (t : DefaultTable) (inGrid : Bool) (trees : List SceneNode) :
    compressAllIn t inGrid trees = trees.map (compressIn t inGrid) := by
  induction trees with
  | nil => simp [compressAllIn]
  | cons n rest ih => simp [compressAllIn, ih]

/-- The scope of the grid attributes of a node. -/
def scope (n : SceneNode) (inGrid : Bool) : GridScope :=
  ⟨n.isGrid, inGrid⟩

/-- The attributes of a compressed node. -/
theorem attributes_compressIn (t : DefaultTable) (inGrid : Bool) (n : SceneNode) :
    (n.compressIn t inGrid).attributes = t.compressFields n.tag (n.scope inGrid) n.attributes := by
  obtain ⟨attributes, children⟩ := n
  cases children <;> rw [compressIn] <;> rfl

/-- The list of children of a compressed node. -/
theorem children?_compressIn (t : DefaultTable) (inGrid : Bool) (n : SceneNode) :
    (n.compressIn t inGrid).children? = n.children?.map (List.map (compressIn t n.isGrid)) := by
  obtain ⟨attributes, children⟩ := n
  cases children with
  | none =>
    rw [compressIn]
    rfl
  | some cs =>
    rw [compressIn, compressAllIn_eq_map]
    rfl

/-- The children of a compressed node. -/
theorem children_compressIn (t : DefaultTable) (inGrid : Bool) (n : SceneNode) :
    (n.compressIn t inGrid).children = n.children.map (compressIn t n.isGrid) := by
  unfold children
  rw [children?_compressIn]
  cases n.children? <;> rfl

/-- An attribute of a compressed node. -/
theorem get?_compressIn (hd : n.attributes.names.Nodup) :
    (n.compressIn t inGrid).get? key = (n.get? key).bind (t.kept n.tag (n.scope inGrid) key) := by
  unfold get?
  rw [attributes_compressIn, DefaultTable.lookup_compressFields hd]

/-- What is read of a critical attribute is read after compression. -/
theorem read_compressIn_of_critical (t : DefaultTable) (key : String) {α : Type} {p : Json → Option α}
    (hp : ∀ v : Json, v.isScalar = false → p v = none) (hd : n.attributes.names.Nodup) (hr : roleOf key = .critical)
    (hs : GridScope.outside.keeps key = true) : ((n.compressIn t inGrid).get? key).bind p = (n.get? key).bind p := by
  rw [get?_compressIn hd]
  cases n.get? key with
  | none => rfl
  | some v => exact DefaultTable.read_kept_of_critical hp hr (GridScope.keeps_of_outside hs _) v

/-- What is read of an ordinary attribute is read after compression, unless the attribute has a default value and is gone. -/
theorem read_compressIn (t : DefaultTable) (key : String) {α : Type} {p : Json → Option α}
    (hp : ∀ v : Json, v.isScalar = false → p v = none) (hd : n.attributes.names.Nodup) (hr : roleOf key = .other)
    (hs : (n.scope inGrid).keeps key = true) :
    ((n.compressIn t inGrid).get? key).bind p = (n.get? key).bind p ∨
      (n.compressIn t inGrid).get? key = none ∧
        ∃ v d, n.get? key = some v ∧ d ∈ t.defaultsOf key ∧ Json.sameValue d v = true := by
  rw [get?_compressIn hd]
  cases n.get? key with
  | none => exact .inl rfl
  | some v =>
    rcases DefaultTable.read_kept hp t n.tag hr hs v with he | ⟨hnone, d, hm, hsame⟩
    · exact .inl he
    · exact .inr ⟨hnone, v, d, rfl, hm, hsame⟩

/-- What is read of an attribute without default. -/
theorem read_compressIn_of_no_default (t : DefaultTable) (key : String) {α : Type} {p : Json → Option α}
    (hp : ∀ v : Json, v.isScalar = false → p v = none) (hd : n.attributes.names.Nodup) (hr : roleOf key = .other)
    (hs : (n.scope inGrid).keeps key = true) (hnone : t.defaultsOf key = []) :
    ((n.compressIn t inGrid).get? key).bind p = (n.get? key).bind p := by
  rcases read_compressIn t key hp hd hr hs with he | ⟨-, v, d, -, hm, -⟩
  · exact he
  · simp [hnone] at hm

/-- The text of an attribute, read with a fallback that is the attribute's only default. -/
theorem stringOr_compressIn {default : String} (hd : n.attributes.names.Nodup) (hr : roleOf key = .other)
    (hs : (n.scope inGrid).keeps key = true) (hdef : ∀ s, .str s ∈ t.defaultsOf key → s = default) :
    (n.compressIn t inGrid).stringOr key default = n.stringOr key default := by
  unfold stringOr string?
  rcases read_compressIn t key Json.string?_of_not_isScalar hd hr hs with he | ⟨hnone, v, d, hv, hm, hsame⟩
  · rw [he]
  · rw [hnone, hv]
    cases v with
    | str s =>
      obtain rfl := Json.sameValue_str hsame
      exact (hdef s hm).symm
    | _ => rfl

section

variable {default : Float} (hd : n.attributes.names.Nodup) (hr : roleOf key = .other)
  (hs : (n.scope inGrid).keeps key = true) (hdef : ∀ m, .num m ∈ t.defaultsOf key → m.toFloat = default)

include hd hr hs hdef

/-- The number of an attribute, read with a fallback that is the attribute's only default, is read after compression, or the
fallback is in its place and the same number but for the sign of a zero. -/
theorem numberOr_compressIn_or :
    (n.compressIn t inGrid).numberOr key default = n.numberOr key default ∨
      (n.compressIn t inGrid).numberOr key default = default ∧ SameNumber default (n.numberOr key default) := by
  unfold numberOr number?
  rcases read_compressIn t key Json.number?_of_not_isScalar hd hr hs with he | ⟨hnone, v, d, hv, hm, hsame⟩
  · exact .inl (by rw [he])
  · rw [hnone, hv]
    cases v with
    | num m =>
      obtain ⟨k, rfl, hk⟩ := Json.sameValue_num hsame
      rw [hdef k hm] at hk
      exact .inr ⟨rfl, same_of_beq hk⟩
    | _ => exact .inl rfl

/-- Such a number is the same but for the sign of a zero. -/
theorem numberOr_compressIn :
    SameNumber ((n.compressIn t inGrid).numberOr key default) (n.numberOr key default) := by
  rcases numberOr_compressIn_or hd hr hs hdef with he | ⟨hdefault, hsame⟩
  · rw [he]
    exact .refl _
  · rw [hdefault]
    exact hsame

/-- Such a number is the same if the default is not zero. -/
theorem numberOr_compressIn_eq (hz : ¬IsZero default) :
    (n.compressIn t inGrid).numberOr key default = n.numberOr key default := by
  rcases numberOr_compressIn_or hd hr hs hdef with he | ⟨hdefault, hsame⟩
  · exact he
  · exact hdefault.trans (hsame.eq_of_not_isZero hz)

end

/-- The fields of an attribute that is an object. -/
def fieldsOf (n : SceneNode) (key : String) : Fields :=
  ((n.get? key).bind Json.fields?).getD []

/-- The items of an attribute that is an array. -/
def itemsOf (n : SceneNode) (key : String) : List Json :=
  ((n.get? key).bind Json.items?).getD []

/-- The fields of an attribute are compressed, unless they, or what is left of them, are none or the default. -/
theorem fieldsOf_compressIn (t : DefaultTable) (inGrid : Bool) (key : String) (hd : n.attributes.names.Nodup)
    (hr : roleOf key = .other) (hs : (n.scope inGrid).keeps key = true) (ho : key ≠ "overlayBackground") :
    (n.compressIn t inGrid).fieldsOf key = t.compressFields n.tag .outside (n.fieldsOf key) ∨
      (n.compressIn t inGrid).fieldsOf key = [] ∧
        ∃ fs, (fs = n.fieldsOf key ∨ fs = t.compressFields n.tag .outside (n.fieldsOf key)) ∧
          (fs = [] ∨ ∃ d ∈ t.defaultsOf key, Json.sameValue d (.obj fs) = true) := by
  have hempty : t.compressFields n.tag .outside [] = [] := by rw [DefaultTable.compressFields]
  unfold fieldsOf
  rw [get?_compressIn hd]
  cases n.get? key with
  | none => exact .inl hempty.symm
  | some v =>
    cases hv : v.fields? with
    | none => exact .inl (by simp [DefaultTable.fields?_kept hv, hv, hempty])
    | some fields =>
      obtain rfl := Json.eq_obj_of_fields? hv
      rcases DefaultTable.kept_obj t n.tag hr hs ho fields with he | ⟨hnone, hfs⟩
      · exact .inl (by simp [he, Json.fields?])
      · exact .inr ⟨by simp [hnone], hfs⟩

/-- What the fields of an attribute show is shown after compression if it is shown by what is left of them, unless the
attribute has a default value and is gone. -/
theorem show_fieldsOf_compressIn (t : DefaultTable) (inGrid : Bool) {α : Type} (show? : Fields → α)
    (hd : n.attributes.names.Nodup) (hr : roleOf key = .other) (hs : (n.scope inGrid).keeps key = true)
    (ho : key ≠ "overlayBackground")
    (hshow : show? (t.compressFields n.tag .outside (n.fieldsOf key)) = show? (n.fieldsOf key)) :
    show? ((n.compressIn t inGrid).fieldsOf key) = show? (n.fieldsOf key) ∨
      (n.compressIn t inGrid).fieldsOf key = [] ∧
        ∃ fs d, d ∈ t.defaultsOf key ∧ Json.sameValue d (.obj fs) = true ∧ show? (n.fieldsOf key) = show? fs := by
  rcases fieldsOf_compressIn t inGrid key hd hr hs ho with he | ⟨hnone, fs, hfs, hempty⟩
  · exact .inl (by rw [he, hshow])
  · have hsame : show? (n.fieldsOf key) = show? fs := by
      rcases hfs with rfl | rfl
      · rfl
      · exact hshow.symm
    rcases hempty with rfl | ⟨d, hm, hdef⟩
    · exact .inl (by rw [hnone, hsame])
    · exact .inr ⟨hnone, fs, d, hm, hdef, hsame⟩

/-- The items of an attribute without default items are compressed one by one. -/
theorem itemsOf_compressIn (hd : n.attributes.names.Nodup) (hr : roleOf key = .other)
    (hs : (n.scope inGrid).keeps key = true) (hdef : ∀ items, .arr items ∈ t.defaultsOf key → items = []) :
    (n.compressIn t inGrid).itemsOf key = (n.itemsOf key).map (Json.mapObject (t.itemFields n.tag key)) := by
  unfold itemsOf
  rw [get?_compressIn hd]
  cases n.get? key with
  | none => rfl
  | some v =>
    cases hv : v.items? with
    | none => simp [DefaultTable.items?_kept hv, hv]
    | some items =>
      obtain rfl := Json.eq_arr_of_items? hv
      rcases DefaultTable.kept_arr t n.tag hr hs items with he | ⟨hnone, hempty⟩
      · simp [he, Json.items?]
      · have hnil : items = [] := by
          rcases hempty with hnil | ⟨d, hm, hsame⟩
          · exact hnil
          · obtain ⟨ds, rfl, hall⟩ := Json.sameValue_arr hsame
            rw [hdef ds hm] at hall
            exact List.forall₂_nil_left_iff.1 hall
        subst hnil
        simp [hnone, Json.items?]

/-- A node keeps its type. -/
theorem tag_compressIn (hd : n.attributes.names.Nodup) : (n.compressIn t inGrid).tag = n.tag := by
  unfold tag stringOr string?
  rw [read_compressIn_of_critical t "type" Json.string?_of_not_isScalar hd (by decide) (by decide)]

/-- A node stays a grid or none, unless a grid is the default. -/
theorem isGrid_compressIn (hd : n.attributes.names.Nodup) (hg : .str "GRID" ∉ t.defaultsOf "layoutMode") :
    (n.compressIn t inGrid).isGrid = n.isGrid := by
  have hr : roleOf "layoutMode" = .other := by decide
  have hs : (n.scope inGrid).keeps "layoutMode" = true := GridScope.keeps_of_outside (by decide) _
  unfold isGrid stringOr string?
  rcases read_compressIn t "layoutMode" Json.string?_of_not_isScalar hd hr hs with he | ⟨hnone, v, d, hv, hm, hsame⟩
  · rw [he]
  · rw [hnone, hv]
    cases v with
    | str s =>
      obtain rfl := Json.sameValue_str hsame
      have hgrid : s ≠ "GRID" := by
        rintro rfl
        exact hg hm
      simp [Json.string?, hgrid]
    | _ => rfl

end SceneNode

end SceneMarkup
