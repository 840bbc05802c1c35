import SceneMarkup.Proofs.Compress.Reading
import SceneMarkup.Proofs.Scene.Codec

/-!
# What a second compression leaves as it is

Compression gives no attribute a second name (`distinct_compressIn`) and leaves `children` where decoding has put it
(`coded_compressIn`). Scalars that are left by one compression are left by the next, so a second compression does not even
change the exact view of a tree (`view_compressIn_again`), whatever it still takes out of it.
-/

namespace SceneMarkup

namespace DefaultTable

variable {t : DefaultTable} {type key : String} {scope : GridScope} {v w : Json}

/-! ## Repeated names -/

/-- What is left of an attribute map has no repeated names, if this holds for its values. -/
theorem distinct_compressFields_of {fields : Fields} (hn : fields.names.Nodup) (hv : ∀ p ∈ fields, p.2.Distinct)
    (hin : ∀ p ∈ fields, ∀ key, (t.inside type key p.2).Distinct) (scope : GridScope) :
    (Json.obj (t.compressFields type scope fields)).Distinct := by
  rw [compressFields_eq_keep, Json.distinct_obj]
  refine ⟨(Fields.names_keep _ fields).nodup hn, ?_⟩
  rintro ⟨key, w⟩ hw
  obtain ⟨v, hm, hk⟩ := Fields.mem_keep.1 hw
  obtain ⟨-, rfl⟩ := kept_eq_some_iff.1 hk
  unfold keptForm
  split
  · exact hin _ hm key
  · exact hv _ hm

/-- The contents of a value get no repeated names. -/
theorem distinct_inside (v : Json) : v.Distinct → ∀ key, (t.inside type key v).Distinct := by
  induction v using Json.byParts with
  | leaf v ha ho =>
    intro hd key
    rwa [inside_eq_self ha ho]
  | arr items ih =>
    intro hd key
    rw [Json.distinct_arr] at hd
    rw [inside, Json.distinct_arr]
    intro w hw
    obtain ⟨v, hm, rfl⟩ := List.mem_map.1 hw
    have hv := hd v hm
    cases v with
    | obj fields =>
      rw [Json.mapObject, itemFields]
      cases paintLists.contains key with
      | true => exact distinct_compressPaint hv
      | false => exact ih _ hm hv key
    | _ => exact hv
  | obj fields ih =>
    intro hd key
    rw [Json.distinct_obj] at hd
    exact distinct_compressFields_of hd.1 hd.2 (fun p hp => ih p hp (hd.2 p hp)) .outside

/-- An attribute map gets no repeated names. -/
theorem distinct_compressFields {fields : Fields} (hd : (Json.obj fields).Distinct) :
    (Json.obj (t.compressFields type scope fields)).Distinct := by
  rw [Json.distinct_obj] at hd
  exact distinct_compressFields_of hd.1 hd.2 (fun p hp => distinct_inside p.2 (hd.2 p hp)) scope

/-! ## What is kept -/

/-- What is read of a value that was kept is read of what is kept of it the next time. -/
theorem read_kept_again {α : Type} {p : Json → Option α} (hp : ∀ v : Json, v.isScalar = false → p v = none)
    (h : t.kept type scope key v = some w) : (t.kept type scope key w).bind p = p w := by
  cases hw : w.isScalar with
  | true =>
    rw [kept_again_of_isScalar h hw]
    rfl
  | false =>
    rw [kept_eq]
    split
    · exact (hp w hw).symm
    · exact read_keptForm hp t type key w

/-- No attribute is kept as an empty list. -/
theorem kept_ne_empty (hf : t.arraysAreFlat = true) (hr : roleOf key = .other) :
    t.kept type scope key v ≠ some (.arr []) := by
  intro h
  obtain ⟨hl, he⟩ := kept_eq_some_iff.1 h
  have hadd := addsNothing_keptForm hf hr hl
  rw [he] at hadd
  nomatch hadd

/-- `children` is kept as it is or not at all, where it is no array. -/
theorem kept_children (hv : v.items? = none) (h : t.kept type scope "children" v = some w) : w = v := by
  obtain ⟨-, rfl⟩ := kept_eq_some_iff.1 h
  cases v with
  | arr items => nomatch hv
  | _ => rfl

end DefaultTable

namespace SceneNode

variable {t : DefaultTable} {n a b : SceneNode} {inGrid : Bool} {key : String}

/-! ## The form of a tree -/

/-- A compressed tree has no repeated names. -/
theorem distinct_compressIn (hd : n.Distinct) (inGrid : Bool) : (n.compressIn t inGrid).Distinct := by
  induction n using byParts generalizing inGrid with
  | node n ih =>
    rw [distinct_iff] at hd ⊢
    rw [attributes_compressIn, children_compressIn]
    refine ⟨DefaultTable.distinct_compressFields hd.1, fun c hc => ?_⟩
    obtain ⟨c, hm, rfl⟩ := List.mem_map.1 hc
    exact ih c hm (hd.2 c hm) n.isGrid

/-- `children` stays where decoding has put it. -/
theorem codedHere_compressIn (h : n.CodedHere) (inGrid : Bool) : (n.compressIn t inGrid).CodedHere := by
  unfold CodedHere at h ⊢
  rw [attributes_compressIn, children?_compressIn, DefaultTable.compressFields_eq_keep]
  rcases h with hn | ⟨hnone, before, v, he, hv, hn⟩
  · exact .inl fun hm => hn ((Fields.names_keep _ _).subset hm)
  · have hn' : "children" ∉ (Fields.keep (t.kept n.tag (n.scope inGrid)) before).names :=
      fun hm => hn ((Fields.names_keep _ _).subset hm)
    rw [he, Fields.keep_append, Fields.keep_cons]
    cases hk : t.kept n.tag (n.scope inGrid) "children" v with
    | none => exact .inl (by simpa [Fields.keep] using hn')
    | some w =>
      obtain rfl := DefaultTable.kept_children hv hk
      exact .inr ⟨by rw [hnone]; rfl, _, w, rfl, hv, hn'⟩

/-- A compressed tree has the form of a decoded one. -/
theorem coded_compressIn (h : n.Coded) (inGrid : Bool) : (n.compressIn t inGrid).Coded := by
  induction n using byParts generalizing inGrid with
  | node n ih =>
    obtain ⟨hhere, hchildren⟩ := forall_nodes_iff.1 h
    refine forall_nodes_iff.2 ⟨codedHere_compressIn hhere inGrid, fun c hc => ?_⟩
    rw [children_compressIn] at hc
    obtain ⟨c, hm, rfl⟩ := List.mem_map.1 hc
    exact ih c hm (hchildren c hm) n.isGrid

/-! ## The exact view -/

/-- What is read of an attribute after one compression is read after the next. -/
theorem read_compressIn_again {α : Type} {p : Json → Option α} (hp : ∀ v : Json, v.isScalar = false → p v = none)
    (hd : n.Distinct) (hg : .str "GRID" ∉ t.defaultsOf "layoutMode") :
    (((n.compressIn t inGrid).compressIn t inGrid).get? key).bind p = ((n.compressIn t inGrid).get? key).bind p := by
  have hn := (Json.distinct_obj.1 (distinct_iff.1 hd).1).1
  have hn' := (Json.distinct_obj.1 (distinct_iff.1 (distinct_compressIn (t := t) hd inGrid)).1).1
  have hscope : (n.compressIn t inGrid).scope inGrid = n.scope inGrid := by rw [scope, scope, isGrid_compressIn hn hg]
  rw [get?_compressIn hn', tag_compressIn hn, hscope]
  cases hm : (n.compressIn t inGrid).get? key with
  | none => rfl
  | some w =>
    rw [get?_compressIn hn] at hm
    obtain ⟨v, -, hk⟩ := Option.bind_eq_some_iff.1 hm
    exact DefaultTable.read_kept_again hp hk

/-- Readings are exactly equal if they are equal and all numbers are. -/
theorem reading_exact_of_number? (h : a.reading false inGrid = b.reading false inGrid)
    (hnum : ∀ key, a.number? key = b.number? key) : a.reading true inGrid = b.reading true inGrid := by
  have hor : ∀ key default, a.numberOr key default = b.numberOr key default :=
    fun key default => congrArg (Option.getD · default) (hnum key)
  simp only [reading, NodeReading.mk.injEq, if_true, Bool.true_or, hnum, hor] at h ⊢
  simp only [h, and_self]

/-- The height of lines in a compressed node is no empty list. -/
theorem lineHeight_compressIn_ne_empty (hd : (Json.obj n.attributes).Distinct) :
    (n.compressIn .builtin inGrid).lineHeightField? "value" ≠ some (.arr []) := by
  have hfields := (Json.distinct_obj.1 (distinct_fieldsOf hd "lineHeight")).1
  rw [lineHeightField?_eq]
  rcases fieldsOf_compressIn .builtin inGrid "lineHeight" (Json.distinct_obj.1 hd).1 (by decide)
      (scope_keeps (by decide)) (by decide) with he | ⟨hnone, -⟩
  · rw [he, DefaultTable.lookup_compressFields hfields]
    cases (n.fieldsOf "lineHeight").lookup "value" with
    | none => simp
    | some v => exact DefaultTable.kept_ne_empty builtin_arraysAreFlat (by decide)
  · simp [hnone]

/-- A second compression does not change the exact view of a tree. -/
theorem view_compressIn_again (hd : n.Distinct) (inGrid : Bool) :
    ((n.compressIn .builtin inGrid).compressIn .builtin inGrid).view true inGrid =
      (n.compressIn .builtin inGrid).view true inGrid := by
  induction n using byParts generalizing inGrid with
  | node n ih =>
    have hhere := (distinct_iff.1 hd).1
    have hhere' := (distinct_iff.1 (distinct_compressIn (t := .builtin) hd inGrid)).1
    -- The reading is that of a first compression, made exact by the numbers, which stay.
    have hgrid : (n.compressIn .builtin inGrid).isGrid = n.isGrid :=
      isGrid_compressIn (Json.distinct_obj.1 hhere).1 builtin_no_grid
    have hgrid' : ((n.compressIn .builtin inGrid).compressIn .builtin inGrid).isGrid = n.isGrid :=
      (isGrid_compressIn (Json.distinct_obj.1 hhere').1 builtin_no_grid).trans hgrid
    have hreading : ((n.compressIn .builtin inGrid).compressIn .builtin inGrid).reading false inGrid =
        (n.compressIn .builtin inGrid).reading false inGrid :=
      reading_compressIn hhere' (lineHeight_compressIn_ne_empty hhere)
    have hnumber : ∀ key, ((n.compressIn .builtin inGrid).compressIn .builtin inGrid).number? key =
        (n.compressIn .builtin inGrid).number? key :=
      fun key => read_compressIn_again Json.number?_of_not_isScalar hd builtin_no_grid
    rw [view_eq_view_iff, hgrid', hgrid, children_compressIn, hgrid, children_compressIn, List.map_map, List.map_map,
      List.map_map]
    refine ⟨reading_exact_of_number? hreading hnumber, List.map_congr_left fun c hc => ?_⟩
    exact ih c hc ((distinct_iff.1 hd).2 c hc) n.isGrid

end SceneNode

end SceneMarkup
