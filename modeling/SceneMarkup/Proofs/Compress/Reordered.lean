import SceneMarkup.Proofs.Compress.Exact
import SceneMarkup.Proofs.Scene.Reordered

/-!
# Compression and the order of fields

Compression asks nothing of a value that depends on the order of fields: whether it is a default, an overlay without
background or a transform that changes nothing, and what is kept of it. Attribute maps that are the same up to the order of
fields are so after compression (`DefaultTable.compressFields_reordered`), although the type of a paint comes first.
-/

namespace SceneMarkup

namespace Json

variable {v w : Json}

/-! ## Kinds of values -/

/-- Values in which an object has other fields are the same up to the order of fields if these are. -/
theorem Reordered.mapObject {f : Fields → Fields} (h : v.Reordered w)
    (hf : ∀ fs gs, v = .obj fs → w = .obj gs → (Json.obj (f fs)).Reordered (.obj (f gs))) :
    (v.mapObject f).Reordered (w.mapObject f) := by
  cases h with
  | leaf ha ho =>
    cases v with
    | obj fields => nomatch ho
    | _ => exact .leaf ha ho
  | arr items => exact .arr items
  | obj names values => exact hf _ _ rfl rfl

/-- Only what is empty becomes empty. -/
theorem Reordered.isEmptyCollection (h : v.Reordered w) : v.isEmptyCollection = w.isEmptyCollection := by
  cases h with
  | leaf => rfl
  | arr items => cases items <;> rfl
  | obj names values =>
    have hlen := length_reordered (.obj names values)
    simp only [Json.isEmptyCollection]
    rw [Bool.eq_iff_iff, List.isEmpty_iff_length_eq_zero, List.isEmpty_iff_length_eq_zero, hlen]

/-- An overlay shows no background if its only field is the type that says so. -/
theorem isNoOverlay_obj (fields : Fields) :
    isNoOverlay (.obj fields) = (fields.length == 1 && (fields.lookup "type").bind Json.string? == some "NONE") := by
  match fields with
  | [] => rfl
  | [(name, v)] =>
    by_cases hn : name = "type"
    · subst hn
      cases v <;> simp [isNoOverlay, Json.string?]
    · simp [isNoOverlay, hn, List.lookup_cons, beq_eq_false_iff_ne.2 (Ne.symm hn)]
  | _ :: _ :: _ => simp [isNoOverlay]

/-- Whether an overlay shows a background does not depend on the order of its fields. -/
theorem Reordered.isNoOverlay (h : v.Reordered w) : isNoOverlay v = isNoOverlay w := by
  cases h with
  | leaf => rfl
  | arr items => rfl
  | obj names values =>
    have hobj := Reordered.obj names values
    rw [isNoOverlay_obj, isNoOverlay_obj, length_reordered hobj,
      read_lookup_reordered Json.string?_of_not_isScalar hobj]

/-- A row of a transform has numbers in its cells, and no fields. -/
theorem Reordered.transformRow? (h : v.Reordered w) : transformRow? v = transformRow? w := by
  cases h with
  | leaf => rfl
  | obj names values => rfl
  | arr items =>
    rcases items with _ | ⟨ha, _ | ⟨hb, _ | ⟨-, _ | ⟨-, -⟩⟩⟩⟩
    · rfl
    · rfl
    · rfl
    · simp only [SceneMarkup.transformRow?, ha.read Json.number?_of_not_isScalar, hb.read Json.number?_of_not_isScalar]
    · rfl

/-- Whether a transform changes anything does not depend on the order of fields. -/
theorem Reordered.isIdentityTransform (h : v.Reordered w) : isIdentityTransform v = isIdentityTransform w := by
  cases h with
  | leaf => rfl
  | obj names values => rfl
  | arr items =>
    rcases items with _ | ⟨ha, _ | ⟨hb, _ | ⟨-, -⟩⟩⟩
    · rfl
    · rfl
    · simp only [SceneMarkup.isIdentityTransform, ha.transformRow?, hb.transformRow?]
    · rfl

end Json

/-! ## Paints -/

section

variable {key : String} {v w : Json} {fs gs : Fields}

/-- The hexadecimal form of a colour does not depend on the order of its channels. -/
theorem colorHex?_reordered (h : (Json.obj fs).Reordered (.obj gs)) : colorHex? fs = colorHex? gs := by
  have hchannel : ∀ {α : Type} (f : Float → Option α) (name : String),
      ((fs.lookup name).bind fun v => v.number?.bind f) = (gs.lookup name).bind fun v => v.number?.bind f := by
    intro α f name
    rw [← Option.bind_assoc, ← Option.bind_assoc, Json.read_lookup_reordered Json.number?_of_not_isScalar h]
  simp only [colorHex?, Option.bind_eq_bind, hchannel]

/-- Of what is no scalar a paint has anyway that no variables are bound. -/
theorem isPaintDefault_of_not_isScalar (hv : v.isScalar = false) :
    isPaintDefault key v = (key == "boundVariables" && v.isEmptyCollection) := by
  by_cases hk : key = "boundVariables"
  · subst hk
    cases v <;> rfl
  · cases v with
    | bool b => nomatch hv
    | num n => nomatch hv
    | str s => nomatch hv
    | _ => simp [isPaintDefault, hk]

/-- Whether a paint would have a value anyway does not depend on the order of fields. -/
theorem isPaintDefault_reordered (key : String) (h : v.Reordered w) : isPaintDefault key v = isPaintDefault key w := by
  have hempty := h.isEmptyCollection
  cases h with
  | leaf => rfl
  | arr items => rw [isPaintDefault_of_not_isScalar rfl, isPaintDefault_of_not_isScalar rfl, hempty]
  | obj names values => rw [isPaintDefault_of_not_isScalar rfl, isPaintDefault_of_not_isScalar rfl, hempty]

/-- The value of a field of a paint stays the same up to the order of fields. -/
theorem paintValue_reordered (key : String) (h : v.Reordered w) : (paintValue key v).Reordered (paintValue key w) := by
  have hvw := h
  cases h with
  | leaf ha ho =>
    rcases paintValue_cases key v with he | ⟨color, hex, -, rfl, -, -⟩
    · rwa [he]
    · nomatch ho
  | arr items => exact hvw
  | obj names values =>
    rw [paintValue, paintValue, colorHex?_reordered hvw]
    split
    · cases colorHex? _ with
      | none => exact hvw
      | some hex => exact .leaf rfl rfl
    · exact hvw

/-- What is kept of a field of a paint. -/
theorem keptOfPaint_reordered (key : String) (h : v.Reordered w) :
    Option.Rel Json.Reordered (keptOfPaint key v) (keptOfPaint key w) := by
  unfold keptOfPaint
  rw [h.isNull, isPaintDefault_reordered key h]
  split
  · exact .none
  · exact .some (paintValue_reordered key h)

/-- A compressed paint starts with its type whatever the order of fields, and is else the same up to it. -/
theorem compressPaint_reordered (hd : (Json.obj fs).Distinct) (h : (Json.obj fs).Reordered (.obj gs)) :
    (Json.obj (compressPaint fs)).Reordered (.obj (compressPaint gs)) := by
  have hnodup := (Json.distinct_obj.1 hd).1
  have hnodup' := (Json.distinct_obj.1 (h.distinct hd)).1
  refine Json.reordered_of_lookup (Json.distinct_obj.1 (distinct_compressPaint hd)).1
    (Json.distinct_obj.1 (distinct_compressPaint (h.distinct hd))).1 fun key => ?_
  have hl := Json.lookup_reordered h key
  by_cases hk : key = "type"
  · subst hk
    rwa [lookup_type_compressPaint, lookup_type_compressPaint]
  · rw [lookup_compressPaint hnodup hk, lookup_compressPaint hnodup' hk]
    generalize fs.lookup key = x, gs.lookup key = y at hl
    cases hl with
    | none => exact .none
    | some hvw => exact keptOfPaint_reordered key hvw

end

/-! ## Attribute maps -/

namespace DefaultTable

variable {t : DefaultTable} {type key : String} {scope : GridScope} {v w : Json} {fs gs : Fields}

/-- Whether a value is a default does not depend on the order of fields. -/
theorem isDefault_reordered (t : DefaultTable) (type key : String) (h : v.Reordered w) :
    t.isDefault type key v = t.isDefault type key w := by
  unfold isDefault
  cases t.resolve? type key with
  | none => rfl
  | some d => simp only [Json.sameValue, Json.sameBy_reordered _ d v w h]

/-- Whether a value adds something to its attribute does not depend on the order of fields. -/
theorem addsNothing_reordered (t : DefaultTable) (type key : String) (h : v.Reordered w) :
    t.addsNothing type key v = t.addsNothing type key w := by
  unfold addsNothing
  rw [h.isEmptyCollection, isDefault_reordered t type key h]

/-- Compression goes into a value whatever the order of fields. -/
theorem opens_reordered (key : String) (h : v.Reordered w) : opens key v = opens key w := by
  cases h <;> rfl

/-- What is kept of a value is the same up to the order of fields, if this holds for what its contents become. -/
theorem kept_reordered_of (h : v.Reordered w) (hin : (t.inside type key v).Reordered (t.inside type key w))
    (scope : GridScope) : Option.Rel Json.Reordered (t.kept type scope key v) (t.kept type scope key w) := by
  have hobj : v.fields?.isSome = w.fields?.isSome := by cases h <;> rfl
  have hout : t.leavesOut type scope key v = t.leavesOut type scope key w := by
    unfold leavesOut
    rw [h.isNull, h.isIdentityTransform, h.isNoOverlay, addsNothing_reordered t type key h,
      addsNothing_reordered t type key hin, hobj]
  rw [kept_eq, kept_eq, hout]
  split
  · exact .none
  · unfold keptForm
    rw [opens_reordered key h]
    split
    · exact .some hin
    · exact .some h

/-- Attribute maps are the same up to the order of fields after compression, if this holds for the contents of values. -/
theorem compressFields_reordered_of (hd : (Json.obj fs).Distinct) (h : (Json.obj fs).Reordered (.obj gs))
    (hin : ∀ p ∈ fs, ∀ w, p.2.Reordered w → ∀ key, (t.inside type key p.2).Reordered (t.inside type key w))
    (scope : GridScope) :
    (Json.obj (t.compressFields type scope fs)).Reordered (.obj (t.compressFields type scope gs)) := by
  have hd' := h.distinct hd
  refine Json.reordered_of_lookup (Json.distinct_obj.1 (distinct_compressFields hd)).1
    (Json.distinct_obj.1 (distinct_compressFields hd')).1 fun key => ?_
  have hl := Json.lookup_reordered h key
  rw [lookup_compressFields (Json.distinct_obj.1 hd).1, lookup_compressFields (Json.distinct_obj.1 hd').1]
  cases hf : fs.lookup key with
  | none =>
    rw [hf] at hl
    generalize gs.lookup key = y at hl
    cases hl
    exact .none
  | some v =>
    rw [hf] at hl
    generalize gs.lookup key = y at hl
    cases hl with
    | some hvw => exact kept_reordered_of hvw (hin _ (Named.mem_of_lookup hf) _ hvw key) scope

/-- The contents of a value become the same up to the order of fields. -/
theorem inside_reordered (v : Json) : v.Distinct → ∀ w, v.Reordered w → ∀ key,
    (t.inside type key v).Reordered (t.inside type key w) := by
  induction v using Json.byParts with
  | leaf v ha ho =>
    intro hd w h key
    cases h with
    | leaf =>
      rw [inside_eq_self ha ho]
      exact .leaf ha ho
    | arr => nomatch ha
    | obj => nomatch ho
  | arr items ih =>
    intro hd w h key
    cases h with
    | leaf ha ho => nomatch ha
    | arr items =>
      rw [Json.distinct_arr] at hd
      rw [inside, inside]
      refine .arr ?_
      rw [List.forall₂_map_left_iff, List.forall₂_map_right_iff]
      refine ((List.forall₂_and_left _ _).2 ⟨fun v hv => And.intro (ih v hv) (hd v hv), items⟩).imp ?_
      rintro x y ⟨⟨hin, hx⟩, hxy⟩
      refine hxy.mapObject fun fs gs hf hg => ?_
      subst hf hg
      unfold itemFields
      split
      · exact compressPaint_reordered hx hxy
      · -- An object in an array becomes what its fields become wherever they stand.
        exact hin hx _ hxy key
  | obj fields ih =>
    intro hd w h key
    have hvw := h
    cases h with
    | leaf ha ho => nomatch ho
    | obj names values =>
      rw [inside, inside]
      exact compressFields_reordered_of hd hvw (fun p hp => ih p hp ((Json.distinct_obj.1 hd).2 p hp)) .outside

/-- Attribute maps that are the same up to the order of fields are so after compression. -/
theorem compressFields_reordered (t : DefaultTable) (type : String) (scope : GridScope) (hd : (Json.obj fs).Distinct)
    (h : (Json.obj fs).Reordered (.obj gs)) :
    (Json.obj (t.compressFields type scope fs)).Reordered (.obj (t.compressFields type scope gs)) :=
  compressFields_reordered_of hd h (fun p hp => inside_reordered p.2 ((Json.distinct_obj.1 hd).2 p hp)) scope

end DefaultTable

/-! ## Trees -/

/-- Trees that are the same up to the order of attributes are so after compression. -/
theorem SceneNode.compressIn_reordered (t : DefaultTable) {a b : SceneNode} (hd : a.Distinct) (h : a.Reordered b)
    (inGrid : Bool) : (a.compressIn t inGrid).Reordered (b.compressIn t inGrid) := by
  induction a using SceneNode.byParts generalizing b inGrid with
  | node a ih =>
    rw [distinct_iff] at hd
    have htag := h.tag
    have hgrid := h.isGrid
    obtain ⟨hattributes, hchildren⟩ := h
    constructor
    · rw [attributes_compressIn, attributes_compressIn, scope, scope, htag, hgrid]
      exact DefaultTable.compressFields_reordered t _ _ hd.1 hattributes
    · rw [children?_compressIn, children?_compressIn, hgrid]
      unfold children at ih hd
      generalize a.children? = as, b.children? = bs at ih hd hchildren
      cases hchildren with
      | none => exact .none
      | some hchildren =>
        refine .some ?_
        rw [List.forall₂_map_left_iff, List.forall₂_map_right_iff]
        refine ((List.forall₂_and_left _ _).2 ⟨fun c hc => And.intro (hd.2 c hc) (@ih c hc), hchildren⟩).imp ?_
        rintro c d ⟨⟨hc, ihc⟩, hcd⟩
        exact ihc hc hcd b.isGrid

end SceneMarkup
