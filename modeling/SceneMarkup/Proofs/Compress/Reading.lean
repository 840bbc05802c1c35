import SceneMarkup.Proofs.Compress.Idempotent
import SceneMarkup.Proofs.Json.Equal
import SceneMarkup.Proofs.Ui.View
import SceneMarkup.Scene.BuiltinDefaults

/-!
# The reading of a compressed node

With the defaults of the design tool a compressed node reads like the node it was made of (`reading_compressIn`): what is
left out is what the builder takes for granted. Only a height of lines that is an empty list would be missed.
-/

namespace SceneMarkup

open Rule (Value)

/-! ## The defaults that the builder takes for granted -/

namespace DefaultTable

/-- The only text among the defaults of an attribute. -/
def onlyText (t : DefaultTable) (key text : String) : Bool :=
  (t.defaultsOf key).all fun d => d.string?.all (· == text)

/-- The only number among the defaults of an attribute. -/
def onlyNumber (t : DefaultTable) (key : String) (x : Float) : Bool :=
  (t.defaultsOf key).all fun d => d.number?.all fun y => decide (y = x)

theorem eq_of_onlyText {t : DefaultTable} {key text : String} (h : t.onlyText key text = true) {s : String}
    (hm : .str s ∈ t.defaultsOf key) : s = text := by
  simpa [Json.string?] using List.all_eq_true.1 h _ hm

theorem eq_of_onlyNumber {t : DefaultTable} {key : String} {x : Float} (h : t.onlyNumber key x = true) {m : JsonNumber}
    (hm : .num m ∈ t.defaultsOf key) : m.toFloat = x := by
  simpa [Json.number?] using List.all_eq_true.1 h _ hm

/-- The texts that the builder falls back to are the defaults of the design tool. -/
theorem onlyText_builtin : ∀ p ∈ textReadings,
    roleOf p.1 = .other ∧ GridScope.outside.keeps p.1 = true ∧ builtin.onlyText p.1 p.2 = true := by
  decide

/-- The numbers that the builder falls back to are the defaults of the design tool. -/
theorem onlyNumber_builtin : ∀ p ∈ numberReadings,
    roleOf p.1 = .other ∧ GridScope.outside.keeps p.1 = true ∧ builtin.onlyNumber p.1 p.2 = true ∧ ¬IsZero p.2 := by
  simp only [numberReadings, List.forall_mem_cons, List.not_mem_nil, false_imp_iff, implies_true, and_true]
  decide

end DefaultTable

/-! ## Numbers of which the sign of zero does not show -/

/-- The sides of a box are written alike. -/
theorem joinSides_congr {l t r b l' t' r' b' : Float} (hl : SameNumber l l') (ht : SameNumber t t') (hr : SameNumber r r')
    (hb : SameNumber b b') : joinSides l t r b = joinSides l' t' r' b' := by
  unfold joinSides
  rw [formatNumber_same hl, formatNumber_same ht, formatNumber_same hr, formatNumber_same hb]

/-- The attributes of the padding. -/
def paddingSides : List String := ["paddingLeft", "paddingTop", "paddingRight", "paddingBottom"]

/-- The attributes of the corners. -/
def cornerSides : List String := ["topLeftRadius", "topRightRadius", "bottomRightRadius", "bottomLeftRadius"]

/-- The padding does not show the signs of zeros. -/
theorem padding?_congr {a b : SceneNode} (h : ∀ key ∈ paddingSides, SameNumber (a.numberOr key 0) (b.numberOr key 0)) :
    padding? a = padding? b := by
  simp only [paddingSides, List.forall_mem_cons] at h
  obtain ⟨hl, ht, hr, hb, -⟩ := h
  have hz := SameNumber.refl 0
  unfold padding?
  simp only [hl.beq_congr hz, ht.beq_congr hz, hr.beq_congr hz, hb.beq_congr hz, hl.beq_congr ht, ht.beq_congr hr,
    hr.beq_congr hb, formatNumber_same hl, joinSides_congr hl ht hr hb]

/-- The corner radius that a scalar asks for, where the corners have these radii. -/
def radiusOf (scalar? : Option Json) (topLeft topRight bottomRight bottomLeft : Float) : Option String :=
  match scalar? with
  | some (.str mode) =>
    if mode = "Mixed" && (topLeft != 0 || topRight != 0 || bottomRight != 0 || bottomLeft != 0) then
      some (joinSides topLeft topRight bottomRight bottomLeft)
    else none
  | some (.num radius) => if radius.toFloat != 0 then some (formatNumber radius.toFloat) else none
  | _ => none

/-- The corner radius of a node depends on a scalar and on the corners. -/
theorem cornerRadius?_eq (n : SceneNode) :
    cornerRadius? n = radiusOf ((n.get? "cornerRadius").bind Json.scalar?) (n.numberOr "topLeftRadius" 0)
      (n.numberOr "topRightRadius" 0) (n.numberOr "bottomRightRadius" 0) (n.numberOr "bottomLeftRadius" 0) := by
  unfold cornerRadius?
  cases n.get? "cornerRadius" with
  | none => rfl
  | some v => cases v <;> rfl

/-- The corner radius does not show the signs of zeros. -/
theorem cornerRadius?_congr {a b : SceneNode}
    (hm : (a.get? "cornerRadius").bind Json.scalar? = (b.get? "cornerRadius").bind Json.scalar?)
    (h : ∀ key ∈ cornerSides, SameNumber (a.numberOr key 0) (b.numberOr key 0)) : cornerRadius? a = cornerRadius? b := by
  simp only [cornerSides, List.forall_mem_cons] at h
  obtain ⟨htl, htr, hbr, hbl, -⟩ := h
  have hz := SameNumber.refl 0
  rw [cornerRadius?_eq, cornerRadius?_eq, hm]
  simp only [radiusOf, bne, htl.beq_congr hz, htr.beq_congr hz, hbr.beq_congr hz, hbl.beq_congr hz, joinSides_congr htl htr hbr hbl]

namespace SceneNode

variable {n : SceneNode} {inGrid : Bool} {key : String}

/-! ## Attributes that are read by their parts -/

/-- Whether a node is visible is read of a truth value. -/
theorem isVisible_eq (n : SceneNode) : n.isVisible = ((n.get? "visible").bind Json.bool?).getD true := by
  unfold isVisible
  cases n.get? "visible" with
  | none => rfl
  | some v => cases v <;> rfl

/-- The paints of a list are the objects among its items. -/
theorem paints_eq (n : SceneNode) (key : String) : n.paints key = (n.itemsOf key).filterMap Json.fields? := by
  unfold paints itemsOf
  cases n.get? key with
  | none => rfl
  | some v => cases v <;> rfl

/-- Each item of a list of tracks gives one track. -/
theorem nativeTracks_eq (n : SceneNode) (key : String) : nativeTracks n key = (n.itemsOf key).map gridTrack := by
  unfold nativeTracks itemsOf
  cases n.get? key with
  | none => rfl
  | some v => cases v <;> rfl

/-- The family of a text's font is one of the fields. -/
theorem fontFamily?_eq (n : SceneNode) :
    fontFamily? n = (((n.fieldsOf "fontName").lookup "family").bind Json.string?).bind fun family =>
      if family = "" || defaultFontFamilies.contains family then none else some family := by
  unfold fontFamily? fieldsOf Json.field?
  cases n.get? "fontName" with
  | none => rfl
  | some v =>
    cases v with
    | obj fields =>
      simp only [Option.bind_some, Json.fields?, Option.getD_some]
      cases (fields.lookup "family").bind Json.string? <;> rfl
    | _ => rfl

/-- A part of the height of lines is one of the fields. -/
theorem lineHeightField?_eq (n : SceneNode) (name : String) :
    n.lineHeightField? name = (n.fieldsOf "lineHeight").lookup name := by
  unfold lineHeightField? fieldsOf Json.field?
  cases n.get? "lineHeight" with
  | none => rfl
  | some v => cases v <;> rfl

/-! ## What is left of the attributes -/

/-- Attributes that count outside of grids count in every node. -/
theorem scope_keeps (hs : GridScope.outside.keeps key = true) : (n.scope inGrid).keeps key = true :=
  GridScope.keeps_of_outside hs _

/-- A track of a grid does not change. -/
theorem gridTrack_mapObject {v : Json} (hv : v.Distinct) (type : String) :
    gridTrack (v.mapObject (DefaultTable.builtin.compressFields type .outside)) = gridTrack v := by
  cases v with
  | obj fields =>
    have hn := (Json.distinct_obj.1 hv).1
    have htype := DefaultTable.read_lookup_compressFields .builtin type .outside "type"
      Json.string?_of_not_isScalar hn (by decide) (.inl (by decide))
    have hvalue := DefaultTable.read_lookup_compressFields .builtin type .outside "value"
      Json.number?_of_not_isScalar hn (by decide) (.inr ⟨by decide, rfl⟩)
    unfold gridTrack
    simp only [Json.mapObject, Json.field?, Json.fields?, Option.bind_some, htype, hvalue]
  | _ => rfl

/-- The rules do not see what an object in a list holds. -/
theorem ofJson_mapObject (f : Fields → Fields) (items : List Json) :
    Value.ofJson (.arr (items.map (Json.mapObject f))) = Value.ofJson (.arr items) := by
  simp only [Value.ofJson, Value.list.injEq]
  induction items with
  | nil => rfl
  | cons v rest ih =>
    have hv : Value.ofJson (v.mapObject f) = Value.ofJson v := by
      cases v <;> simp [Json.mapObject, Value.ofJson]
    simp only [List.map_cons, Value.ofJsonItems, hv, ih]

/-- The rules see a height of lines that is kept as it was, and an empty list alone makes a difference when it is left
out. -/
theorem ofJson_kept_value {v : Json} (hv : v ≠ .arr []) (type : String) :
    ((DefaultTable.builtin.kept type .outside "value" v).map Value.ofJson).getD .none = Value.ofJson v := by
  have hr : roleOf "value" = .other := by decide
  have hs : GridScope.outside.keeps "value" = true := by decide
  have hdef : DefaultTable.builtin.defaultsOf "value" = [] := rfl
  have hscalar : v.isScalar = true → DefaultTable.builtin.kept type .outside "value" v = some v := by
    intro h
    have hnot : DefaultTable.builtin.isDefault type "value" v = false := by
      cases hd : DefaultTable.builtin.isDefault type "value" v with
      | false => rfl
      | true =>
        obtain ⟨d, hm, -⟩ := DefaultTable.exists_default hd
        simp [hdef] at hm
    rw [DefaultTable.kept_eq_some_iff, DefaultTable.leavesOut_of_isScalar hr hs h]
    exact ⟨hnot, DefaultTable.keptForm_of_isScalar h⟩
  cases v with
  | null =>
    rw [DefaultTable.kept_eq]
    simp [DefaultTable.leavesOut, Json.isNull, Value.ofJson]
  | bool b => rw [hscalar rfl]; rfl
  | num m => rw [hscalar rfl]; rfl
  | str s => rw [hscalar rfl]; rfl
  | obj fields =>
    rcases DefaultTable.kept_obj .builtin type hr hs (by decide) fields with he | ⟨hnone, -⟩
    · rw [he]
      simp [Value.ofJson]
    · rw [hnone]
      simp [Value.ofJson]
  | arr items =>
    rcases DefaultTable.kept_arr .builtin type hr hs items with he | ⟨-, hempty⟩
    · rw [he]
      exact ofJson_mapObject _ items
    · rcases hempty with rfl | ⟨d, hm, -⟩
      · exact absurd rfl hv
      · simp [hdef] at hm

/-- The default height of lines has a unit and nothing else. -/
theorem eq_of_default_lineHeight {fs : Fields} {d : Json} (hm : d ∈ DefaultTable.builtin.defaultsOf "lineHeight")
    (hsame : Json.sameValue d (.obj fs) = true) : fs = [("unit", .str "AUTO")] := by
  have hdef : DefaultTable.builtin.defaultsOf "lineHeight" = [.obj [("unit", .str "AUTO")]] := rfl
  rw [hdef, List.mem_singleton] at hm
  subst hm
  obtain ⟨ds, hds, hlen, hall⟩ := Json.sameValue_obj hsame
  cases hds
  obtain ⟨v, hv, hunit⟩ := hall ("unit", .str "AUTO") (by simp)
  obtain rfl := Json.eq_of_sameValue_str hunit
  obtain ⟨p, rfl⟩ := List.length_eq_one_iff.1 hlen.symm
  rw [List.mem_singleton.1 (Named.mem_of_lookup hv)]

section

variable (hd : (Json.obj n.attributes).Distinct)

include hd

theorem isVisible_compressIn : (n.compressIn .builtin inGrid).isVisible = n.isVisible := by
  rw [isVisible_eq, isVisible_eq]
  rcases read_compressIn .builtin "visible" Json.bool?_of_not_isScalar (Json.distinct_obj.1 hd).1 (by decide)
      (scope_keeps (by decide)) with he | ⟨hnone, v, d, hv, hm, hsame⟩
  · rw [he]
  · rw [hnone, hv]
    cases v with
    | bool b =>
      obtain rfl := Json.sameValue_bool hsame
      have hdef : DefaultTable.builtin.defaultsOf "visible" = [.bool true] := rfl
      rw [hdef, List.mem_singleton] at hm
      obtain rfl := Json.bool.inj hm
      rfl
    | _ => rfl

/-- Sides that are zero by default are the same but for the signs of zeros. -/
theorem sides_compressIn : ∀ key ∈ paddingSides ++ cornerSides ++ ["itemSpacing"],
    SameNumber ((n.compressIn .builtin inGrid).numberOr key 0) (n.numberOr key 0) := by
  intro key hk
  have hdef : ∀ key ∈ paddingSides ++ cornerSides ++ ["itemSpacing"],
      roleOf key = .other ∧ GridScope.outside.keeps key = true ∧ DefaultTable.builtin.onlyNumber key 0 = true := by
    decide
  obtain ⟨hr, hs, hz⟩ := hdef key hk
  exact numberOr_compressIn (Json.distinct_obj.1 hd).1 hr (scope_keeps hs) fun m => DefaultTable.eq_of_onlyNumber hz

theorem cornerRadius?_compressIn : cornerRadius? (n.compressIn .builtin inGrid) = cornerRadius? n := by
  have hcorners : ∀ key ∈ cornerSides,
      SameNumber ((n.compressIn .builtin inGrid).numberOr key 0) (n.numberOr key 0) :=
    fun key hk => sides_compressIn hd key (by simp [hk])
  rcases read_compressIn .builtin "cornerRadius" Json.scalar?_of_not_isScalar (Json.distinct_obj.1 hd).1 (by decide)
      (scope_keeps (by decide)) with he | ⟨hnone, v, d, hv, hm, hsame⟩
  · exact cornerRadius?_congr he hcorners
  · have hdef : DefaultTable.builtin.defaultsOf "cornerRadius" = [.int 0, .int 0] := rfl
    simp only [hdef, List.mem_cons, List.not_mem_nil, or_false, or_self] at hm
    subst hm
    unfold cornerRadius?
    rw [hnone, hv]
    cases v with
    | str s => nomatch hsame
    | num m =>
      obtain ⟨k, hk, hz⟩ := Json.sameValue_num hsame
      cases hk
      have hzero : (m.toFloat == 0) = true := by
        rw [(same_of_beq hz).symm.beq_congr (SameNumber.refl 0)]
        rfl
      simp [bne, hzero]
    | _ => rfl

/-! ### Objects and arrays -/

/-- The items of an attribute are distinct. -/
theorem distinct_itemsOf : ∀ v ∈ n.itemsOf key, v.Distinct := by
  unfold itemsOf
  cases hg : n.get? key with
  | none => simp
  | some v =>
    have hv := (Json.distinct_obj.1 hd).2 _ (Named.mem_of_lookup hg)
    cases v with
    | arr items => exact Json.distinct_arr.1 hv
    | _ => simp [Json.items?]

/-- The fields of an attribute are distinct. -/
theorem distinct_fieldsOf (key : String) : (Json.obj (n.fieldsOf key)).Distinct := by
  unfold fieldsOf
  cases hg : n.get? key with
  | none => simp [Json.distinct_obj]
  | some v =>
    have hv := (Json.distinct_obj.1 hd).2 _ (Named.mem_of_lookup hg)
    cases v with
    | obj fields => exact hv
    | _ => simp [Json.fields?, Json.distinct_obj]

/-- The first paint of a list has the same colour and opacity. -/
theorem paintReading_compressIn (hk : paintLists.contains key = true) (hr : roleOf key = .other)
    (hs : GridScope.outside.keeps key = true)
    (hdef : ∀ items, .arr items ∈ DefaultTable.builtin.defaultsOf key → items = []) :
    (n.compressIn .builtin inGrid).paintReading key = n.paintReading key := by
  have hitem : DefaultTable.builtin.itemFields n.tag key = compressPaint := by
    simp only [DefaultTable.itemFields, hk, if_true]
  have hmap : ∀ items : List Json, (items.map (Json.mapObject compressPaint)).filterMap Json.fields? =
      (items.filterMap Json.fields?).map compressPaint := by
    intro items
    rw [List.filterMap_map, List.map_filterMap]
    congr 1
    funext v
    exact Json.fields?_mapObject compressPaint v
  have hnodup : ∀ paint ∈ n.paints key, paint.names.Nodup := by
    intro paint hm
    rw [paints_eq] at hm
    obtain ⟨v, hv, hf⟩ := List.mem_filterMap.1 hm
    have hdv := distinct_itemsOf hd v hv
    rw [Json.eq_obj_of_fields? hf] at hdv
    exact (Json.distinct_obj.1 hdv).1
  unfold paintReading
  rw [paints_eq (n.compressIn .builtin inGrid), itemsOf_compressIn (Json.distinct_obj.1 hd).1 hr (scope_keeps hs) hdef,
    hitem, hmap, ← paints_eq]
  cases hp : n.paints key with
  | nil => rfl
  | cons paint rest =>
    have hone := hnodup paint (by simp [hp])
    simp [paintHex?_compressPaint hone, paintOpacity_compressPaint hone]

/-- The tracks of a grid do not change. -/
theorem nativeTracks_compressIn (hk : paintLists.contains key = false) (hr : roleOf key = .other)
    (hs : GridScope.outside.keeps key = true) (hdef : DefaultTable.builtin.defaultsOf key = []) :
    nativeTracks (n.compressIn .builtin inGrid) key = nativeTracks n key := by
  have hitem : DefaultTable.builtin.itemFields n.tag key = DefaultTable.builtin.compressFields n.tag .outside := by
    simp only [DefaultTable.itemFields, hk]
    rfl
  rw [nativeTracks_eq, nativeTracks_eq,
    itemsOf_compressIn (Json.distinct_obj.1 hd).1 hr (scope_keeps hs) (by simp [hdef]), hitem, List.map_map]
  exact List.map_congr_left fun v hv => gridTrack_mapObject (distinct_itemsOf hd v hv) n.tag

/-- The family of a text's font does not change. -/
theorem fontFamily?_compressIn : fontFamily? (n.compressIn .builtin inGrid) = fontFamily? n := by
  have hshow := DefaultTable.read_lookup_compressFields .builtin n.tag .outside "family"
    Json.string?_of_not_isScalar (Json.distinct_obj.1 (distinct_fieldsOf hd "fontName")).1 (by decide)
    (.inr ⟨by decide, rfl⟩)
  rw [fontFamily?_eq, fontFamily?_eq]
  rcases show_fieldsOf_compressIn .builtin inGrid (fun fs => (fs.lookup "family").bind Json.string?) (Json.distinct_obj.1 hd).1
      (by decide) (scope_keeps (by decide)) (by decide) hshow with he | ⟨hnone, fs, d, hm, hsame, he⟩
  · exact congrArg (Option.bind · _) he
  · have hdef : DefaultTable.builtin.defaultsOf "fontName" =
        [.obj [("family", .str "Roboto"), ("style", .str "Regular")]] := rfl
    rw [hdef, List.mem_singleton] at hm
    subst hm
    obtain ⟨ds, hds, -, hall⟩ := Json.sameValue_obj hsame
    cases hds
    obtain ⟨v, hv, hfamily⟩ := hall ("family", .str "Roboto") (by simp)
    obtain rfl := Json.eq_of_sameValue_str hfamily
    rw [hnone, he, hv]
    rfl

/-- The unit of the height of lines does not change. -/
theorem lineHeightUnit_compressIn :
    (((n.compressIn .builtin inGrid).lineHeightField? "unit").bind Json.string?).getD "AUTO" =
      ((n.lineHeightField? "unit").bind Json.string?).getD "AUTO" := by
  have hshow := congrArg (Option.getD · "AUTO") (DefaultTable.read_lookup_compressFields .builtin n.tag .outside "unit"
    Json.string?_of_not_isScalar (Json.distinct_obj.1 (distinct_fieldsOf hd "lineHeight")).1 (by decide)
    (.inr ⟨by decide, rfl⟩))
  rw [lineHeightField?_eq, lineHeightField?_eq]
  rcases show_fieldsOf_compressIn .builtin inGrid (fun fs => ((fs.lookup "unit").bind Json.string?).getD "AUTO")
      (Json.distinct_obj.1 hd).1 (by decide) (scope_keeps (by decide)) (by decide) hshow with
    he | ⟨hnone, fs, d, hm, hsame, he⟩
  · exact he
  · rw [hnone, he, eq_of_default_lineHeight hm hsame]
    rfl

/-- The height of lines does not change, unless it is an empty list. -/
theorem lineHeight_compressIn (hv : n.lineHeightField? "value" ≠ some (.arr [])) :
    (((n.compressIn .builtin inGrid).lineHeightField? "value").map Value.ofJson).getD .none =
      ((n.lineHeightField? "value").map Value.ofJson).getD .none := by
  have hn := (Json.distinct_obj.1 (distinct_fieldsOf hd "lineHeight")).1
  rw [lineHeightField?_eq] at hv
  have hshow : (((DefaultTable.builtin.compressFields n.tag .outside (n.fieldsOf "lineHeight")).lookup "value").map
      Value.ofJson).getD .none = (((n.fieldsOf "lineHeight").lookup "value").map Value.ofJson).getD .none := by
    rw [DefaultTable.lookup_compressFields hn]
    cases hl : (n.fieldsOf "lineHeight").lookup "value" with
    | none => rfl
    | some v =>
      rw [hl] at hv
      exact ofJson_kept_value (fun he => hv (congrArg some he)) n.tag
  rw [lineHeightField?_eq, lineHeightField?_eq]
  rcases show_fieldsOf_compressIn .builtin inGrid (fun fs => ((fs.lookup "value").map Value.ofJson).getD .none)
      (Json.distinct_obj.1 hd).1 (by decide) (scope_keeps (by decide)) (by decide) hshow with
    he | ⟨hnone, fs, d, hm, hsame, he⟩
  · exact he
  · rw [hnone, he, eq_of_default_lineHeight hm hsame]
    rfl

/-! ### The reading -/

/-- An anchor that is below zero by default does not change as far as it counts. -/
theorem anchor_compressIn (hk : key ∈ ["gridRowAnchorIndex", "gridColumnAnchorIndex"]) :
    (((n.compressIn .builtin true).number? key).filter (0 ≤ ·)) = (n.number? key).filter (0 ≤ ·) := by
  have hkey : ∀ key ∈ ["gridRowAnchorIndex", "gridColumnAnchorIndex"],
      roleOf key = .other ∧ DefaultTable.builtin.onlyNumber key (-1) = true ∧
        (⟨n.isGrid, true⟩ : GridScope).keeps key = true := by
    cases n.isGrid <;> decide
  obtain ⟨hr, hdef, hs⟩ := hkey key hk
  unfold number?
  rcases read_compressIn .builtin key Json.number?_of_not_isScalar (Json.distinct_obj.1 hd).1 hr hs with
    he | ⟨hnone, v, d, hv, hm, hsame⟩
  · rw [he]
  · rw [hnone, hv]
    cases v with
    | num m =>
      obtain ⟨k, rfl, hz⟩ := Json.sameValue_num hsame
      rw [DefaultTable.eq_of_onlyNumber hdef hm] at hz
      have hminus : -1 = m.toFloat := (same_of_beq hz).eq_of_not_isZero (by decide)
      -- The default stands for a cell without anchor, and is none for the builder either.
      have hbelow : (some (-1 : Float)).filter (0 ≤ ·) = none := by decide
      simp [Json.number?, ← hminus, hbelow]
    | _ => rfl

/-- A span of one by default does not change. -/
theorem span_compressIn (hk : key ∈ ["gridRowSpan", "gridColumnSpan"]) :
    (n.compressIn .builtin true).numberOr key 1 = n.numberOr key 1 := by
  have hkey : ∀ key ∈ ["gridRowSpan", "gridColumnSpan"],
      roleOf key = .other ∧ DefaultTable.builtin.onlyNumber key 1 = true ∧
        (⟨n.isGrid, true⟩ : GridScope).keeps key = true := by
    cases n.isGrid <;> decide
  obtain ⟨hr, hdef, hs⟩ := hkey key hk
  exact numberOr_compressIn_eq (Json.distinct_obj.1 hd).1 hr hs (fun m => DefaultTable.eq_of_onlyNumber hdef) (by decide)

/-- The gaps of a grid do not change. -/
theorem gap_compressIn (hgrid : n.isGrid = true) (key : String) (hk : key ∈ ["gridRowGap", "gridColumnGap"]) :
    (n.compressIn .builtin inGrid).numberOr key 0 = n.numberOr key 0 := by
  have hkey : ∀ key ∈ ["gridRowGap", "gridColumnGap"],
      roleOf key = .other ∧ (DefaultTable.builtin.defaultsOf key).isEmpty = true ∧
        (⟨true, inGrid⟩ : GridScope).keeps key = true := by
    cases inGrid <;> decide
  obtain ⟨hr, hdef, hs⟩ := hkey key hk
  have hscope : (n.scope inGrid).keeps key = true := by rwa [scope, hgrid]
  unfold numberOr number?
  rw [read_compressIn_of_no_default .builtin key Json.number?_of_not_isScalar (Json.distinct_obj.1 hd).1 hr hscope
    (List.isEmpty_iff.1 hdef)]

/-- A compressed node reads like the node, unless its height of lines is an empty list. -/
theorem reading_compressIn (hv : n.lineHeightField? "value" ≠ some (.arr [])) :
    (n.compressIn .builtin inGrid).reading false inGrid = n.reading false inGrid := by
  have hn := (Json.distinct_obj.1 hd).1
  have hgrid : (n.compressIn .builtin inGrid).isGrid = n.isGrid := isGrid_compressIn hn builtin_no_grid
  unfold reading
  simp only [NodeReading.mk.injEq]
  refine ⟨tag_compressIn hn,
    read_compressIn_of_critical _ "name" Json.string?_of_not_isScalar hn (by decide) (by decide),
    isVisible_compressIn hd, ?_, ?_, ?_,
    read_compressIn_of_critical _ "width" Json.number?_of_not_isScalar hn (by decide) (by decide),
    read_compressIn_of_critical _ "height" Json.number?_of_not_isScalar hn (by decide) (by decide), ?_,
    padding?_congr fun key hk => sides_compressIn hd key (by simp [hk]), cornerRadius?_compressIn hd,
    paintReading_compressIn hd (by decide) (by decide) (by decide) ?_,
    paintReading_compressIn hd (by decide) (by decide) (by decide) ?_, fontFamily?_compressIn hd,
    lineHeightUnit_compressIn hd, lineHeight_compressIn hd hv,
    nativeTracks_compressIn hd (by decide) (by decide) (by decide) rfl,
    nativeTracks_compressIn hd (by decide) (by decide) (by decide) rfl, ?_, ?_, ?_⟩
  · refine List.map_congr_left fun p hp => ?_
    obtain ⟨hr, hs, hdef⟩ := DefaultTable.onlyText_builtin p hp
    exact stringOr_compressIn hn hr (scope_keeps hs) fun s => DefaultTable.eq_of_onlyText hdef
  · refine List.map_congr_left fun p hp => ?_
    obtain ⟨hr, hs, hdef, hz⟩ := DefaultTable.onlyNumber_builtin p hp
    exact numberOr_compressIn_eq hn hr (scope_keeps hs) (fun m => DefaultTable.eq_of_onlyNumber hdef) hz
  · exact read_compressIn_of_no_default .builtin "characters" Json.string?_of_not_isScalar hn (by decide)
      (scope_keeps (by decide)) rfl
  · exact unsignedZero_eq_iff.2 (sides_compressIn hd "itemSpacing" (by simp))
  · have hfills : DefaultTable.builtin.defaultsOf "fills" = [.arr [], .arr [], .arr []] := rfl
    simp [hfills]
  · have hstrokes : DefaultTable.builtin.defaultsOf "strokes" = [.arr [], .arr [], .arr []] := rfl
    simp [hstrokes]
  · rw [hgrid, Bool.false_or]
    cases hg : n.isGrid with
    | false => rfl
    | true =>
      simp only [if_true, gap_compressIn hd hg "gridRowGap" (by simp), gap_compressIn hd hg "gridColumnGap" (by simp)]
  · cases inGrid with
    | false => rfl
    | true => exact List.map_congr_left fun key hk => anchor_compressIn hd hk
  · cases inGrid with
    | false => rfl
    | true => exact List.map_congr_left fun key hk => span_compressIn hd hk

end

end SceneNode

end SceneMarkup
