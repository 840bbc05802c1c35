import SceneMarkup.Compress.Node
import SceneMarkup.Proofs.Json.Basic
import SceneMarkup.Proofs.Json.Fields
import SceneMarkup.Proofs.Json.Equal

/-!
# What compression leaves of one attribute

`DefaultTable.kept` is what is left of the value of an attribute, and compressing an attribute map applies it to every
value (`compressFields_eq_keep`, `lookup_compressFields`). A value is left out, or kept in a form in which the contents of
an object or array are compressed (`kept_eq`, `keptForm_cases`).
-/

namespace SceneMarkup

/-! ## Attribute names -/

/-- How compression treats the attributes of a name. -/
inductive AttributeRole where
  /-- Never kept. -/
  | dropped
  /-- A transform, which is kept as it is unless it changes nothing. -/
  | transform
  /-- Kept unless null. -/
  | critical
  /-- Kept unless it says nothing, with its contents compressed. -/
  | other
deriving DecidableEq

/-- The role of a name. -/
def roleOf (key : String) : AttributeRole :=
  if computedAttributes.contains key || interfaceAttributes.contains key then .dropped
  else if key = "relativeTransform" then .transform
  else if criticalAttributes.contains key then .critical
  else .other

/-- Compression goes into the value of an attribute. -/
def opens (key : String) : Json → Bool
  | .obj _ => roleOf key = .other
  | .arr _ => roleOf key = .other || key = "children"
  | _ => false

/-- A grid attribute that counts outside of grids counts everywhere. -/
theorem GridScope.keeps_of_outside {key : String} (h : outside.keeps key = true) (s : GridScope) :
    s.keeps key = true := by
  unfold keeps at h ⊢
  split at h
  · nomatch h
  · rename_i hc
    rw [if_neg hc]
    split at h
    · nomatch h
    · rename_i hd
      rw [if_neg hd]

namespace DefaultTable

variable {t : DefaultTable} {type key : String} {scope : GridScope} {v w : Json}

/-! ## Defaults -/

/-- The values that the sections of a table give to an attribute. -/
def defaultsOf (t : DefaultTable) (key : String) : List Json :=
  t.sections.filterMap fun s => s.2.fields?.bind (List.lookup key)

/-- An entry of a section is a value that the table gives to the attribute. -/
theorem mem_defaultsOf_of_entry? {name : String} (h : t.entry? name key = some v) : v ∈ t.defaultsOf key := by
  obtain ⟨fields, hs, hl⟩ := Option.bind_eq_some_iff.1 h
  obtain ⟨s, hm, hf⟩ := Option.bind_eq_some_iff.1 hs
  refine List.mem_filterMap.2 ⟨(name, s), Named.mem_of_lookup hm, ?_⟩
  simp only [hf, Option.bind_some, hl]

/-- A value that is a default is equal to what the table says for the type. -/
theorem exists_of_isDefault (h : t.isDefault type key v = true) :
    ∃ d, t.resolve? type key = some d ∧ Json.sameValue d v = true := by
  unfold isDefault at h
  cases hr : t.resolve? type key with
  | none => simp [hr] at h
  | some d =>
    rw [hr, Bool.and_eq_true] at h
    exact ⟨d, rfl, h.2⟩

/-- A value is not the default of a node without a type, nor where the default differs. -/
theorem isDefault_eq_false_iff : t.isDefault type key v = false ↔
    type = "" ∨ ∀ d, t.resolve? type key = some d → Json.sameValue d v = false := by
  unfold isDefault
  cases t.resolve? type key with
  | none => simp
  | some d => by_cases htype : type = "" <;> simp [htype]

/-- A default is an entry of the type's own section or of the one for all nodes. -/
theorem entry?_of_resolve? (h : t.resolve? type key = some v) :
    t.entry? type key = some v ∨ t.entry? globalSection key = some v := by
  obtain ⟨he, -⟩ := Option.filter_eq_some_iff.1 h
  rcases Option.or_eq_some_iff.1 he with htype | ⟨-, hglobal⟩
  · exact .inl htype
  · exact .inr hglobal

/-- A default is a value that the table gives to the attribute. -/
theorem exists_default (h : t.isDefault type key v = true) :
    ∃ d ∈ t.defaultsOf key, Json.sameValue d v = true := by
  obtain ⟨d, hr, hsame⟩ := exists_of_isDefault h
  refine ⟨d, ?_, hsame⟩
  rcases entry?_of_resolve? hr with htype | hglobal
  · exact mem_defaultsOf_of_entry? htype
  · exact mem_defaultsOf_of_entry? hglobal

/-! ## Attribute maps -/

/-- What is left of the value of an attribute. -/
def kept (t : DefaultTable) (type : String) (scope : GridScope) (key : String) (v : Json) : Option Json :=
  t.keptValue type scope key v (t.compressNested type v)

/-- Compressing an attribute map keeps what is left of its attributes. -/
theorem compressFields_eq_keep (t : DefaultTable) (type : String) (scope : GridScope) (fields : Fields) :
    t.compressFields type scope fields = Fields.keep (t.kept type scope) fields := by
  induction fields with
  | nil => simp [compressFields, Fields.keep]
  | cons p rest ih =>
    rw [compressFields, Fields.keep_cons, ← ih, kept]
    cases t.keptValue type scope p.1 p.2 (t.compressNested type p.2) <;> rfl

/-- What an attribute is after compression. -/
theorem lookup_compressFields {fields : Fields} (hd : fields.names.Nodup) (key : String) :
    (t.compressFields type scope fields).lookup key = (fields.lookup key).bind (t.kept type scope key) := by
  rw [compressFields_eq_keep, Fields.lookup_keep hd]

/-! ## Objects in arrays -/

/-- Compressing an array treats every object in it by itself. -/
theorem compressItems_eq_map (t : DefaultTable) (type : String) (items : List Json) :
    t.compressItems type items = items.map (Json.mapObject (t.compressFields type .outside)) := by
  induction items with
  | nil => simp [compressItems]
  | cons x rest ih => cases x <;> simp [compressItems, Json.mapObject, ih]

/-! ## Values -/

/-- What becomes of the fields of an object in an array. -/
def itemFields (t : DefaultTable) (type key : String) : Fields → Fields :=
  if paintLists.contains key then compressPaint else t.compressFields type .outside

/-- The value with its contents compressed. -/
def inside (t : DefaultTable) (type key : String) : Json → Json
  | .obj fields => .obj (t.compressFields type .outside fields)
  | .arr items => .arr (items.map (Json.mapObject (t.itemFields type key)))
  | v => v

/-- The form in which the value of an attribute is kept. -/
def keptForm (t : DefaultTable) (type key : String) (v : Json) : Json :=
  if opens key v then t.inside type key v else v

/-- The value adds nothing to its attribute: it is empty, or the default. -/
def addsNothing (t : DefaultTable) (type key : String) (v : Json) : Bool :=
  v.isEmptyCollection || t.isDefault type key v

/-- Nothing is left of an attribute. -/
def leavesOut (t : DefaultTable) (type : String) (scope : GridScope) (key : String) (v : Json) : Bool :=
  v.isNull || !scope.keeps key || match roleOf key with
    | .dropped => true
    | .transform => isIdentityTransform v
    | .critical => false
    | .other => (key = "overlayBackground" && isNoOverlay v) || t.addsNothing type key v ||
        (v.fields?.isSome && t.addsNothing type key (t.inside type key v))

/-- An attribute is left out, or kept with its contents compressed. -/
theorem kept_eq (t : DefaultTable) (type : String) (scope : GridScope) (key : String) (v : Json) :
    t.kept type scope key v =
      if t.leavesOut type scope key v then none else some (t.keptForm type key v) := by
  unfold kept keptValue leavesOut keptForm opens roleOf
  cases hn : v.isNull with
  | true => rfl
  | false =>
  cases hs : scope.keeps key with
  | false => simp
  | true =>
  cases hc : computedAttributes.contains key with
  | true => rfl
  | false =>
  cases hi : interfaceAttributes.contains key with
  | true => rfl
  | false =>
  by_cases ht : key = "relativeTransform"
  · subst ht
    cases v <;> rfl
  cases hk : criticalAttributes.contains key with
  | true =>
    have ho : key ≠ "overlayBackground" := by
      rintro rfl
      exact absurd hk (by decide)
    have hp : t.itemFields type "children" = t.compressFields type .outside := rfl
    cases v with
    | arr items => by_cases hch : key = "children" <;> simp [ht, ho, hp, hch, inside, compressNested, compressItems_eq_map]
    | _ => simp [ht, ho]
  | false =>
    have hch : key ≠ "children" := by
      rintro rfl
      exact absurd hk (by decide)
    cases ho : (key = "overlayBackground" && isNoOverlay v) with
    | true => simp_all
    | false =>
    have hno : ¬(key = "overlayBackground" ∧ isNoOverlay v = true) := by simpa using ho
    cases he : t.addsNothing type key v with
    | true => simp_all [addsNothing]
    | false =>
      cases v with
      | null => nomatch hn
      | bool b => simp_all [addsNothing, Json.fields?]
      | num n => simp_all [addsNothing, Json.fields?]
      | str s => simp_all [addsNothing, Json.fields?]
      | obj fields => simp_all [addsNothing, inside, compressNested, Json.fields?]
      | arr items =>
        by_cases hp : paintLists.contains key = true
        · simp_all [addsNothing, inside, itemFields, Json.fields?]
          intro x _
          cases x <;> rfl
        · simp_all [addsNothing, inside, itemFields, compressNested, compressItems_eq_map, Json.fields?]

/-- What is left of an attribute, if anything is. -/
theorem kept_eq_some_iff :
    t.kept type scope key v = some w ↔ t.leavesOut type scope key v = false ∧ t.keptForm type key v = w := by
  rw [kept_eq]
  cases t.leavesOut type scope key v <;> simp

/-- Only what has parts has contents. -/
theorem inside_eq_self (h : v.items? = none) (h' : v.fields? = none) : t.inside type key v = v := by
  cases v with
  | arr items => nomatch h
  | obj fields => nomatch h'
  | _ => rfl

/-- The kind of a value does not change, and a value without parts stays as it is. -/
theorem keptForm_cases (t : DefaultTable) (type key : String) (v : Json) :
    t.keptForm type key v = v ∨
      (∃ fields, v = .obj fields ∧ roleOf key = .other ∧
        t.keptForm type key v = .obj (t.compressFields type .outside fields)) ∨
      ∃ items, v = .arr items ∧
        t.keptForm type key v = .arr (items.map (Json.mapObject (t.itemFields type key))) := by
  unfold keptForm
  split
  · rename_i ho
    cases v with
    | obj fields => exact .inr (.inl ⟨fields, rfl, by simpa [opens] using ho, rfl⟩)
    | arr items => exact .inr (.inr ⟨items, rfl, rfl⟩)
    | _ => exact .inl rfl
  · exact .inl rfl

/-- Only a scalar is kept as a scalar. -/
theorem eq_of_keptForm_isScalar (h : (t.keptForm type key v).isScalar = true) : t.keptForm type key v = v := by
  rcases keptForm_cases t type key v with he | ⟨fields, -, -, he⟩ | ⟨items, -, he⟩
  · exact he
  · rw [he] at h
    nomatch h
  · rw [he] at h
    nomatch h

/-- A scalar that is kept would be kept again. -/
theorem kept_again_of_isScalar (h : t.kept type scope key v = some w) (hw : w.isScalar = true) :
    t.kept type scope key w = some w := by
  obtain ⟨_, rfl⟩ := kept_eq_some_iff.1 h
  rw [eq_of_keptForm_isScalar hw] at h ⊢
  exact h

/-- Compression goes into the form that is kept where it went into the value. -/
theorem opens_keptForm (t : DefaultTable) (type key : String) (v : Json) :
    opens key (t.keptForm type key v) = opens key v := by
  rcases keptForm_cases t type key v with he | ⟨fields, rfl, -, he⟩ | ⟨items, rfl, he⟩ <;> rw [he] <;> rfl

/-! ## Scalars -/

/-- A scalar with an ordinary name is left out only as a default. -/
theorem leavesOut_of_isScalar (hr : roleOf key = .other) (hs : scope.keeps key = true) (hv : v.isScalar = true) :
    t.leavesOut type scope key v = t.isDefault type key v := by
  cases v with
  | null => nomatch hv
  | arr items => nomatch hv
  | obj fields => nomatch hv
  | _ => simp [leavesOut, hr, hs, Json.isNull, isNoOverlay, addsNothing, Json.isEmptyCollection, Json.fields?]

/-- A scalar is kept as it is. -/
theorem keptForm_of_isScalar (hv : v.isScalar = true) : t.keptForm type key v = v := by
  cases v <;> first | rfl | nomatch hv

section

variable {α : Type} {p : Json → Option α} (hp : ∀ v : Json, v.isScalar = false → p v = none)

include hp

/-- What is read of a value that is kept is read of the value. -/
theorem read_keptForm (t : DefaultTable) (type key : String) (v : Json) : p (t.keptForm type key v) = p v := by
  cases hs : (t.keptForm type key v).isScalar with
  | true => rw [eq_of_keptForm_isScalar hs]
  | false =>
    cases hv : v.isScalar with
    | true =>
      rw [keptForm_of_isScalar hv] at hs
      simp [hs] at hv
    | false => rw [hp _ hs, hp _ hv]

/-- What is read of a scalar with a critical name is read of what is kept. -/
theorem read_kept_of_critical (hr : roleOf key = .critical) (hs : scope.keeps key = true) (v : Json) :
    (t.kept type scope key v).bind p = p v := by
  rw [kept_eq]
  cases hv : v.isNull with
  | true =>
    rw [Json.eq_null_of_isNull hv, hp .null rfl]
    rfl
  | false => simpa [leavesOut, hv, hs, hr] using read_keptForm hp t type key v

/-- What is read of a value with an ordinary name is read of what is kept, unless the value is a default. -/
theorem read_kept (t : DefaultTable) (type : String) (hr : roleOf key = .other) (hs : scope.keeps key = true) (v : Json) :
    (t.kept type scope key v).bind p = p v ∨
      t.kept type scope key v = none ∧ ∃ d ∈ t.defaultsOf key, Json.sameValue d v = true := by
  rw [kept_eq]
  cases hl : t.leavesOut type scope key v with
  | false => exact .inl (read_keptForm hp t type key v)
  | true =>
    cases hv : v.isScalar with
    | true =>
      rw [leavesOut_of_isScalar hr hs hv] at hl
      exact .inr ⟨rfl, exists_default hl⟩
    | false => exact .inl (hp v hv).symm

end

/-! ## Objects and arrays -/

/-- An object is kept with its fields compressed, unless they, or what is left of them, are none or the default. -/
theorem kept_obj (t : DefaultTable) (type : String) (hr : roleOf key = .other) (hs : scope.keeps key = true)
    (ho : key ≠ "overlayBackground") (fields : Fields) :
    t.kept type scope key (.obj fields) = some (.obj (t.compressFields type .outside fields)) ∨
      t.kept type scope key (.obj fields) = none ∧ ∃ fs, (fs = fields ∨ fs = t.compressFields type .outside fields) ∧
        (fs = [] ∨ ∃ d ∈ t.defaultsOf key, Json.sameValue d (.obj fs) = true) := by
  have hnothing : ∀ fs : Fields, t.addsNothing type key (.obj fs) = true →
      fs = [] ∨ ∃ d ∈ t.defaultsOf key, Json.sameValue d (.obj fs) = true := by
    intro fs h
    rcases Bool.or_eq_true_iff.1 h with he | hdef
    · exact .inl (List.isEmpty_iff.1 he)
    · exact .inr (exists_default hdef)
  rw [kept_eq]
  cases hl : t.leavesOut type scope key (.obj fields) with
  | false => exact .inl (by simp [keptForm, opens, hr, inside])
  | true =>
    refine .inr ⟨rfl, ?_⟩
    simp only [leavesOut, hr, hs, ho, Json.isNull, Json.fields?, inside, Option.isSome_some, Bool.true_and, decide_false,
      Bool.false_and, Bool.false_or, Bool.not_true, Bool.or_eq_true] at hl
    rcases hl with h | h
    · exact ⟨fields, .inl rfl, hnothing _ h⟩
    · exact ⟨_, .inr rfl, hnothing _ h⟩

/-- An array is kept with its objects compressed, unless it is empty or the default. -/
theorem kept_arr (t : DefaultTable) (type : String) (hr : roleOf key = .other) (hs : scope.keeps key = true)
    (items : List Json) :
    t.kept type scope key (.arr items) = some (.arr (items.map (Json.mapObject (t.itemFields type key)))) ∨
      t.kept type scope key (.arr items) = none ∧
        (items = [] ∨ ∃ d ∈ t.defaultsOf key, Json.sameValue d (.arr items) = true) := by
  rw [kept_eq]
  cases hl : t.leavesOut type scope key (.arr items) with
  | false => exact .inl (by simp [keptForm, opens, hr, inside])
  | true =>
    refine .inr ⟨rfl, ?_⟩
    simp only [leavesOut, hr, hs, Json.isNull, isNoOverlay, Json.fields?, Option.isSome_none, Bool.and_false, Bool.false_and,
      Bool.false_or, Bool.or_false, Bool.not_true, addsNothing, Bool.or_eq_true] at hl
    rcases hl with he | hdef
    · exact .inl (List.isEmpty_iff.1 he)
    · exact .inr (exists_default hdef)

/-- What is neither an object nor an array does not become one. -/
theorem fields?_kept (h : v.fields? = none) : (t.kept type scope key v).bind Json.fields? = none := by
  rw [kept_eq]
  split
  · rfl
  · rcases keptForm_cases t type key v with he | ⟨fields, rfl, -, -⟩ | ⟨items, rfl, he⟩
    · rw [he]
      exact h
    · nomatch h
    · rw [he]
      rfl

theorem items?_kept (h : v.items? = none) : (t.kept type scope key v).bind Json.items? = none := by
  rw [kept_eq]
  split
  · rfl
  · rcases keptForm_cases t type key v with he | ⟨fields, rfl, -, he⟩ | ⟨items, rfl, -⟩
    · rw [he]
      exact h
    · rw [he]
      rfl
    · nomatch h

/-- What is read of a field without default is read of what is left of an object. -/
theorem read_lookup_compressFields (t : DefaultTable) (type : String) (scope : GridScope) (key : String) {α : Type}
    {p : Json → Option α} (hp : ∀ v : Json, v.isScalar = false → p v = none) {fields : Fields} (hd : fields.names.Nodup)
    (hs : scope.keeps key = true)
    (hr : roleOf key = .critical ∨ roleOf key = .other ∧ t.defaultsOf key = []) :
    ((t.compressFields type scope fields).lookup key).bind p = (fields.lookup key).bind p := by
  rw [lookup_compressFields hd]
  cases fields.lookup key with
  | none => rfl
  | some v =>
    rcases hr with hr | ⟨hr, hnone⟩
    · exact read_kept_of_critical hp hr hs v
    · rcases read_kept hp t type hr hs v with he | ⟨-, d, hm, -⟩
      · exact he
      · simp [hnone] at hm

end DefaultTable

end SceneMarkup
