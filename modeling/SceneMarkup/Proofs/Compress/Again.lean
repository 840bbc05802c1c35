import SceneMarkup.Proofs.Compress.Kept
import SceneMarkup.Proofs.Compress.Paint

/-!
# Compressing an attribute map again

A second compression takes out an overlay background of which the first one left nothing but that there is none, and
changes nothing else (`kept_again_iff`), as long as no default is an array with objects in it. So an attribute map stays as
it is exactly if it has no such overlay at any depth that compression goes to (`compressFields_again_iff`).
-/

namespace SceneMarkup

namespace DefaultTable

variable {t : DefaultTable} {type key : String} {scope : GridScope} {v w : Json}

/-- No default that is an array has an object among its items. -/
def arraysAreFlat (t : DefaultTable) : Bool :=
  t.sections.all fun s => (s.2.fields?.getD []).all fun p => (p.2.items?.getD []).all fun item => item.fields?.isNone

/-- No item of a default is an object. -/
theorem fields?_of_mem_default (h : t.arraysAreFlat = true) {items : List Json} (hd : .arr items ∈ t.defaultsOf key)
    {item : Json} (hi : item ∈ items) : item.fields? = none := by
  obtain ⟨s, hs, hl⟩ := List.mem_filterMap.1 hd
  obtain ⟨fields, hf, hl⟩ := Option.bind_eq_some_iff.1 hl
  simp only [arraysAreFlat, List.all_eq_true] at h
  have := h s hs (key, .arr items) (by simpa [hf] using Named.mem_of_lookup hl) item (by simpa [Json.items?] using hi)
  simpa using this

/-- Items that become equal to what is no object are no objects. -/
theorem map_mapObject_eq_self {f : Fields → Fields} {ds items : List Json} (hflat : ∀ d ∈ ds, d.fields? = none)
    (h : List.Forall₂ (fun x y => Json.sameValue x y = true) ds (items.map (Json.mapObject f))) :
    items.map (Json.mapObject f) = items := by
  induction items generalizing ds with
  | nil => rfl
  | cons item rest ih =>
    cases h with
    | cons hx hrest =>
      rw [List.forall_mem_cons] at hflat
      have hnone : (item.mapObject f).fields? = none := by simpa [hflat.1] using (Json.sameValue_fields? hx).symm
      have hself : item.mapObject f = item := by
        cases item with
        | obj fields => nomatch hnone
        | _ => rfl
      rw [List.map_cons, hself, ih hflat.2 hrest]

/-- Where defaults have no objects in arrays, an array does not become a default. -/
theorem isDefault_of_mapObject (h : t.arraysAreFlat = true) {items : List Json} {f : Fields → Fields}
    (hd : t.isDefault type key (.arr (items.map (Json.mapObject f))) = true) :
    t.isDefault type key (.arr items) = true := by
  obtain ⟨d, hm, hs⟩ := exists_default hd
  obtain ⟨ds, rfl, hall⟩ := Json.sameValue_arr hs
  rwa [map_mapObject_eq_self (fun x hx => fields?_of_mem_default h hm hx) hall] at hd

/-- Compression goes into the objects among the other attributes. -/
theorem opens_of_fields? {fields : Fields} (hr : roleOf key = .other) (hf : v.fields? = some fields) :
    opens key v = true := by
  cases v <;> simp_all [opens, Json.fields?]

/-- What is kept adds something to its attribute. -/
theorem addsNothing_keptForm (h : t.arraysAreFlat = true) (hr : roleOf key = .other)
    (hl : t.leavesOut type scope key v = false) : t.addsNothing type key (t.keptForm type key v) = false := by
  simp only [leavesOut, hr, Bool.or_eq_false_iff] at hl
  rcases keptForm_cases t type key v with he | ⟨fields, rfl, -, he⟩ | ⟨items, rfl, he⟩
  · rw [he]
    exact hl.2.1.2
  · rw [he]
    simpa [Json.fields?, inside] using hl.2.2
  · rw [he]
    have hv := hl.2.1.2
    simp only [addsNothing, Bool.or_eq_false_iff] at hv ⊢
    refine ⟨by simpa [Json.isEmptyCollection] using hv.1, ?_⟩
    cases hd : t.isDefault type key (.arr (items.map (Json.mapObject (t.itemFields type key)))) with
    | false => rfl
    | true => exact absurd (isDefault_of_mapObject h hd) (by simp [hv.2])

/-- A transform is kept as it is. -/
theorem keptForm_of_transform (hr : roleOf key = .transform) : t.keptForm type key v = v := by
  have hc : key ≠ "children" := by
    rintro rfl
    exact absurd hr (by decide)
  cases v <;> simp [keptForm, opens, hr, hc]

/-- What is kept of an attribute is left out the next time only if it is the overlay of no background. -/
theorem leavesOut_keptForm (h : t.arraysAreFlat = true) (hl : t.leavesOut type scope key v = false)
    (hin : opens key v = true → t.inside type key (t.keptForm type key v) = t.keptForm type key v) :
    t.leavesOut type scope key (t.keptForm type key v) =
      (key = "overlayBackground" && isNoOverlay (t.keptForm type key v)) := by
  have hnull : (t.keptForm type key v).isNull = v.isNull := by
    rcases keptForm_cases t type key v with he | ⟨fields, rfl, -, he⟩ | ⟨items, rfl, he⟩ <;> rw [he] <;> rfl
  have hl' := hl
  simp only [leavesOut, Bool.or_eq_false_iff] at hl'
  cases hr : roleOf key with
  | dropped => simp [hr] at hl'
  | transform =>
    have ho : key ≠ "overlayBackground" := by
      rintro rfl
      exact absurd hr (by decide)
    rw [keptForm_of_transform hr, hl]
    simp [ho]
  | critical =>
    have ho : key ≠ "overlayBackground" := by
      rintro rfl
      exact absurd hr (by decide)
    simp [leavesOut, hnull, hl'.1, hr, ho]
  | other =>
    have hadd := addsNothing_keptForm h hr hl
    have hobj : ((t.keptForm type key v).fields?.isSome &&
        t.addsNothing type key (t.inside type key (t.keptForm type key v))) = false := by
      cases hf : (t.keptForm type key v).fields? with
      | none => rfl
      | some fields =>
        rw [hin (by rw [← opens_keptForm t type, opens_of_fields? hr hf]), hadd]
        rfl
    simp [leavesOut, hnull, hl'.1, hr, hadd, hobj]

/-- What is kept of an attribute is kept again in the same form unless it is the overlay of no background, or what it
contains changes. -/
theorem kept_again_iff (h : t.arraysAreFlat = true) (hk : t.kept type scope key v = some w) :
    t.kept type scope key w = some w ↔
      ¬(key = "overlayBackground" ∧ isNoOverlay w = true) ∧ (opens key v = true → t.inside type key w = w) := by
  obtain ⟨hl, rfl⟩ := kept_eq_some_iff.1 hk
  have hform : t.keptForm type key (t.keptForm type key v) = t.keptForm type key v ↔
      (opens key v = true → t.inside type key (t.keptForm type key v) = t.keptForm type key v) := by
    rw [keptForm.eq_def t type key (t.keptForm type key v), opens_keptForm]
    split <;> simp [*]
  rw [kept_eq_some_iff, hform]
  refine and_congr_left fun hin => ?_
  rw [leavesOut_keptForm h hl hin]
  simp

/-! ## At every depth -/

mutual
/-- Compression leaves, at some depth, an overlay background that says nothing but that there is none. -/
def leavesBareOverlay (t : DefaultTable) (type : String) (scope : GridScope) : List (String × Json) → Bool
  | [] => false
  | (key, v) :: rest =>
    (match t.kept type scope key v with
      | some w => (key = "overlayBackground" && isNoOverlay w) || (opens key v && leavesBareOverlayIn t type key v)
      | none => false) || leavesBareOverlay t type scope rest

/-- `leavesBareOverlay` in the value of an attribute. -/
def leavesBareOverlayIn (t : DefaultTable) (type key : String) : Json → Bool
  | .obj fields => leavesBareOverlay t type .outside fields
  | .arr items => !paintLists.contains key && leavesBareOverlayItems t type items
  | _ => false

/-- `leavesBareOverlay` of an object in an array. -/
def leavesBareOverlayItems (t : DefaultTable) (type : String) : List Json → Bool
  | [] => false
  | .obj fields :: rest => leavesBareOverlay t type .outside fields || leavesBareOverlayItems t type rest
  | _ :: rest => leavesBareOverlayItems t type rest
end

/-- No attribute leaves a bare overlay. -/
theorem leavesBareOverlay_eq_false_iff {fields : Fields} :
    t.leavesBareOverlay type scope fields = false ↔
      ∀ p ∈ fields, ∀ w, t.kept type scope p.1 p.2 = some w →
        ¬(p.1 = "overlayBackground" ∧ isNoOverlay w = true) ∧
          (opens p.1 p.2 = true → t.leavesBareOverlayIn type p.1 p.2 = false) := by
  induction fields with
  | nil => simp [leavesBareOverlay]
  | cons p rest ih =>
    obtain ⟨key, v⟩ := p
    rw [leavesBareOverlay, Bool.or_eq_false_iff, ih, List.forall_mem_cons]
    refine and_congr_left fun _ => ?_
    cases hk : t.kept type scope key v with
    | none => simp
    | some w => cases opens key v <;> simp

/-- No object in an array leaves a bare overlay. -/
theorem leavesBareOverlayItems_eq_false_iff {items : List Json} :
    t.leavesBareOverlayItems type items = false ↔
      ∀ fields, .obj fields ∈ items → t.leavesBareOverlay type .outside fields = false := by
  induction items with
  | nil => simp [leavesBareOverlayItems]
  | cons item rest ih => cases item <;> simp [leavesBareOverlayItems, ih]

/-- An attribute map stays as it is exactly if no bare overlay is left in it, provided that this holds in its values. -/
theorem compressFields_again_iff_of (h : t.arraysAreFlat = true) {fields : Fields}
    (hin : ∀ p ∈ fields, ∀ key, t.inside type key (t.inside type key p.2) = t.inside type key p.2 ↔
      t.leavesBareOverlayIn type key p.2 = false) (scope : GridScope) :
    t.compressFields type scope (t.compressFields type scope fields) = t.compressFields type scope fields ↔
      t.leavesBareOverlay type scope fields = false := by
  rw [compressFields_eq_keep, Fields.keep_eq_self_iff, leavesBareOverlay_eq_false_iff, compressFields_eq_keep]
  have hone : ∀ p ∈ fields, ∀ w, t.kept type scope p.1 p.2 = some w →
      (t.kept type scope p.1 w = some w ↔ ¬(p.1 = "overlayBackground" ∧ isNoOverlay w = true) ∧
        (opens p.1 p.2 = true → t.leavesBareOverlayIn type p.1 p.2 = false)) := by
    intro p hp w hk
    rw [kept_again_iff h hk]
    refine and_congr_right fun _ => forall_congr' fun ho => ?_
    obtain ⟨-, rfl⟩ := kept_eq_some_iff.1 hk
    rw [keptForm, if_pos ho, hin p hp]
  constructor
  · intro hall p hp w hk
    exact (hone p hp w hk).1 (hall (p.1, w) (Fields.mem_keep.2 ⟨p.2, hp, hk⟩))
  · rintro hall ⟨key, w⟩ hq
    obtain ⟨v, hp, hk⟩ := Fields.mem_keep.1 hq
    exact (hone (key, v) hp w hk).2 (hall (key, v) hp w hk)

/-- The contents of a value stay as they are exactly if no bare overlay is left in them. -/
theorem inside_again_iff (h : t.arraysAreFlat = true) (v : Json) :
    ∀ key, t.inside type key (t.inside type key v) = t.inside type key v ↔
      t.leavesBareOverlayIn type key v = false := by
  induction v using Json.byParts with
  | leaf v ha ho =>
    intro key
    rw [inside_eq_self ha ho, inside_eq_self ha ho]
    cases v with
    | arr items => nomatch ha
    | obj fields => nomatch ho
    | _ => simp [leavesBareOverlayIn]
  | arr items ih =>
    intro key
    rw [leavesBareOverlayIn, inside, inside, Json.arr.injEq, List.map_map, List.map_inj_left]
    cases hp : paintLists.contains key with
    | true =>
      refine iff_of_true (fun item _ => ?_) rfl
      cases item with
      | obj paint => simp only [itemFields, hp, if_true, Function.comp_apply, Json.mapObject, compressPaint_idem]
      | _ => rfl
    | false =>
      simp only [Bool.not_false, Bool.true_and, leavesBareOverlayItems_eq_false_iff, itemFields, hp]
      constructor
      · intro hall fields hm
        exact (ih _ hm key).1 (hall _ hm)
      · intro hall item hm
        cases item with
        | obj fields => exact (ih _ hm key).2 (hall fields hm)
        | _ => rfl
  | obj fields ih =>
    intro key
    rw [leavesBareOverlayIn, inside, inside, Json.obj.injEq]
    exact compressFields_again_iff_of h ih .outside

/-- An attribute map stays as it is exactly if no bare overlay is left in it. -/
theorem compressFields_again_iff (h : t.arraysAreFlat = true) (type : String) (scope : GridScope) (fields : Fields) :
    t.compressFields type scope (t.compressFields type scope fields) = t.compressFields type scope fields ↔
      t.leavesBareOverlay type scope fields = false :=
  compressFields_again_iff_of h (fun p _ => inside_again_iff h p.2) scope

/-- Only an object becomes an overlay of no background. -/
theorem exists_obj_of_isNoOverlay (h : isNoOverlay (t.keptForm type key v) = true) : ∃ o, v = .obj o := by
  rcases keptForm_cases t type key v with he | ⟨fields, rfl, -, -⟩ | ⟨items, rfl, he⟩
  · rw [he] at h
    cases v with
    | obj o => exact ⟨o, rfl⟩
    | _ => nomatch h
  · exact ⟨fields, rfl⟩
  · rw [he] at h
    nomatch h

/-- An attribute map without an overlay background that is an object leaves no bare one, if its values leave none. -/
theorem leavesBareOverlay_of_no_object {fields : Fields} (ho : ∀ o, ("overlayBackground", .obj o) ∉ fields)
    (hin : ∀ p ∈ fields, ∀ key, t.leavesBareOverlayIn type key p.2 = false) :
    t.leavesBareOverlay type scope fields = false := by
  rw [leavesBareOverlay_eq_false_iff]
  rintro ⟨key, v⟩ hp w hk
  refine ⟨?_, fun _ => hin _ hp key⟩
  rintro ⟨rfl, hw⟩
  obtain ⟨-, rfl⟩ := kept_eq_some_iff.1 hk
  obtain ⟨o, rfl⟩ := exists_obj_of_isNoOverlay hw
  exact ho o hp

/-- A value without an overlay background that is an object leaves no bare one. -/
theorem leavesBareOverlayIn_of_no_object (v : Json)
    (ho : ∀ fields ∈ v.objects, ∀ o, ("overlayBackground", .obj o) ∉ fields) : ∀ key, t.leavesBareOverlayIn type key v = false := by
  induction v using Json.byParts with
  | leaf v ha hf =>
    intro key
    cases v with
    | arr items => nomatch ha
    | obj fields => nomatch hf
    | _ => simp [leavesBareOverlayIn]
  | arr items ih =>
    intro key
    rw [leavesBareOverlayIn, Bool.and_eq_false_iff, leavesBareOverlayItems_eq_false_iff]
    refine .inr fun fields hm => ?_
    have hitem := ih _ hm (fun o h => ho o (Json.mem_objects_arr.2 ⟨_, hm, h⟩)) key
    rwa [leavesBareOverlayIn] at hitem
  | obj fields ih =>
    intro key
    rw [leavesBareOverlayIn]
    refine leavesBareOverlay_of_no_object (ho fields (Json.mem_objects_obj.2 (.inl rfl))) fun p hp => ?_
    exact ih p hp fun o h => ho o (Json.mem_objects_obj.2 (.inr ⟨p, hp, h⟩))

end DefaultTable

end SceneMarkup
