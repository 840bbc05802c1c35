import Mathlib.Data.List.Forall2
import SceneMarkup.Proofs.Convert.Document

/-!
# The shape of input documents

What an input value is decoded into, or else which error it gives, is decided by its first part that is wrong: the list of
trees is missing, then the table is none, then a tree is none (`InputDocument.decides_ofJson`). So an input is accepted
exactly if it has the shape of one, and the kind of the error tells a bad table from everything else that can be wrong
(`InputDocument.value_ofJson_iff_hasShape`).
-/

namespace SceneMarkup

/-! ## Tables and lists of trees -/

/-- All of the values are objects. -/
def Json.AreObjects (items : List Json) : Prop :=
  ∀ v ∈ items, v.fields?.isSome = true

/-- The value is an object of objects. -/
def Json.IsTable (v : Json) : Prop :=
  ∃ sections, v = .obj sections ∧ ∀ s ∈ sections, s.2.fields?.isSome = true

open Json (AreObjects IsTable)

/-- An object of objects is decoded into the table that it is the form of, and nothing else is decoded. -/
theorem DefaultTable.ofJson_cases (v : Json) :
    (IsTable v ∧ ∃ t, DefaultTable.ofJson v = .ok t ∧ t.toJson = v) ∨ (¬IsTable v ∧ ∃ e, DefaultTable.ofJson v = .error e) := by
  cases h : DefaultTable.ofJson v with
  | ok t =>
    obtain ⟨rfl, hsections⟩ := ofJson_eq_ok_iff.1 h
    exact .inl ⟨⟨t.sections, rfl, hsections⟩, t, rfl, rfl⟩
  | error e =>
    refine .inr ⟨?_, e, rfl⟩
    rintro ⟨sections, rfl, hsections⟩
    cases h.symm.trans (ofJson_toJson (t := ⟨sections⟩) hsections)

namespace SceneNode

/-- The values are decoded into the nodes, one by one. -/
def DecodeTo (items : List Json) (trees : List SceneNode) : Prop :=
  List.Forall₂ (fun v n => (ofJson v).run.value = .ok n) items trees

/-- An object is decoded, and nothing else is. -/
theorem value_ofJson_cases (v : Json) :
    (v.fields?.isSome = true ∧ ∃ n, (ofJson v).run.value = .ok n) ∨
      (v.fields?.isSome = false ∧ (ofJson v).run.value = .error notObject) := by
  cases v with
  | obj fields => exact .inl ⟨rfl, _, value_ofJson_eq_ok_iff.2 (value_decode_obj fields)⟩
  | _ => exact .inr ⟨rfl, rfl⟩

/-- A list of objects is decoded item by item, and no other list is decoded. -/
theorem value_ofJsons_cases (items : List Json) :
    (AreObjects items ∧ ∃ trees, (ofJsons items).run.value = .ok trees ∧ DecodeTo items trees) ∨
      (¬AreObjects items ∧ (ofJsons items).run.value = .error notObject) := by
  induction items with
  | nil => exact .inl ⟨by simp [AreObjects], [], rfl, .nil⟩
  | cons v rest ih =>
    simp only [AreObjects, List.forall_mem_cons]
    rw [ofJsons]
    rcases value_ofJson_cases v with ⟨hv, n, hn⟩ | ⟨hv, hn⟩
    · rw [Outcome.value_bind_of_ok hn]
      rcases ih with ⟨hrest, trees, htrees, hdecode⟩ | ⟨hrest, herror⟩
      · exact .inl ⟨⟨hv, hrest⟩, n :: trees, Outcome.value_bind_of_ok htrees, .cons hn hdecode⟩
      · exact .inr ⟨fun h => hrest h.2, Outcome.value_bind_of_error herror⟩
    · exact .inr ⟨fun h => by simp [hv] at h, Outcome.value_bind_of_error hn⟩

end SceneNode

/-! ## Documents -/

namespace InputDocument

open SceneNode (DecodeTo)

/-- What becomes of a value, by the first of its parts that is wrong. -/
inductive Decides : Json → Except SceneError InputDocument → Prop where
  | list {items : List Json} {trees : List SceneNode} :
      AreObjects items → DecodeTo items trees → Decides (.arr items) (.ok ⟨trees, none⟩)
  | badItem {items : List Json} : ¬AreObjects items → Decides (.arr items) (.error SceneNode.notObject)
  | document {fields : Fields} {items : List Json} {trees : List SceneNode} {defaults? : Option DefaultTable} :
      fields.lookup "compressed_data" = some (.arr items) → (∀ v, fields.lookup "defaults" = some v → IsTable v) →
        defaults?.map DefaultTable.toJson = fields.lookup "defaults" → AreObjects items → DecodeTo items trees →
          Decides (.obj fields) (.ok ⟨trees, defaults?⟩)
  | noList {fields : Fields} : (∀ items, fields.lookup "compressed_data" ≠ some (.arr items)) →
      Decides (.obj fields) (.error (.validation "input object has no 'compressed_data' array"))
  | badTable {fields : Fields} {items : List Json} {v : Json} (e : DefaultTableError) :
      fields.lookup "compressed_data" = some (.arr items) → fields.lookup "defaults" = some v → ¬IsTable v →
        Decides (.obj fields) (.error (e.of "defaults"))
  | badTree {fields : Fields} {items : List Json} :
      fields.lookup "compressed_data" = some (.arr items) → (∀ v, fields.lookup "defaults" = some v → IsTable v) →
        ¬AreObjects items → Decides (.obj fields) (.error SceneNode.notObject)
  | other {v : Json} : v.items? = none → v.fields? = none →
      Decides v (.error (.validation ("expected an array of nodes or a compressed document, got " ++ kindName v)))

/-- The table that a document carries is its own form. -/
theorem carriedTable_cases (fields : Fields) :
    ((∀ v, fields.lookup "defaults" = some v → IsTable v) ∧
        ∃ defaults?, carriedTable fields = .ok defaults? ∧ defaults?.map DefaultTable.toJson = fields.lookup "defaults") ∨
      ∃ v e, fields.lookup "defaults" = some v ∧ ¬IsTable v ∧
        carriedTable fields = .error (DefaultTableError.of "defaults" e) := by
  unfold carriedTable
  cases hl : fields.lookup "defaults" with
  | none => exact .inl ⟨fun v hv => (nomatch hv), none, rfl, rfl⟩
  | some v =>
    rcases DefaultTable.ofJson_cases v with ⟨hv, t, ht, hform⟩ | ⟨hv, e, he⟩
    · refine .inl ⟨?_, some t, ?_, congrArg some hform⟩
      · rintro w ⟨⟩
        exact hv
      · simp only [ht]
        rfl
    · refine .inr ⟨v, e, rfl, hv, ?_⟩
      simp only [he]
      rfl

/-- An object without a list of trees is no document. -/
theorem value_ofJson_of_noList {fields : Fields} (h : ∀ items, fields.lookup "compressed_data" ≠ some (.arr items)) :
    (ofJson (.obj fields)).run.value = .error (.validation "input object has no 'compressed_data' array") := by
  rw [ofJson]
  split
  · exact absurd ‹_› (h _)
  · rfl

/-- Of an object with a list of trees, the table is decoded before the trees. -/
theorem ofJson_of_list {fields : Fields} {items : List Json} (h : fields.lookup "compressed_data" = some (.arr items)) :
    ofJson (.obj fields) =
      (carriedTable fields : Outcome (Option DefaultTable)) >>= fun defaults? =>
        SceneNode.ofJsons items >>= fun trees => pure ⟨trees, defaults?⟩ := by
  rw [ofJson, h]

/-- Every value is decoded as its parts decide. -/
theorem decides_ofJson (v : Json) : Decides v (ofJson v).run.value := by
  cases v with
  | arr items =>
    rcases SceneNode.value_ofJsons_cases items with ⟨hitems, trees, htrees, hdecode⟩ | ⟨hitems, herror⟩
    · rw [ofJson, Outcome.value_bind_of_ok htrees]
      exact .list hitems hdecode
    · rw [ofJson, Outcome.value_bind_of_error herror]
      exact .badItem hitems
  | obj fields =>
    by_cases hdata : ∃ items, fields.lookup "compressed_data" = some (.arr items)
    · obtain ⟨items, hdata⟩ := hdata
      have hlift : ∀ {x : Except SceneError (Option DefaultTable)}, (liftM x : Outcome (Option DefaultTable)).run.value = x :=
        fun {x} => by cases x <;> rfl
      rw [ofJson_of_list hdata]
      rcases carriedTable_cases fields with ⟨htable, defaults?, hcarried, hform⟩ | ⟨v, e, hv, htable, hcarried⟩
      · rw [Outcome.value_bind_of_ok (hlift.trans hcarried)]
        rcases SceneNode.value_ofJsons_cases items with ⟨hitems, trees, htrees, hdecode⟩ | ⟨hitems, herror⟩
        · rw [Outcome.value_bind_of_ok htrees]
          exact .document hdata htable hform hitems hdecode
        · rw [Outcome.value_bind_of_error herror]
          exact .badTree hdata htable hitems
      · rw [Outcome.value_bind_of_error (hlift.trans hcarried)]
        exact .badTable e hdata hv htable
    · rw [value_ofJson_of_noList (not_exists.1 hdata)]
      exact .noList (not_exists.1 hdata)
  | _ => exact .other rfl rfl

/-- The value has the shape of an input: a list of objects, or an object with such a list that carries no table or one of
objects. -/
inductive HasShape : Json → Prop where
  | list {items : List Json} : AreObjects items → HasShape (.arr items)
  | document {fields : Fields} {items : List Json} : fields.lookup "compressed_data" = some (.arr items) →
      AreObjects items → (∀ v, fields.lookup "defaults" = some v → IsTable v) → HasShape (.obj fields)

/-- The value has a list of trees, whatever its items are, and carries what is no table. -/
def HasBadTable (v : Json) : Prop :=
  ∃ items table, v.field? "compressed_data" = some (.arr items) ∧ v.field? "defaults" = some table ∧ ¬IsTable table

/-- The trees of an input are decoded from the items of its list one by one, and its table is the form that the value carries. -/
structure ReadFrom (v : Json) (input : InputDocument) : Prop where
  trees : ∃ items, (v = .arr items ∨ v.field? "compressed_data" = some (.arr items)) ∧ SceneNode.DecodeTo items input.trees
  defaults : input.defaults?.map DefaultTable.toJson = v.field? "defaults"

/-- What has the shape of an input has a good table, if any. -/
theorem HasShape.not_hasBadTable {v : Json} (h : HasShape v) : ¬HasBadTable v := by
  rintro ⟨items, table, hdata, hv, hbad⟩
  cases h with
  | list _ => cases hdata
  | document _ _ htable => exact hbad (htable table hv)

/-- What is decoded has the shape of an input and is read from it. -/
theorem Decides.of_ok {v : Json} {input : InputDocument} (h : Decides v (.ok input)) : HasShape v ∧ ReadFrom v input := by
  cases h with
  | list hitems hdecode => exact ⟨.list hitems, ⟨_, .inl rfl, hdecode⟩, rfl⟩
  | document hdata htable hform hitems hdecode =>
    exact ⟨.document hdata hitems htable, ⟨_, .inr hdata, hdecode⟩, hform⟩

/-- What is not decoded has not the shape of an input, and the error tells whether the table is bad. -/
theorem Decides.of_error {v : Json} {err : SceneError} (h : Decides v (.error err)) :
    ¬HasShape v ∧ (HasBadTable v ∧ (∃ reason, err = .config "defaults" reason) ∨
      ¬HasBadTable v ∧ ∃ reason, err = .validation reason) := by
  cases h with
  | badItem hitems =>
    refine ⟨?_, .inr ⟨?_, _, rfl⟩⟩
    · rintro ⟨h⟩
      exact hitems h
    · rintro ⟨items, table, h, -⟩
      cases h
  | @noList fields hnone =>
    refine ⟨?_, .inr ⟨?_, _, rfl⟩⟩
    · rintro (_ | ⟨hdata, -⟩)
      exact hnone _ hdata
    · rintro ⟨items, table, hdata, -⟩
      exact hnone items hdata
  | @badTable fields items v e hdata hv htable =>
    refine ⟨?_, .inl ⟨⟨items, v, hdata, hv, htable⟩, _, rfl⟩⟩
    rintro (_ | ⟨-, -, h⟩)
    exact htable (h v hv)
  | @badTree fields items hdata htable hitems =>
    refine ⟨?_, .inr ⟨?_, _, rfl⟩⟩
    · rintro (_ | ⟨hdata', h, -⟩)
      cases hdata.symm.trans hdata'
      exact hitems h
    · rintro ⟨_, table, -, hv, h⟩
      exact h (htable table hv)
  | other hitems hfields =>
    refine ⟨?_, .inr ⟨?_, _, rfl⟩⟩
    · rintro ⟨⟩
      · cases hitems
      · cases hfields
    · rintro ⟨items, table, h, -⟩
      simp [Json.field?, hfields] at h

/-- A value is decoded exactly if it has the shape of an input. -/
theorem exists_ok_iff_hasShape (v : Json) : (∃ input, (ofJson v).run.value = .ok input) ↔ HasShape v := by
  have h := decides_ofJson v
  cases hr : (ofJson v).run.value with
  | ok input =>
    rw [hr] at h
    exact iff_of_true ⟨input, rfl⟩ h.of_ok.1
  | error err =>
    rw [hr] at h
    refine iff_of_false ?_ h.of_error.1
    rintro ⟨input, hinput⟩
    cases hinput

/-- What a value is decoded into is read from it. -/
theorem readFrom_of_ok {v : Json} {input : InputDocument} (hr : (ofJson v).run.value = .ok input) : ReadFrom v input := by
  have h := decides_ofJson v
  rw [hr] at h
  exact h.of_ok.2

/-- A bad table, and nothing else, is an error of the configuration. -/
theorem exists_config_iff_hasBadTable (v : Json) :
    (∃ reason, (ofJson v).run.value = .error (.config "defaults" reason)) ↔ HasBadTable v := by
  have h := decides_ofJson v
  constructor
  · rintro ⟨reason, hr⟩
    rw [hr] at h
    obtain ⟨-, ⟨hbad, -⟩ | ⟨-, other, hother⟩⟩ := h.of_error
    · exact hbad
    · cases hother
  · intro hbad
    cases hr : (ofJson v).run.value with
    | ok input =>
      rw [hr] at h
      exact absurd hbad h.of_ok.1.not_hasBadTable
    | error err =>
      rw [hr] at h
      obtain ⟨-, ⟨-, reason, rfl⟩ | ⟨hgood, -⟩⟩ := h.of_error
      · exact ⟨reason, rfl⟩
      · exact absurd hbad hgood

/-- An error that is not about the table tells that the value is invalid. -/
theorem exists_validation_of_error {v : Json} {err : SceneError} (hr : (ofJson v).run.value = .error err)
    (hgood : ¬HasBadTable v) : ∃ reason, err = .validation reason := by
  have h := decides_ofJson v
  rw [hr] at h
  obtain ⟨-, ⟨hbad, -⟩ | ⟨-, hreason⟩⟩ := h.of_error
  · exact absurd hbad hgood
  · exact hreason

/-- A value is decoded exactly if it has the shape of an input, item by item and with the table that it carries. Otherwise an
object without a list of trees is invalid whatever else it holds, a bad table is an error of the configuration whatever the
items are, and everything else is invalid. -/
theorem value_ofJson_iff_hasShape (v : Json) :
    ((∃ input, (ofJson v).run.value = .ok input) ↔ HasShape v) ∧
      (∀ input, (ofJson v).run.value = .ok input → ReadFrom v input) ∧
      ((∃ fields, v = .obj fields) → (∀ items, v.field? "compressed_data" ≠ some (.arr items)) →
        ∃ reason, (ofJson v).run.value = .error (.validation reason)) ∧
      ((∃ reason, (ofJson v).run.value = .error (.config "defaults" reason)) ↔ HasBadTable v) ∧
      (∀ err, (ofJson v).run.value = .error err → ¬HasBadTable v → ∃ reason, err = .validation reason) := by
  refine ⟨exists_ok_iff_hasShape v, fun _ hr => readFrom_of_ok hr, ?_, exists_config_iff_hasBadTable v,
    fun _ hr hgood => exists_validation_of_error hr hgood⟩
  rintro ⟨fields, rfl⟩ hnone
  exact ⟨_, value_ofJson_of_noList hnone⟩

/-- A table that is null is reported, although the list holds what is no object. -/
example : (ofJson (.obj [("defaults", .null), ("compressed_data", .arr [.int 1])])).run.value =
    .error (.config "defaults" "default table must be an object of sections") := by
  rfl

end InputDocument

end SceneMarkup
