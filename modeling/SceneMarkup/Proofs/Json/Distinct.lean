import SceneMarkup.Json.Reader
import SceneMarkup.Proofs.Json.Fields

/-!
# Objects whose names are distinct

Reading a text leaves no name twice in an object (`Json.distinct_read?`).
-/

namespace SceneMarkup

namespace Json

/-- Every item of an array is distinct if the array is. -/
theorem distinctItems_iff {items : List Json} : DistinctItems items ↔ ∀ v ∈ items, v.Distinct := by
  induction items with
  | nil => simp [DistinctItems]
  | cons v rest ih => simp [DistinctItems, ih]

/-- The values of all fields of an object are distinct if the object is. -/
theorem distinctFields_iff {fields : Fields} : DistinctFields fields ↔ ∀ p ∈ fields, p.2.Distinct := by
  induction fields with
  | nil => simp [DistinctFields]
  | cons p rest ih => simp [DistinctFields, ih]

/-- An object without repeated names. -/
theorem distinct_obj {fields : Fields} :
    (Json.obj fields).Distinct ↔ fields.names.Nodup ∧ ∀ p ∈ fields, p.2.Distinct := by
  rw [Distinct, distinctFields_iff]

/-- An array of values without repeated names. -/
theorem distinct_arr {items : List Json} : (Json.arr items).Distinct ↔ ∀ v ∈ items, v.Distinct := by
  rw [Distinct, distinctItems_iff]

mutual
/-- Whether names are distinct is decided part by part. -/
def decideDistinct : (v : Json) → Decidable v.Distinct
  | .arr items => @decidable_of_iff _ _ (by rw [Distinct]) (decideDistinctItems items)
  | .obj fields =>
    have := decideDistinctFields fields
    decidable_of_iff ((fields.map Prod.fst).Nodup ∧ DistinctFields fields) (by rw [Distinct])
  | .null | .bool _ | .num _ | .str _ => .isTrue (by simp [Distinct])

/-- `decideDistinct` of every item. -/
def decideDistinctItems : (items : List Json) → Decidable (DistinctItems items)
  | [] => .isTrue (by simp [DistinctItems])
  | v :: rest =>
    have := decideDistinct v
    have := decideDistinctItems rest
    decidable_of_iff (v.Distinct ∧ DistinctItems rest) (by rw [DistinctItems])

/-- `decideDistinct` of every field's value. -/
def decideDistinctFields : (fields : List (String × Json)) → Decidable (DistinctFields fields)
  | [] => .isTrue (by simp [DistinctFields])
  | (_, v) :: rest =>
    have := decideDistinct v
    have := decideDistinctFields rest
    decidable_of_iff (v.Distinct ∧ DistinctFields rest) (by rw [DistinctFields])
end

instance (v : Json) : Decidable v.Distinct := decideDistinct v

/-- Setting a field to a distinct value keeps an object distinct. -/
theorem distinct_put {name : String} {v : Json} {fields : Fields} (hf : (Json.obj fields).Distinct) (hv : v.Distinct) :
    (Json.obj (Named.put name v fields)).Distinct := by
  rw [distinct_obj] at hf ⊢
  refine ⟨Named.nodup_put hf.1, ?_⟩
  have hall := hf.2
  clear hf
  induction fields with
  | nil => simpa [Named.put] using hv
  | cons p rest ih =>
    obtain ⟨n, w⟩ := p
    by_cases hn : n = name
    · simp only [Named.put, if_pos hn, List.forall_mem_cons] at hall ⊢
      exact ⟨hv, hall.2⟩
    · simp only [Named.put, if_neg hn, List.forall_mem_cons] at hall ⊢
      exact ⟨hall.1, ih hall.2⟩

mutual
/-- In a settled value every name stands once. -/
theorem distinct_settle : (v : Json) → v.settle.Distinct
  | .null | .bool _ | .num _ | .str _ => by simp [settle, Distinct]
  | .arr items => by
    rw [settle, Distinct]
    exact distinct_settleItems items
  | .obj fields => by
    rw [settle]
    exact distinct_settleFields fields (by simp [distinct_obj])

theorem distinct_settleItems : (items : List Json) → DistinctItems (settleItems items)
  | [] => by simp [settleItems, DistinctItems]
  | v :: rest => by
    rw [settleItems, DistinctItems]
    exact ⟨distinct_settle v, distinct_settleItems rest⟩

theorem distinct_settleFields : (fields : List (String × Json)) → {done : Fields} → (Json.obj done).Distinct →
    (Json.obj (settleFields done fields)).Distinct
  | [], _, h => by rwa [settleFields]
  | (name, v) :: rest, _, h => by
    rw [settleFields]
    exact distinct_settleFields rest (distinct_put h (distinct_settle v))
end

/-- A value that is read from a text has no name twice in an object. -/
theorem distinct_read? {text : String} {v : Json} (h : read? text = some v) : v.Distinct := by
  obtain ⟨raw, _, rfl⟩ := Option.map_eq_some_iff.1 h
  exact distinct_settle raw

end Json

end SceneMarkup
