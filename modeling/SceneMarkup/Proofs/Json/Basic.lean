import SceneMarkup.Json.Decode

/-!
# JSON values by their parts

Every property of JSON values is proved by the parts of a value (`Json.byParts`). A scalar has none; truth values, numbers
and texts are read of scalars alone.
-/

namespace SceneMarkup

namespace Json

/-- A truth value, a number or a text. -/
def isScalar : Json → Bool
  | .bool _ | .num _ | .str _ => true
  | _ => false

/-- A scalar as it is. -/
def scalar? (v : Json) : Option Json :=
  if v.isScalar then some v else none

/-- Only a scalar has a truth value. -/
theorem bool?_of_not_isScalar (v : Json) (h : v.isScalar = false) : v.bool? = none := by
  cases v <;> first | rfl | nomatch h

/-- Only a scalar has a number. -/
theorem number?_of_not_isScalar (v : Json) (h : v.isScalar = false) : v.number? = none := by
  cases v <;> first | rfl | nomatch h

/-- Only a scalar has a text. -/
theorem string?_of_not_isScalar (v : Json) (h : v.isScalar = false) : v.string? = none := by
  cases v <;> first | rfl | nomatch h

/-- Only a scalar is read as one. -/
theorem scalar?_of_not_isScalar (v : Json) (h : v.isScalar = false) : v.scalar? = none := by
  simp [scalar?, h]

/-- The value in which an object has other fields. -/
def mapObject (f : Fields → Fields) : Json → Json
  | .obj fields => .obj (f fields)
  | v => v

/-- What has fields is an object. -/
theorem eq_obj_of_fields? {v : Json} {fields : Fields} (h : v.fields? = some fields) : v = .obj fields := by
  cases v with
  | obj fs => exact congrArg obj (Option.some.inj h)
  | _ => nomatch h

/-- What has items is an array. -/
theorem eq_arr_of_items? {v : Json} {items : List Json} (h : v.items? = some items) : v = .arr items := by
  cases v with
  | arr is => exact congrArg arr (Option.some.inj h)
  | _ => nomatch h

/-- Only null is null. -/
theorem eq_null_of_isNull {v : Json} (h : v.isNull = true) : v = .null := by
  cases v <;> first | rfl | nomatch h

/-- Only an object becomes an object. -/
theorem fields?_mapObject (f : Fields → Fields) (v : Json) : (v.mapObject f).fields? = v.fields?.map f := by
  cases v <;> rfl

/-- What holds of an array because it holds of its items, and of an object because it holds of the values of its fields,
holds of every value. -/
theorem byParts {P : Json → Prop} (leaf : ∀ v : Json, v.items? = none → v.fields? = none → P v)
    (arr : ∀ items, (∀ v ∈ items, P v) → P (.arr items))
    (obj : ∀ fields : Fields, (∀ p ∈ fields, P p.2) → P (.obj fields)) (v : Json) : P v :=
  @Json.rec P (fun items => ∀ v ∈ items, P v) (fun fields => ∀ p ∈ fields, P p.2) (fun p => P p.2)
    (leaf _ rfl rfl) (fun _ => leaf _ rfl rfl) (fun _ => leaf _ rfl rfl) (fun _ => leaf _ rfl rfl) arr obj
    (by simp) (fun _ _ hv hrest => List.forall_mem_cons.2 ⟨hv, hrest⟩)
    (by simp) (fun _ _ hp hrest => List.forall_mem_cons.2 ⟨hp, hrest⟩)
    (fun _ _ hv => hv) v

mutual
/-- The objects in a value, at every depth. -/
def objects : Json → List Fields
  | .arr items => objectsOfItems items
  | .obj fields => fields :: objectsOfFields fields
  | _ => []

/-- The objects in the items of an array. -/
def objectsOfItems : List Json → List Fields
  | [] => []
  | v :: rest => v.objects ++ objectsOfItems rest

/-- The objects in the values of fields. -/
def objectsOfFields : List (String × Json) → List Fields
  | [] => []
  | (_, v) :: rest => v.objects ++ objectsOfFields rest
end

/-- The objects in the items of an array are those in each of them. -/
theorem mem_objects_arr {items : List Json} {o : Fields} : o ∈ (Json.arr items).objects ↔ ∃ v ∈ items, o ∈ v.objects := by
  rw [objects]
  induction items with
  | nil => simp [objectsOfItems]
  | cons v rest ih => simp [objectsOfItems, ih]

/-- The objects in an object are itself and those in the values of its fields. -/
theorem mem_objects_obj {fields o : Fields} :
    o ∈ (Json.obj fields).objects ↔ o = fields ∨ ∃ p ∈ fields, o ∈ p.2.objects := by
  rw [objects, List.mem_cons]
  refine or_congr_right ?_
  induction fields with
  | nil => simp [objectsOfFields]
  | cons p rest ih => simp [objectsOfFields, ih]

end Json

end SceneMarkup
