import Mathlib.Data.List.Forall2
import SceneMarkup.Json.Equal
import SceneMarkup.Proofs.Decimal.Number
import SceneMarkup.Proofs.Json.Basic
import SceneMarkup.Proofs.Json.Distinct

/-!
# What equality of JSON values says

Values that are equal are of one kind, and their parts are equal (`sameBy_arr`, `sameBy_obj`, `sameValue_str`, …); arrays and
objects are equal exactly if their parts are (`sameBy_arr_iff`, `sameBy_obj_iff`). A value without repeated names is equal to
itself (`sameBy_refl`).
-/

namespace SceneMarkup

namespace Json

variable {sameNumber : JsonNumber → JsonNumber → Bool} {d : Json}

attribute [local simp] sameBy sameItems sameFields sameValue

/-! ## Kinds of values -/

/-- Only an array is equal to an array. -/
theorem sameBy_arr {items : List Json} (h : sameBy sameNumber d (.arr items) = true) :
    ∃ ds, d = .arr ds ∧ List.Forall₂ (fun x y => sameBy sameNumber x y = true) ds items := by
  cases d with
  | arr ds =>
    refine ⟨ds, rfl, ?_⟩
    rw [sameBy] at h
    induction ds generalizing items with
    | nil => cases items <;> simp_all
    | cons x xs ih =>
      cases items with
      | nil => simp at h
      | cons y ys =>
        simp only [sameItems, Bool.and_eq_true] at h
        exact .cons h.1 (ih h.2)
  | _ => simp at h

/-- Only an object with as many fields, among which are those of equal value, is equal to an object. -/
theorem sameBy_obj {fields : Fields} (h : sameBy sameNumber d (.obj fields) = true) :
    ∃ ds : Fields, d = .obj ds ∧ ds.length = fields.length ∧
      ∀ p ∈ ds, ∃ v, fields.lookup p.1 = some v ∧ sameBy sameNumber p.2 v = true := by
  cases d with
  | obj ds =>
    simp only [sameBy, Bool.and_eq_true, beq_iff_eq] at h
    refine ⟨ds, rfl, h.1, ?_⟩
    have hall := h.2
    clear h
    induction ds with
    | nil => simp
    | cons q rest ih =>
      obtain ⟨name, x⟩ := q
      simp only [sameFields, Bool.and_eq_true] at hall
      rintro p (_ | ⟨_, hp⟩)
      · cases hl : fields.lookup name with
        | none => simp [hl] at hall
        | some v =>
          rw [hl] at hall
          exact ⟨v, rfl, hall.1⟩
      · exact ih hall.2 p hp
  | _ => simp at h

/-- Only a truth value is equal to a truth value. -/
theorem sameValue_bool {b : Bool} (h : sameValue d (.bool b) = true) : d = .bool b := by
  cases d <;> simp_all

/-- Only a number of the same value is equal to a number. -/
theorem sameValue_num {n : JsonNumber} (h : sameValue d (.num n) = true) :
    ∃ m, d = .num m ∧ (m.toFloat == n.toFloat) = true := by
  cases d <;> simp_all

/-- Only a text is equal to a text. -/
theorem sameValue_str {s : String} (h : sameValue d (.str s) = true) : d = .str s := by
  cases d <;> simp_all

/-- A text is equal to no other value. -/
theorem eq_of_sameValue_str {s : String} (h : sameValue (.str s) d = true) : d = .str s := by
  cases d <;> simp_all

/-- With numbers compared by value, only an array is equal to an array. -/
theorem sameValue_arr {items : List Json} (h : sameValue d (.arr items) = true) :
    ∃ ds, d = .arr ds ∧ List.Forall₂ (fun x y => sameValue x y = true) ds items :=
  sameBy_arr h

/-- An object is not equal to what is no object. -/
theorem sameValue_fields? {v : Json} (h : sameValue d v = true) : d.fields?.isSome = v.fields?.isSome := by
  cases d <;> cases v <;> simp_all [fields?]

/-- With numbers compared by value, only an object with as many fields, among which are those of equal value, is equal to
an object. -/
theorem sameValue_obj {fields : Fields} (h : sameValue d (.obj fields) = true) :
    ∃ ds : Fields, d = .obj ds ∧ ds.length = fields.length ∧
      ∀ p ∈ ds, ∃ v, fields.lookup p.1 = some v ∧ sameValue p.2 v = true :=
  sameBy_obj h

/-- Only the same value is equal to what is neither array nor object, or both are numbers that are equal. -/
theorem sameBy_leaf {v w : Json} (ha : w.items? = none) (ho : w.fields? = none) (h : sameBy sameNumber v w = true) :
    v = w ∨ ∃ m n, v = .num m ∧ w = .num n ∧ sameNumber m n = true := by
  cases w with
  | arr items => nomatch ha
  | obj fields => nomatch ho
  | num n =>
    cases v with
    | num m => exact .inr ⟨m, n, rfl, rfl, by rwa [sameBy] at h⟩
    | _ => simp at h
  | _ => cases v <;> simp_all

/-! ## Arrays and objects -/

/-- Fields are those of an object if each of its names leads there to an equal value. -/
theorem sameFields_of_lookup {fields others : Fields}
    (h : ∀ p ∈ fields, ∃ w, others.lookup p.1 = some w ∧ sameBy sameNumber p.2 w = true) :
    sameFields sameNumber fields others = true := by
  induction fields with
  | nil => rfl
  | cons p rest ih =>
    rw [List.forall_mem_cons] at h
    obtain ⟨⟨w, hw, hsame⟩, hrest⟩ := h
    simp only [sameFields, hw, hsame, ih hrest, Bool.and_self]

/-- Arrays are equal exactly if their items are, one by one. -/
theorem sameBy_arr_iff {xs ys : List Json} :
    sameBy sameNumber (.arr xs) (.arr ys) = true ↔ List.Forall₂ (fun x y => sameBy sameNumber x y = true) xs ys := by
  constructor
  · intro h
    obtain ⟨ds, he, hall⟩ := sameBy_arr h
    cases he
    exact hall
  · intro h
    rw [sameBy]
    induction h with
    | nil => rfl
    | cons hxy _ ih => rw [sameItems, hxy, ih, Bool.true_and]

/-- Objects are equal exactly if they have equally many fields and each field of the first leads to an equal value in the
second. -/
theorem sameBy_obj_iff {fields others : Fields} :
    sameBy sameNumber (.obj fields) (.obj others) = true ↔
      fields.length = others.length ∧ ∀ p ∈ fields, ∃ w, others.lookup p.1 = some w ∧ sameBy sameNumber p.2 w = true := by
  constructor
  · intro h
    obtain ⟨ds, he, hall⟩ := sameBy_obj h
    cases he
    exact hall
  · rintro ⟨hlen, hall⟩
    rw [sameBy, hlen, beq_self_eq_true, Bool.true_and]
    exact sameFields_of_lookup hall

/-! ## Reflexivity -/

/-- A value without repeated names is equal to itself, if its numbers are. -/
theorem sameBy_refl (hn : ∀ n, sameNumber n n = true) {v : Json} (hd : v.Distinct) : sameBy sameNumber v v = true := by
  induction v using Json.byParts with
  | leaf v ha ho =>
    cases v with
    | null => rfl
    | bool b => exact beq_self_eq_true b
    | num n => exact hn n
    | str s => exact beq_self_eq_true s
    | arr items => nomatch ha
    | obj fields => nomatch ho
  | arr items ih =>
    rw [distinct_arr] at hd
    exact sameBy_arr_iff.2 (List.forall₂_same.2 fun v hv => ih v hv (hd v hv))
  | obj fields ih =>
    rw [distinct_obj] at hd
    refine sameBy_obj_iff.2 ⟨rfl, fun p hp => ⟨p.2, ?_, ih p hp (hd.2 p hp)⟩⟩
    exact (Named.lookup_eq_some_iff hd.1).2 hp

/-- A value without repeated names is equal to itself, with numbers compared by value. -/
theorem sameValue_refl {v : Json} (hd : v.Distinct) : sameValue v v = true :=
  sameBy_refl JsonNumber.toFloat_beq_self hd

end Json

end SceneMarkup
