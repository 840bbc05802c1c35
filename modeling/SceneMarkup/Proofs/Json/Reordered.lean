import Mathlib.Data.List.Forall2
import SceneMarkup.Proofs.Json.Equal

/-!
# Values whose fields stand in another order

Two values are the same up to the order of fields (`Json.Reordered`) if at every depth their objects have the same names, in
whatever order, and under each name values that are again the same up to the order of fields. Without repeated names this
says that every name leads to such values in both objects, or in none (`lookup_reordered`, `reordered_of_lookup`).
-/

namespace SceneMarkup

namespace Json

/-- The values are the same up to the order of the fields of objects, at every depth. -/
inductive Reordered : Json → Json → Prop where
  | leaf {v : Json} (ha : v.items? = none) (ho : v.fields? = none) : Reordered v v
  | arr {xs ys : List Json} (items : List.Forall₂ Reordered xs ys) : Reordered (.arr xs) (.arr ys)
  | obj {fs gs : Fields} (names : fs.names.Perm gs.names)
      (values : ∀ name v w, (name, v) ∈ fs → (name, w) ∈ gs → Reordered v w) : Reordered (.obj fs) (.obj gs)

variable {sameNumber : JsonNumber → JsonNumber → Bool} {v w : Json} {fs gs : Fields}

/-! ## The parts of reordered values -/

/-- What is no object stays none, and an object becomes one with the same names. -/
theorem Reordered.fields? (h : v.Reordered w) :
    Option.Rel (fun fs gs => (Json.obj fs).Reordered (.obj gs)) v.fields? w.fields? := by
  cases h with
  | leaf ha ho =>
    rw [ho]
    exact .none
  | arr items => exact .none
  | obj names values => exact .some (.obj names values)

/-- Only an array becomes an array, and its items keep their order. -/
theorem Reordered.items? (h : v.Reordered w) : Option.Rel (List.Forall₂ Reordered) v.items? w.items? := by
  cases h with
  | leaf ha ho =>
    rw [ha]
    exact .none
  | arr items => exact .some items
  | obj names values => exact .none

theorem Reordered.items?_isNone (h : v.Reordered w) : v.items?.isNone = w.items?.isNone := by
  cases h <;> rfl

/-- Only null becomes null. -/
theorem Reordered.isNull (h : v.Reordered w) : v.isNull = w.isNull := by
  cases h <;> rfl

/-- What is read of scalars is not changed. -/
theorem Reordered.read {α : Type} {p : Json → Option α} (hp : ∀ v : Json, v.isScalar = false → p v = none)
    (h : v.Reordered w) : p v = p w := by
  cases h with
  | leaf ha ho => rfl
  | arr items => rw [hp _ rfl, hp _ rfl]
  | obj names values => rw [hp _ rfl, hp _ rfl]

/-- Reordered objects have equally many fields. -/
theorem length_reordered (h : (Json.obj fs).Reordered (.obj gs)) : fs.length = gs.length := by
  cases h with
  | leaf ha ho => nomatch ho
  | obj names values => simpa using names.length_eq

/-- In reordered objects a name leads to reordered values, or is missing in both. -/
theorem lookup_reordered (h : (Json.obj fs).Reordered (.obj gs)) (name : String) :
    Option.Rel Reordered (fs.lookup name) (gs.lookup name) := by
  cases h with
  | leaf ha ho => nomatch ho
  | obj names values =>
    cases hf : fs.lookup name with
    | none =>
      have hn : name ∉ gs.names := fun hm => Named.lookup_eq_none_iff.1 hf (names.mem_iff.2 hm)
      rw [Named.lookup_eq_none_iff.2 hn]
      exact .none
    | some v =>
      cases hg : gs.lookup name with
      | none =>
        have hn : name ∉ fs.names := fun hm => Named.lookup_eq_none_iff.1 hg (names.mem_iff.1 hm)
        exact absurd (Named.lookup_eq_none_iff.2 hn) (by simp [hf])
      | some w => exact .some (values name v w (Named.mem_of_lookup hf) (Named.mem_of_lookup hg))

/-- What is read of the scalar under a name is not changed. -/
theorem read_lookup_reordered {α : Type} {p : Json → Option α} (hp : ∀ v : Json, v.isScalar = false → p v = none)
    (h : (Json.obj fs).Reordered (.obj gs)) (name : String) : (fs.lookup name).bind p = (gs.lookup name).bind p := by
  have hl := lookup_reordered h name
  generalize fs.lookup name = x, gs.lookup name = y at hl
  cases hl with
  | none => rfl
  | some hvw => exact hvw.read hp

/-- Objects in which every name leads to reordered values, or is missing in both, are reordered. -/
theorem reordered_of_lookup (hf : fs.names.Nodup) (hg : gs.names.Nodup)
    (h : ∀ name, Option.Rel Reordered (fs.lookup name) (gs.lookup name)) : (Json.obj fs).Reordered (.obj gs) := by
  have hnone : ∀ name, fs.lookup name = none ↔ gs.lookup name = none := by
    intro name
    have hn := h name
    generalize fs.lookup name = v, gs.lookup name = w at hn
    cases hn <;> simp
  refine .obj ((List.perm_ext_iff_of_nodup hf hg).2 fun name => ?_) fun name v w hv hw => ?_
  · have hn := hnone name
    rw [Named.lookup_eq_none_iff, Named.lookup_eq_none_iff] at hn
    exact not_iff_not.1 hn
  · have hvw := h name
    rw [(Named.lookup_eq_some_iff hf).2 hv, (Named.lookup_eq_some_iff hg).2 hw] at hvw
    cases hvw with
    | some hvw => exact hvw

/-- A field of reordered values. -/
theorem Reordered.field? (h : v.Reordered w) (name : String) : Option.Rel Reordered (v.field? name) (w.field? name) := by
  have hf := h.fields?
  unfold Json.field?
  generalize v.fields? = x, w.fields? = y at hf
  cases hf with
  | none => exact .none
  | some h => exact lookup_reordered h name

/-! ## Repeated names -/

/-- A value without repeated names is the same as itself. -/
theorem Reordered.refl (v : Json) : v.Distinct → v.Reordered v := by
  induction v using Json.byParts with
  | leaf v ha ho => exact fun _ => .leaf ha ho
  | arr items ih =>
    intro hd
    rw [distinct_arr] at hd
    exact .arr (List.forall₂_same.2 fun v hv => ih v hv (hd v hv))
  | obj fields ih =>
    intro hd
    rw [distinct_obj] at hd
    refine .obj (.refl _) fun name v w hv hw => ?_
    rw [← Named.lookup_eq_some_iff hd.1] at hv hw
    obtain rfl := Option.some.inj (hv.symm.trans hw)
    have hm := Named.mem_of_lookup hv
    exact ih _ hm (hd.2 _ hm)

/-- Reordering repeats no name. -/
theorem Reordered.distinct {v w : Json} (h : v.Reordered w) (hd : v.Distinct) : w.Distinct := by
  induction v using Json.byParts generalizing w with
  | leaf v ha ho =>
    cases h with
    | leaf => exact hd
    | arr => nomatch ha
    | obj => nomatch ho
  | arr items ih =>
    cases h with
    | leaf ha ho => nomatch ha
    | arr items =>
      rw [distinct_arr] at hd ⊢
      induction items with
      | nil => simp
      | cons hxy _ ihs =>
        rw [List.forall_mem_cons] at ih hd ⊢
        exact ⟨ih.1 hxy hd.1, ihs ih.2 hd.2⟩
  | obj fields ih =>
    cases h with
    | leaf ha ho => nomatch ho
    | obj names values =>
      rw [distinct_obj] at hd ⊢
      refine ⟨names.nodup_iff.1 hd.1, fun p hp => ?_⟩
      obtain ⟨q, hq, he⟩ := List.mem_map.1 (names.mem_iff.2 (List.mem_map_of_mem hp))
      exact ih q hq (values q.1 q.2 p.2 hq (he ▸ hp)) (hd.2 q hq)

/-! ## Equality -/

/-- Items that are told apart from none of their counterparts make up arrays that are not told apart. -/
theorem sameItems_reordered {ds xs ys : List Json}
    (ih : ∀ d ∈ ds, ∀ v w, v.Reordered w → sameBy sameNumber d v = sameBy sameNumber d w)
    (h : List.Forall₂ Reordered xs ys) : sameItems sameNumber ds xs = sameItems sameNumber ds ys := by
  induction ds generalizing xs ys with
  | nil => cases h <;> rfl
  | cons d ds ihs =>
    rw [List.forall_mem_cons] at ih
    cases h with
    | nil => rfl
    | cons hxy hrest => rw [sameItems, sameItems, ih.1 _ _ hxy, ihs ih.2 hrest]

/-- Fields that are told apart from none of their counterparts make up objects that are not told apart. -/
theorem sameFields_reordered {ds : Fields}
    (ih : ∀ d ∈ ds, ∀ v w, v.Reordered w → sameBy sameNumber d.2 v = sameBy sameNumber d.2 w)
    (h : (Json.obj fs).Reordered (.obj gs)) : sameFields sameNumber ds fs = sameFields sameNumber ds gs := by
  induction ds with
  | nil => rfl
  | cons d ds ihs =>
    obtain ⟨name, d⟩ := d
    rw [List.forall_mem_cons] at ih
    have hl := lookup_reordered h name
    rw [sameFields, sameFields, ihs ih.2]
    generalize fs.lookup name = x, gs.lookup name = y at hl
    cases hl with
    | none => rfl
    | some hvw => simp only [ih.1 _ _ hvw]

/-- No value tells values apart that are the same up to the order of fields. -/
theorem sameBy_reordered (sameNumber : JsonNumber → JsonNumber → Bool) (d : Json) :
    ∀ v w, v.Reordered w → sameBy sameNumber d v = sameBy sameNumber d w := by
  induction d using Json.byParts with
  | leaf d ha ho =>
    intro v w h
    cases h with
    | leaf => rfl
    | arr items =>
      cases d with
      | arr ds => nomatch ha
      | _ => rfl
    | obj names values =>
      cases d with
      | obj ds => nomatch ho
      | _ => rfl
  | arr ds ih =>
    intro v w h
    cases h with
    | leaf => rfl
    | arr items =>
      rw [sameBy, sameBy]
      exact sameItems_reordered ih items
    | obj => rfl
  | obj ds ih =>
    intro v w h
    cases h with
    | leaf => rfl
    | arr => rfl
    | obj names values =>
      have hobj := Reordered.obj names values
      rw [sameBy, sameBy, length_reordered hobj, sameFields_reordered ih hobj]

/-- Without repeated names, values are the same up to the order of fields exactly if no difference is found where numbers
are equal only to themselves. -/
theorem reordered_iff_sameBy {v w : Json} (hv : v.Distinct) (hw : w.Distinct) :
    v.Reordered w ↔ sameBy (fun m n => decide (m = n)) v w = true := by
  constructor
  · intro h
    rw [← sameBy_reordered _ v v w h]
    exact sameBy_refl (fun n => decide_eq_true rfl) hv
  · intro h
    induction w using Json.byParts generalizing v with
    | leaf w ha ho =>
      have hvw : v = w := by
        cases w with
        | arr items => nomatch ha
        | obj fields => nomatch ho
        | _ => cases v <;> simp_all [sameBy]
      rw [hvw]
      exact .leaf ha ho
    | arr items ih =>
      obtain ⟨ds, rfl, hall⟩ := sameBy_arr h
      clear h
      rw [distinct_arr] at hv hw
      refine .arr ?_
      induction hall with
      | nil => exact .nil
      | cons hxy _ ihs =>
        rw [List.forall_mem_cons] at ih hv hw
        exact .cons (ih.1 hv.1 hw.1 hxy) (ihs ih.2 hw.2 hv.2)
    | obj fields ih =>
      obtain ⟨ds, rfl, hlen, hall⟩ := sameBy_obj h
      rw [distinct_obj] at hv hw
      refine .obj ?_ fun name x y hx hy => ?_
      · exact Fields.names_perm_of_lookup hv.1 hlen fun p hp => (hall p hp).imp fun _ hy => hy.1
      · obtain ⟨z, hz, hxz⟩ := hall _ hx
        rw [(Named.lookup_eq_some_iff hw.1).2 hy] at hz
        obtain rfl := Option.some.inj hz
        exact ih _ hy (hv.2 _ hx) (hw.2 _ hy) hxz

end Json

end SceneMarkup
