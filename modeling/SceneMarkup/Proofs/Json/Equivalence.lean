import SceneMarkup.Proofs.Json.Reordered

/-!
# Equality of JSON values is an equivalence relation

Between values without repeated names equality holds both ways (`sameBy_symm`): that each field of an object is found in the
other one is enough if both have equally many, since then no name of the other one is left over. It carries over
(`sameBy_trans`), and it does not see the order of fields (`sameValue_equivalence`).
-/

namespace SceneMarkup

namespace Json

variable {sameNumber : JsonNumber → JsonNumber → Bool} {u v w : Json}

/-- Equality holds both ways between values without repeated names, if that of numbers does. -/
theorem sameBy_symm (hn : ∀ m n, sameNumber m n = true → sameNumber n m = true) {v w : Json} (hv : v.Distinct)
    (hw : w.Distinct) (h : sameBy sameNumber v w = true) : sameBy sameNumber w v = true := by
  induction w using Json.byParts generalizing v with
  | leaf w ha ho =>
    rcases sameBy_leaf ha ho h with rfl | ⟨m, n, rfl, rfl, hmn⟩
    · exact h
    · rw [sameBy]
      exact hn m n hmn
  | arr items ih =>
    obtain ⟨ds, rfl, hall⟩ := sameBy_arr h
    clear h
    rw [distinct_arr] at hv hw
    rw [sameBy_arr_iff]
    induction hall with
    | nil => exact .nil
    | cons hxy _ ihs =>
      rw [List.forall_mem_cons] at ih hv hw
      exact .cons (ih.1 hv.1 hw.1 hxy) (ihs ih.2 hw.2 hv.2)
  | obj fields ih =>
    obtain ⟨ds, rfl, hlen, hall⟩ := sameBy_obj h
    rw [distinct_obj] at hv hw
    have hperm : ds.names.Perm fields.names :=
      Fields.names_perm_of_lookup hv.1 hlen fun p hp => (hall p hp).imp fun _ hx => hx.1
    rw [sameBy_obj_iff]
    refine ⟨hlen.symm, fun q hq => ?_⟩
    obtain ⟨p, hp, hname⟩ := List.mem_map.1 (hperm.mem_iff.2 (List.mem_map_of_mem hq))
    obtain ⟨x, hx, hsame⟩ := hall p hp
    have hxq : x = q.2 := by
      rw [hname, (Named.lookup_eq_some_iff hw.1).2 hq] at hx
      exact (Option.some.inj hx).symm
    refine ⟨p.2, ?_, ih q hq (hv.2 p hp) (hw.2 q hq) (hxq ▸ hsame)⟩
    rw [← hname]
    exact (Named.lookup_eq_some_iff hv.1).2 hp

/-- Equality carries over from one value to the next, if that of numbers does. -/
theorem sameBy_trans (hn : ∀ l m n, sameNumber l m = true → sameNumber m n = true → sameNumber l n = true)
    {u v w : Json} (h : sameBy sameNumber u v = true) (h' : sameBy sameNumber v w = true) :
    sameBy sameNumber u w = true := by
  induction w using Json.byParts generalizing u v with
  | leaf w ha ho =>
    rcases sameBy_leaf ha ho h' with rfl | ⟨m, n, rfl, rfl, hmn⟩
    · exact h
    · rcases sameBy_leaf rfl rfl h with rfl | ⟨l, m', rfl, hm, hlm⟩
      · exact h'
      · obtain rfl := Json.num.inj hm
        rw [sameBy]
        exact hn l m n hlm hmn
  | arr items ih =>
    obtain ⟨ds, rfl, hall'⟩ := sameBy_arr h'
    obtain ⟨es, rfl, hall⟩ := sameBy_arr h
    clear h h'
    rw [sameBy_arr_iff]
    induction hall' generalizing es with
    | nil =>
      cases hall
      exact .nil
    | cons hyz _ ihs =>
      rw [List.forall_mem_cons] at ih
      cases hall with
      | cons hxy hrest => exact .cons (ih.1 hxy hyz) (ihs ih.2 _ hrest)
  | obj fields ih =>
    obtain ⟨ds, rfl, hlen', hall'⟩ := sameBy_obj h'
    obtain ⟨es, rfl, hlen, hall⟩ := sameBy_obj h
    rw [sameBy_obj_iff]
    refine ⟨hlen.trans hlen', fun p hp => ?_⟩
    obtain ⟨y, hy, hxy⟩ := hall p hp
    obtain ⟨z, hz, hyz⟩ := hall' _ (Named.mem_of_lookup hy)
    exact ⟨z, hz, ih _ (Named.mem_of_lookup hz) hxy hyz⟩

/-- With numbers compared by value, equality holds both ways. -/
theorem sameValue_symm (hv : v.Distinct) (hw : w.Distinct) (h : sameValue v w = true) : sameValue w v = true := by
  refine sameBy_symm (fun m n hmn => ?_) hv hw h
  exact floatBeq_symm hmn

/-- With numbers compared by value, equality carries over from one value to the next. -/
theorem sameValue_trans (h : sameValue u v = true) (h' : sameValue v w = true) : sameValue u w = true := by
  refine sameBy_trans (fun l m n hlm hmn => ?_) h h'
  exact floatBeq_trans hlm hmn

/-- Values that are the same up to the order of fields are equal. -/
theorem sameValue_of_reordered (hv : v.Distinct) (h : v.Reordered w) : sameValue v w = true :=
  (sameBy_reordered _ v v w h).symm.trans (sameValue_refl hv)

/-- With numbers compared by value, equality is an equivalence relation between values without repeated names, which does not
see the order of fields. An object that finds each of its fields in another one with equally many is found there itself. -/
theorem sameValue_equivalence :
    (Equivalence fun v w : {v : Json // v.Distinct} => sameValue v.1 w.1 = true) ∧
      (∀ v w : Json, v.Distinct → v.Reordered w → sameValue v w = true) ∧
      ∀ fs gs : Fields, (Json.obj fs).Distinct → (Json.obj gs).Distinct → fs.length = gs.length →
        (∀ p ∈ fs, ∃ w, gs.lookup p.1 = some w ∧ sameValue p.2 w = true) →
          ∀ q ∈ gs, ∃ v, fs.lookup q.1 = some v ∧ sameValue q.2 v = true := by
  refine ⟨⟨fun v => sameValue_refl v.2, fun {v w} h => sameValue_symm v.2 w.2 h, fun h h' => sameValue_trans h h'⟩,
    fun v w hv h => sameValue_of_reordered hv h, ?_⟩
  intro fs gs hf hg hlen hall
  have h : sameValue (.obj fs) (.obj gs) = true := sameBy_obj_iff.2 ⟨hlen, hall⟩
  exact (sameBy_obj_iff.1 (sameValue_symm hf hg h)).2

/-- The fields of a badge: its size and how it is anchored. -/
def anchoredFields : Fields :=
  [("size", .arr [.int 12, .int 1]), ("anchor", .obj [("x", .str "MIN"), ("y", .str "MAX")])]

/-- The fields in another order. -/
def reanchoredFields : Fields :=
  [("anchor", .obj [("y", .str "MAX"), ("x", .str "MIN")]), ("size", .arr [.int 12, .int 1])]

/-- The fields in that order with a number in another form. -/
def resizedFields : Fields :=
  [("anchor", .obj [("y", .str "MAX"), ("x", .str "MIN")]), ("size", .arr [.int 12, .num (.real 1 rfl)])]

/-- The badge is equal to the one with its fields in another order, and each field of the one in which a number has another
form is found in it. -/
theorem sameValue_equivalence_anchored :
    (Json.obj anchoredFields).Distinct ∧ (Json.obj resizedFields).Distinct ∧
      (Json.obj anchoredFields).Reordered (.obj reanchoredFields) ∧ anchoredFields.length = resizedFields.length ∧
      (∀ p ∈ anchoredFields, ∃ w, resizedFields.lookup p.1 = some w ∧ sameValue p.2 w = true) ∧
      sameValue (.obj anchoredFields) (.obj reanchoredFields) = true ∧
      ∀ q ∈ resizedFields, ∃ v, anchoredFields.lookup q.1 = some v ∧ sameValue q.2 v = true := by
  have hf : (Json.obj anchoredFields).Distinct := by decide
  have hg : (Json.obj resizedFields).Distinct := by decide
  have hreordered : (Json.obj anchoredFields).Reordered (.obj reanchoredFields) :=
    (reordered_iff_sameBy hf (by decide)).2 rfl
  have hfound : ∀ p ∈ anchoredFields, ∃ w, resizedFields.lookup p.1 = some w ∧ sameValue p.2 w = true := by
    simp only [anchoredFields, List.forall_mem_cons, List.not_mem_nil, false_imp_iff, implies_true, and_true]
    exact ⟨⟨_, rfl, rfl⟩, ⟨_, rfl, rfl⟩⟩
  exact ⟨hf, hg, hreordered, rfl, hfound, sameValue_equivalence.2.1 _ _ hf hreordered,
    sameValue_equivalence.2.2 _ _ hf hg rfl hfound⟩

end Json

end SceneMarkup
