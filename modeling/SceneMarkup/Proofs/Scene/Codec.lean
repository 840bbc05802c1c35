import Mathlib.Data.List.Basic
import SceneMarkup.Proofs.Json.Distinct
import SceneMarkup.Proofs.Scene.Node

/-!
# Decoding scene nodes

A list of values is decoded if each of them is an object (`SceneNode.value_ofJsons_eq_ok_iff`). A node that is decoded from a
value without repeated names has none (`SceneNode.distinct_of_decode`), and `children` is an attribute of it only where it is
no array, behind all others (`SceneNode.coded_of_decode`). A node of this form is decoded from its written form
(`SceneNode.value_decode_written`).
-/

namespace SceneMarkup

namespace Fields

open Named

variable {name : String} {fields : Fields}

/-- Where a name is missing, nothing is taken out. -/
theorem takeOut_of_notMem (h : name ∉ fields.names) : takeOut name fields = fields := by
  induction fields with
  | nil => rfl
  | cons q rest ih =>
    simp only [names, List.map_cons, List.mem_cons, not_or] at h
    rw [takeOut, if_neg (Ne.symm h.1), ih h.2]

/-- The field that is taken out and those that are left are the fields in another order. -/
theorem perm_takeOut {v : Json} (h : fields.lookup name = some v) : fields.Perm ((name, v) :: takeOut name fields) := by
  induction fields with
  | nil => nomatch h
  | cons q rest ih =>
    obtain ⟨n, w⟩ := q
    by_cases hn : n = name
    · subst hn
      obtain rfl : w = v := by simpa using h
      rw [takeOut, if_pos rfl]
      refine .cons _ ?_
      cases hl : rest.getLast? with
      | none => rw [List.getLast?_eq_none_iff.1 hl]
      | some last =>
        -- The last field has moved to the front of the rest.
        obtain ⟨front, rfl⟩ := List.getLast?_eq_some_iff.1 hl
        simp only [List.dropLast_concat]
        exact List.perm_append_singleton last front
    · rw [List.lookup_cons, beq_eq_false_iff_ne.2 (Ne.symm hn)] at h
      rw [takeOut, if_neg hn]
      exact ((ih h).cons _).trans (.swap _ _ _)

/-- The fields that are left when one is taken out are among the fields. -/
theorem mem_of_mem_takeOut {p : String × Json} (h : p ∈ takeOut name fields) : p ∈ fields := by
  cases hl : fields.lookup name with
  | none => rwa [takeOut_of_notMem (lookup_eq_none_iff.1 hl)] at h
  | some v => exact (perm_takeOut hl).mem_iff.2 (List.mem_cons_of_mem _ h)

/-- The names that are left when a field is taken out are distinct, and its own is not among them. -/
theorem nodup_takeOut (hd : fields.names.Nodup) :
    (takeOut name fields).names.Nodup ∧ name ∉ (takeOut name fields).names := by
  cases hl : fields.lookup name with
  | none =>
    have hn := lookup_eq_none_iff.1 hl
    rw [takeOut_of_notMem hn]
    exact ⟨hd, hn⟩
  | some v => exact (List.nodup_cons.1 (((perm_takeOut hl).map Prod.fst).nodup_iff.1 hd)).symm

/-- What a name leads to does not depend on the order of fields. -/
theorem lookup_of_perm {others : Fields} (hd : fields.names.Nodup) (h : fields.Perm others) (other : String) :
    fields.lookup other = others.lookup other := by
  ext v
  rw [lookup_eq_some_iff hd, lookup_eq_some_iff ((h.map Prod.fst).nodup_iff.1 hd), h.mem_iff]

/-- Taking out a field changes what its name leads to, and nothing else. -/
theorem lookup_takeOut (hd : fields.names.Nodup) (name other : String) :
    (takeOut name fields).lookup other = if other = name then none else fields.lookup other := by
  split
  · rename_i he
    rw [he]
    exact lookup_eq_none_iff.2 (nodup_takeOut hd).2
  · rename_i hne
    cases hl : fields.lookup name with
    | none => rw [takeOut_of_notMem (lookup_eq_none_iff.1 hl)]
    | some v => rw [lookup_of_perm hd (perm_takeOut hl), List.lookup_cons, beq_eq_false_iff_ne.2 hne]

/-- The last field is taken out without a trace. -/
theorem takeOut_concat (v : Json) (h : name ∉ fields.names) : takeOut name (fields ++ [(name, v)]) = fields := by
  induction fields with
  | nil => simp [takeOut]
  | cons q rest ih =>
    simp only [names, List.map_cons, List.mem_cons, not_or] at h
    rw [List.cons_append, takeOut, if_neg (Ne.symm h.1), ih h.2]

end Fields

/-- A sequence of computations gives a result if both give one. -/
theorem Outcome.value_bind_eq_ok_iff {α β : Type} {x : Outcome α} {f : α → Outcome β} {b : β} :
    (x >>= f).run.value = .ok b ↔ ∃ a, x.run.value = .ok a ∧ (f a).run.value = .ok b := by
  rw [ExceptT.run_bind, Logged.value_bind]
  cases x.run.value <;> simp

/-- A computation that gives a result is continued with it. -/
theorem Outcome.value_bind_of_ok {α β : Type} {x : Outcome α} {f : α → Outcome β} {a : α} (h : x.run.value = .ok a) :
    (x >>= f).run.value = (f a).run.value := by
  rw [ExceptT.run_bind, Logged.value_bind, h]

/-- A computation that fails is not continued. -/
theorem Outcome.value_bind_of_error {α β : Type} {x : Outcome α} {f : α → Outcome β} {e : SceneError}
    (h : x.run.value = .error e) : (x >>= f).run.value = .error e := by
  rw [ExceptT.run_bind, Logged.value_bind, h]
  rfl

namespace SceneNode

variable {n : SceneNode} {v : Json} {fields : Fields}

/-! ## What is decoded -/

/-- What holds of an object because it holds of the items of `children`, and of what is no object, holds of every value. -/
theorem byEntries {P : Json → Prop} (other : ∀ v : Json, v.fields? = none → P v)
    (obj : ∀ fields : Fields,
      (∀ items, (fields.lookup "children").bind Json.items? = some items → ∀ x ∈ items, P x) → P (.obj fields))
    (v : Json) : P v := by
  -- The items of an array are parts of a part of the object, so the array carries what holds of them.
  have hall : P v ∧ ∀ items, v.items? = some items → ∀ x ∈ items, P x := by
    induction v using Json.byParts with
    | leaf v ha ho => exact ⟨other v ho, fun items he => absurd he (by simp [ha])⟩
    | arr items ih =>
      refine ⟨other _ rfl, fun is he x hx => ?_⟩
      obtain rfl := Option.some.inj he
      exact (ih x hx).1
    | obj fields ih =>
      refine ⟨obj fields fun items he => ?_, fun items he => nomatch he⟩
      obtain ⟨w, hw, hi⟩ := Option.bind_eq_some_iff.1 he
      exact (ih _ (Named.mem_of_lookup hw)).2 items hi
  exact hall.1

/-- What is no object stands for no node. -/
theorem value_decode_of_fields? (h : v.fields? = none) : (decode v).value = none := by
  cases v with
  | obj fields => nomatch h
  | _ => rfl

/-- The nodes in a list of children are those of its items that are objects. -/
theorem value_decodeItems (items : List Json) :
    (decodeItems items).value = items.filterMap fun v => (decode v).value := by
  induction items with
  | nil => rfl
  | cons v rest ih =>
    rw [decodeItems, List.filterMap_cons]
    cases hv : (decode v).value with
    | none => simp [hv, ih]
    | some n => simp [hv, ih]

/-- The list of children is what stands under `children`. -/
theorem value_decodeChildren (fields : Fields) :
    (decodeChildren fields).value =
      ((fields.lookup "children").bind Json.items?).map (List.filterMap fun v => (decode v).value) := by
  induction fields with
  | nil => rfl
  | cons p rest ih =>
    obtain ⟨name, v⟩ := p
    by_cases hn : name = "children"
    · subst hn
      rw [List.lookup_cons_self]
      cases v with
      | arr items => simp [decodeChildren, value_decodeItems, Json.items?]
      | _ => simp [decodeChildren, Json.items?]
    · rw [List.lookup_cons, beq_eq_false_iff_ne.2 (Ne.symm hn), ← ih]
      cases v <;> simp [decodeChildren, hn]

/-- The node that an object stands for. -/
theorem value_decode_obj (fields : Fields) :
    (decode (.obj fields)).value = some (mk (attributesOf fields)
      (((fields.lookup "children").bind Json.items?).map (List.filterMap fun v => (decode v).value))) := by
  rw [decode]
  simp only [Logged.value_bind, Logged.value_pure, value_decodeChildren]

/-- Decoding gives the node that an object stands for, and fails for anything else. -/
theorem value_ofJson (v : Json) :
    (ofJson v).run.value = match (decode v).value with
      | some n => .ok n
      | none => .error notObject := by
  have h : (ofJson v).run.value = (match (decode v).value with
      | some n => (pure n : Outcome SceneNode)
      | none => throw notObject).run.value := rfl
  rw [h]
  cases (decode v).value <;> rfl

theorem value_ofJson_eq_ok_iff : (ofJson v).run.value = .ok n ↔ (decode v).value = some n := by
  rw [value_ofJson]
  cases (decode v).value <;> simp

/-- A list is decoded if each of its items is. -/
theorem value_ofJsons_eq_ok_iff {items : List Json} {trees : List SceneNode} :
    (ofJsons items).run.value = .ok trees ↔ items.map (fun v => (decode v).value) = trees.map some := by
  induction items generalizing trees with
  | nil => cases trees <;> simp [ofJsons]
  | cons v rest ih =>
    rw [ofJsons, Outcome.value_bind_eq_ok_iff]
    simp only [value_ofJson_eq_ok_iff, Outcome.value_bind_eq_ok_iff, ih]
    cases trees <;> simp

/-! ## Repeated names -/

/-- The items of `children` have no repeated names if the object has none. -/
theorem distinct_of_mem_children {items : List Json} (hd : (Json.obj fields).Distinct)
    (hl : (fields.lookup "children").bind Json.items? = some items) : ∀ x ∈ items, x.Distinct := by
  obtain ⟨w, hw, hi⟩ := Option.bind_eq_some_iff.1 hl
  obtain rfl := Json.eq_arr_of_items? hi
  exact Json.distinct_arr.1 ((Json.distinct_obj.1 hd).2 _ (Named.mem_of_lookup hw))

/-- The attributes of a node have no repeated names if its object has none. -/
theorem distinct_attributesOf (h : (Json.obj fields).Distinct) : (Json.obj (attributesOf fields)).Distinct := by
  have htaken : (Json.obj (Fields.takeOut "children" fields)).Distinct := by
    rw [Json.distinct_obj] at h ⊢
    exact ⟨(Fields.nodup_takeOut h.1).1, fun p hp => h.2 p (Fields.mem_of_mem_takeOut hp)⟩
  unfold attributesOf
  split
  · exact htaken
  · rename_i w _ hl
    exact Json.distinct_put htaken ((Json.distinct_obj.1 h).2 _ (Named.mem_of_lookup hl))
  · exact h

/-- A node has the attributes of its object but for a list of children. -/
theorem lookup_attributesOf (hd : fields.names.Nodup) (key : String) :
    (attributesOf fields).lookup key = (fields.lookup key).filter fun v => key != "children" || v.items?.isNone := by
  have hother : key ≠ "children" → ∀ v : Option Json,
      v.filter (fun v => key != "children" || v.items?.isNone) = v := by
    intro hk v
    cases v <;> simp [hk]
  unfold attributesOf
  split
  · rename_i items hl
    rw [Fields.lookup_takeOut hd]
    split
    · rename_i hk
      rw [hk, hl]
      rfl
    · rename_i hk
      exact (hother hk _).symm
  · rename_i w hw hl
    rw [Named.lookup_put, Fields.lookup_takeOut hd]
    split
    · rename_i hk
      rw [hk, hl]
      cases w with
      | arr items => exact absurd rfl (hw items)
      | _ => rfl
    · rename_i hk
      exact (hother hk _).symm
  · rename_i hl
    by_cases hk : key = "children"
    · rw [hk, hl]
      rfl
    · exact (hother hk _).symm

theorem lookup_attributesOf_of_ne (hd : fields.names.Nodup) {key : String} (hk : key ≠ "children") :
    (attributesOf fields).lookup key = fields.lookup key := by
  rw [lookup_attributesOf hd]
  cases fields.lookup key <;> simp [hk]

/-- `children` is an attribute only of a node without a list of children, where it is no array and comes last. -/
def CodedHere (n : SceneNode) : Prop :=
  "children" ∉ n.attributes.names ∨ n.children? = none ∧
    ∃ (before : Fields) (v : Json), n.attributes = before ++ [("children", v)] ∧ v.items? = none ∧ "children" ∉ before.names

/-- `CodedHere` of every node of a tree. -/
def Coded (n : SceneNode) : Prop :=
  ∀ m ∈ n.nodes, m.CodedHere

/-- `children` is where decoding leaves it. -/
theorem codedHere_attributesOf (h : fields.names.Nodup) (cs : List Json → List SceneNode) :
    (mk (attributesOf fields) (((fields.lookup "children").bind Json.items?).map cs)).CodedHere := by
  have htaken : "children" ∉ (Fields.takeOut "children" fields).names := (Fields.nodup_takeOut h).2
  unfold attributesOf
  split
  · exact .inl htaken
  · rename_i w hw hl
    have hnone : w.items? = none := by
      cases w with
      | arr items => exact absurd rfl (hw items)
      | _ => rfl
    exact .inr ⟨by simp [children?, hl, hnone], _, w, Named.put_of_notMem w htaken, hnone, htaken⟩
  · rename_i hl
    exact .inl (Named.lookup_eq_none_iff.1 hl)

/-- A property of nodes that every object gives its node, and a node its tree, holds of what is decoded. -/
theorem forall_nodes_of_decode {p : SceneNode → Prop}
    (here : ∀ fields : Fields, (Json.obj fields).Distinct → p (mk (attributesOf fields)
      (((fields.lookup "children").bind Json.items?).map (List.filterMap fun v => (decode v).value)))) (v : Json) :
    v.Distinct → ∀ n, (decode v).value = some n → ∀ m ∈ n.nodes, p m := by
  induction v using byEntries with
  | other v ho =>
    intro _ n hn
    rw [value_decode_of_fields? ho] at hn
    nomatch hn
  | obj fields ih =>
    intro hd n hn
    rw [value_decode_obj] at hn
    obtain rfl := Option.some.inj hn
    rw [forall_nodes_iff]
    refine ⟨here fields hd, fun c hc => ?_⟩
    cases hl : (fields.lookup "children").bind Json.items? with
    | none => simp [children, children?, hl] at hc
    | some items =>
      simp only [children, children?, hl, Option.map_some, Option.getD_some] at hc
      obtain ⟨x, hx, hdec⟩ := List.mem_filterMap.1 hc
      exact ih items hl x hx (distinct_of_mem_children hd hl x hx) c hdec

/-- A node that is decoded from a value without repeated names has none. -/
theorem distinct_of_decode (hv : v.Distinct) (h : (decode v).value = some n) : n.Distinct :=
  forall_nodes_of_decode (fun _ hd => distinct_attributesOf hd) v hv n h

/-- In a node that is decoded from a value without repeated names, `children` is where decoding leaves it. -/
theorem coded_of_decode (hv : v.Distinct) (h : (decode v).value = some n) : n.Coded :=
  forall_nodes_of_decode (fun _ hd => codedHere_attributesOf (Json.distinct_obj.1 hd).1 _) v hv n h

/-! ## What is written -/

/-- The written forms of a list are those of its nodes. -/
theorem writtenAll_eq_map (trees : List SceneNode) : writtenAll trees = trees.map written := by
  induction trees with
  | nil => simp [writtenAll]
  | cons n rest ih => simp [writtenAll, ih]

/-- Attributes that are where decoding leaves them stay there. -/
theorem attributesOf_of_coded {attributes : Fields} (h : (mk attributes none).CodedHere) :
    attributesOf attributes = attributes ∧ (attributes.lookup "children").bind Json.items? = none := by
  rcases h with hn | ⟨-, before, v, rfl, hv, hn⟩
  · have hl : attributes.lookup "children" = none := Named.lookup_eq_none_iff.2 hn
    exact ⟨by simp only [attributesOf, hl], by rw [hl]; rfl⟩
  · have hl := Named.lookup_concat v hn
    refine ⟨?_, by rw [hl]; exact hv⟩
    cases v with
    | arr items => nomatch hv
    | _ => simp only [attributesOf, hl, Fields.takeOut_concat _ hn, Named.put_of_notMem _ hn]

/-- A node with a list of children has no attribute `children`. -/
theorem notMem_of_codedHere {attributes : Fields} {cs : List SceneNode} (h : (mk attributes (some cs)).CodedHere) :
    "children" ∉ Named.names attributes := by
  rcases h with hn | ⟨hnone, -⟩
  · exact hn
  · nomatch hnone

/-- A node in the form of a decoded one is decoded from its written form. -/
theorem value_decode_written (h : n.Coded) : (decode n.written).value = some n := by
  induction n using byParts with
  | node n ih =>
    obtain ⟨hhere, hchildren⟩ := forall_nodes_iff.1 h
    obtain ⟨attributes, cs⟩ := n
    cases cs with
    | none =>
      obtain ⟨hsame, hnone⟩ := attributesOf_of_coded hhere
      rw [written, value_decode_obj, hsame, hnone]
      rfl
    | some cs =>
      have hn := notMem_of_codedHere hhere
      have hl := Named.lookup_concat (.arr (writtenAll cs)) hn
      have hcs : (writtenAll cs).filterMap (fun v => (decode v).value) = cs := by
        rw [writtenAll_eq_map, List.filterMap_map]
        exact (List.filterMap_congr fun c hc => ih c hc (hchildren c hc)).trans List.filterMap_some
      rw [written, value_decode_obj, attributesOf, hl]
      simp only [Fields.takeOut_concat _ hn, Option.bind_some, Json.items?, Option.map_some, hcs]

/-- Nodes in the form of decoded ones are decoded from their written forms. -/
theorem value_ofJsons_writtenAll {trees : List SceneNode} (h : ∀ n ∈ trees, n.Coded) :
    (ofJsons (writtenAll trees)).run.value = .ok trees := by
  rw [value_ofJsons_eq_ok_iff, writtenAll_eq_map, List.map_map]
  exact List.map_congr_left fun n hn => value_decode_written (h n hn)

end SceneNode

end SceneMarkup
