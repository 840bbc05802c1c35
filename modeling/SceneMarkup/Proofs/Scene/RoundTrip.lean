import Mathlib.Logic.Relation
import SceneMarkup.Proofs.Compress.Exact
import SceneMarkup.Proofs.Json.Reordered

/-!
# Scene nodes and their objects

Encoding undoes decoding: the object of a decoded node is the object that it was decoded from, up to the order of fields and
without the entries of lists of children that are no objects (`SceneNode.toJson_reordered_of_decode`). Decoding undoes
encoding, to the order of attributes, for every node that was decoded or made by compressing such a node, and both ways of
encoding give the same object then (`SceneNode.ofJson_roundTrip`).
-/

namespace SceneMarkup

namespace Json

mutual
/-- The object of a node without strays: the entries of lists of children that are no objects, in the whole tree. -/
def withoutStrays : Json → Json
  | .obj fields => .obj (withoutStraysIn fields)
  | v => v

/-- The fields of a node's object, of which only `children` can hold strays. -/
def withoutStraysIn : List (String × Json) → Fields
  | [] => []
  | (name, v) :: rest => (name, if name = "children" then v.childrenWithoutStrays else v) :: withoutStraysIn rest

/-- A list of children without strays; anything else is no list of children. -/
def childrenWithoutStrays : Json → Json
  | .arr items => .arr (objectsAmong items)
  | v => v

/-- The objects among the entries of a list of children, without the strays in them. -/
def objectsAmong : List Json → List Json
  | [] => []
  | v :: rest => if v.fields?.isSome then v.withoutStrays :: objectsAmong rest else objectsAmong rest
end

/-- No name changes. -/
theorem names_withoutStraysIn (fields : Fields) : (withoutStraysIn fields).names = fields.names := by
  induction fields with
  | nil => simp [withoutStraysIn]
  | cons p rest ih =>
    simp only [withoutStraysIn, Named.names, List.map_cons] at ih ⊢
    rw [ih]

/-- What a name leads to without strays. -/
theorem lookup_withoutStraysIn (fields : Fields) (key : String) :
    (withoutStraysIn fields).lookup key =
      (fields.lookup key).map fun v => if key = "children" then v.childrenWithoutStrays else v := by
  induction fields with
  | nil => simp [withoutStraysIn]
  | cons p rest ih =>
    obtain ⟨name, v⟩ := p
    rw [withoutStraysIn]
    by_cases hk : key = name
    · subst hk
      rw [List.lookup_cons_self, List.lookup_cons_self, Option.map_some]
    · have hne : (key == name) = false := beq_eq_false_iff_ne.2 hk
      rw [List.lookup_cons, List.lookup_cons, hne]
      exact ih

end Json

namespace SceneNode

variable {n m : SceneNode} {v : Json}

/-! ## Encoding -/

/-- The objects of a list are those of its nodes. -/
theorem toJsons_eq_map (trees : List SceneNode) : toJsons trees = trees.map toJson := by
  induction trees with
  | nil => simp [toJsons]
  | cons n rest ih => simp [toJsons, ih]

/-- The fields of a node's object. -/
def encodedFields (n : SceneNode) : Fields :=
  match n.children? with
  | none => n.attributes
  | some children => Named.put "children" (.arr (children.map toJson)) n.attributes

/-- A node's object has its attributes and its list of children as fields. -/
theorem toJson_eq (n : SceneNode) : n.toJson = .obj n.encodedFields := by
  obtain ⟨attributes, cs⟩ := n
  cases cs with
  | none =>
    rw [toJson]
    rfl
  | some cs =>
    rw [toJson, toJsons_eq_map]
    rfl

/-- What a name leads to in a node's object. -/
theorem lookup_encodedFields (n : SceneNode) (key : String) :
    n.encodedFields.lookup key =
      if key = "children" then (n.children?.map fun cs => .arr (cs.map toJson)).or (n.get? key) else n.get? key := by
  unfold encodedFields
  cases n.children? with
  | none => simp [get?]
  | some cs =>
    rw [Named.lookup_put]
    split <;> rfl

/-- A node's object repeats no name if the attributes do not. -/
theorem nodup_encodedFields (hd : n.attributes.names.Nodup) : n.encodedFields.names.Nodup := by
  unfold encodedFields
  cases n.children? with
  | none => exact hd
  | some cs => exact Named.nodup_put hd

/-- Where `children` is left by decoding, both ways of encoding a node agree. -/
theorem written_eq_toJson (h : n.Coded) : n.written = n.toJson := by
  induction n using byParts with
  | node n ih =>
    obtain ⟨hhere, hchildren⟩ := forall_nodes_iff.1 h
    obtain ⟨attributes, cs⟩ := n
    cases cs with
    | none => rw [written, toJson]
    | some cs =>
      have hcs : cs.map written = cs.map toJson := List.map_congr_left fun c hc => ih c hc (hchildren c hc)
      rw [written, toJson, writtenAll_eq_map, toJsons_eq_map, hcs,
        Named.put_of_notMem _ (notMem_of_codedHere hhere)]

/-! ## Encoding what was decoded -/

/-- The trees of a list of children are encoded as the objects in it, if each of them is encoded as its object. -/
theorem toJson_reordered_objectsAmong {items : List Json}
    (ih : ∀ x ∈ items, ∀ n, (decode x).value = some n → n.toJson.Reordered x.withoutStrays) :
    List.Forall₂ Json.Reordered ((items.filterMap fun x => (decode x).value).map toJson) (Json.objectsAmong items) := by
  induction items with
  | nil => simp [Json.objectsAmong]
  | cons x rest ihs =>
    rw [List.forall_mem_cons] at ih
    rw [List.filterMap_cons, Json.objectsAmong]
    cases hx : x.fields? with
    | none =>
      rw [value_decode_of_fields? hx]
      exact ihs ih.2
    | some fields =>
      obtain rfl := Json.eq_obj_of_fields? hx
      obtain ⟨n, hn⟩ : ∃ n, (decode (.obj fields)).value = some n := ⟨_, value_decode_obj fields⟩
      rw [hn]
      exact .cons (ih.1 n hn) (ihs ih.2)

/-- A decoded node is encoded as the object that it was decoded from, up to the order of fields and without strays. -/
theorem toJson_reordered_of_decode (v : Json) :
    v.Distinct → ∀ n, (decode v).value = some n → n.toJson.Reordered v.withoutStrays := by
  induction v using byEntries with
  | other v ho =>
    intro _ n hn
    rw [value_decode_of_fields? ho] at hn
    nomatch hn
  | obj fields ih =>
    intro hd n hn
    have hnodup := (Json.distinct_obj.1 hd).1
    have hsame : ∀ {key w}, fields.lookup key = some w → w.Reordered w :=
      fun hl => .refl _ ((Json.distinct_obj.1 hd).2 _ (Named.mem_of_lookup hl))
    rw [value_decode_obj] at hn
    obtain rfl := Option.some.inj hn
    rw [toJson_eq, Json.withoutStrays]
    refine Json.reordered_of_lookup (nodup_encodedFields (Json.distinct_obj.1 (distinct_attributesOf hd)).1)
      (by rwa [Json.names_withoutStraysIn]) fun key => ?_
    rw [lookup_encodedFields, Json.lookup_withoutStraysIn, get?, attributes, children?]
    by_cases hk : key = "children"
    · -- A list of children is encoded from its trees, and anything else is an attribute.
      subst hk
      rw [if_pos rfl, lookup_attributesOf hnodup]
      cases hl : fields.lookup "children" with
      | none => exact .none
      | some w =>
        cases w with
        | arr items =>
          have hitems : (fields.lookup "children").bind Json.items? = some items := by rw [hl]; rfl
          refine .some (.arr (toJson_reordered_objectsAmong fun x hx => ?_))
          exact ih items hitems x hx (distinct_of_mem_children hd hitems x hx)
        | _ => exact .some (hsame hl)
    · rw [if_neg hk, lookup_attributesOf_of_ne hnodup hk]
      cases hl : fields.lookup key with
      | none => exact .none
      | some w =>
        rw [Option.map_some, if_neg hk]
        exact .some (hsame hl)

/-! ## Compressed trees -/

/-- The second tree is the first one compressed with some table. -/
def CompressesTo (n m : SceneNode) : Prop :=
  ∃ t : DefaultTable, m = n.compress t

/-- However often a tree is compressed, and with whatever tables, `children` is where decoding leaves it. -/
theorem coded_of_compressesTo (h : n.Coded) (hm : Relation.ReflTransGen CompressesTo n m) : m.Coded := by
  induction hm with
  | refl => exact h
  | tail _ hstep ih =>
    obtain ⟨t, rfl⟩ := hstep
    exact coded_compressIn ih false

/-- An object is decoded into a node that is encoded as the object, up to the order of fields and without strays; and what the
node becomes by compressing it, however often, is decoded from its encoding, which is the same both ways. -/
theorem ofJson_roundTrip {fields : Fields} (hd : (Json.obj fields).Distinct) :
    ∃ n, (ofJson (.obj fields)).run.value = .ok n ∧ n.toJson.Reordered (Json.obj fields).withoutStrays ∧
      ∀ m, Relation.ReflTransGen CompressesTo n m → (ofJson m.toJson).run.value = .ok m ∧ m.written = m.toJson := by
  obtain ⟨n, hn⟩ : ∃ n, (decode (.obj fields)).value = some n := ⟨_, value_decode_obj fields⟩
  refine ⟨n, value_ofJson_eq_ok_iff.2 hn, toJson_reordered_of_decode _ hd n hn, fun m hm => ?_⟩
  have hcoded : m.Coded := coded_of_compressesTo (coded_of_decode hd hn) hm
  have hwritten : m.written = m.toJson := written_eq_toJson hcoded
  refine ⟨?_, hwritten⟩
  rw [value_ofJson_eq_ok_iff, ← hwritten]
  exact value_decode_written hcoded

/-- The export of a page whose lists of children hold strays, and whose legend is none of them. -/
def strayExport : Fields :=
  [("type", .str "FRAME"),
    ("children", .arr [.null, .obj [("children", .arr [.int 7, .obj [("type", .str "TEXT"), ("children", .str "none")]]),
      ("name", .str "Row"), ("locked", .bool false)], .arr []]),
    ("legend", .obj [("children", .arr [.int 7])]), ("name", .str "Page")]

/-- The page is encoded without the strays, and a compressed page is decoded from its encoding. -/
theorem ofJson_roundTrip_strays :
    (Json.obj strayExport).Distinct ∧
      ∃ n, (ofJson (.obj strayExport)).run.value = .ok n ∧
        n.toJson.Reordered (.obj [("type", .str "FRAME"),
          ("children", .arr [.obj [("children", .arr [.obj [("type", .str "TEXT"), ("children", .str "none")]]),
            ("name", .str "Row"), ("locked", .bool false)]]),
          ("legend", .obj [("children", .arr [.int 7])]), ("name", .str "Page")]) ∧
        (ofJson (n.compress .builtin).toJson).run.value = .ok (n.compress .builtin) ∧
        (n.compress .builtin).written = (n.compress .builtin).toJson := by
  have hd : (Json.obj strayExport).Distinct := by decide
  obtain ⟨n, hn, hencoded, hcompressed⟩ := ofJson_roundTrip hd
  obtain ⟨hdecoded, hwritten⟩ := hcompressed (n.compress .builtin) (.single ⟨.builtin, rfl⟩)
  exact ⟨hd, n, hn, hencoded, hdecoded, hwritten⟩

end SceneNode

end SceneMarkup
