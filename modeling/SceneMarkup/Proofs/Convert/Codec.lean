import SceneMarkup.Proofs.Convert.Document
import SceneMarkup.Proofs.Scene.RoundTrip

/-!
# Compressed documents and their JSON forms

The JSON form of a compressed document has two readers: one for documents, which wants every part of it, and one for input,
which looks for the trees and the table alone. Both read back what was written (`CompressedDocument.value_ofJson_build`).
-/

namespace SceneMarkup

/-- The metadata of a document are decoded from their JSON form. -/
theorem DocumentMetadata.ofJson?_toJson (m : DocumentMetadata) : ofJson? m.toJson = some m := by
  have hcount : ∀ n : Nat, (Json.int n).count? = some n := by
    intro n
    simp [Json.int, Json.count?]
  have hrecord : m.toJson.record?
      ["original_nodes", "compressed_nodes", "original_attributes", "compressed_attributes", "note"] =
        some [some (.int m.treesBefore), some (.int m.treesAfter), some (.int m.attributesBefore),
          some (.int m.attributesAfter), some (.str m.note)] := by
    simp [toJson, Json.record?, Json.recordFields?, Json.fieldOnce?, Json.valuesOf]
  simp [ofJson?, hrecord, hcount, Json.string?]

/-- The object of a node repeats no name, if the tree does not. -/
theorem SceneNode.distinct_toJson {n : SceneNode} (hd : n.Distinct) : n.toJson.Distinct := by
  induction n using byParts with
  | node n ih =>
    rw [distinct_iff] at hd
    rw [toJson_eq, encodedFields]
    unfold children at ih hd
    cases hcs : n.children? with
    | none => exact hd.1
    | some cs =>
      rw [hcs] at ih hd
      refine Json.distinct_put hd.1 (Json.distinct_arr.2 fun v hv => ?_)
      obtain ⟨c, hc, rfl⟩ := List.mem_map.1 hv
      exact ih c hc (hd.2 c hc)

namespace CompressedDocument

variable {d : CompressedDocument} {p : Parts} {rest : List (String × Json)}

/-- The list of trees is decoded, if it is the first one. -/
theorem value_decodeParts_trees {items : List Json} {trees : List SceneNode} (hp : p.trees = none)
    (h : (SceneNode.ofJsons (Json.settleItems items)).run.value = .ok trees) :
    (decodeParts p (("compressed_data", .arr items) :: rest)).run.value =
      (decodeParts { p with trees := some trees } rest).run.value := by
  have hadapt : ((SceneNode.ofJsons (Json.settleItems items)).adapt fun _ => notDocument).run.value = .ok trees :=
    congrArg (Except.mapError fun _ => notDocument) h
  rw [decodeParts, hp]
  exact Outcome.value_bind_of_ok hadapt

/-- The table is decoded, if it is the first one. -/
theorem value_decodeParts_defaults {v : Json} {t : DefaultTable} (hp : p.defaults = none)
    (h : uncheckedTable? v.settle = some t) :
    (decodeParts p (("defaults", v) :: rest)).run.value =
      (decodeParts { p with defaults := some t } rest).run.value := by
  rw [decodeParts, hp, h]
  rfl

/-- The metadata are decoded, if they are the first ones. -/
theorem value_decodeParts_metadata {v : Json} {m : DocumentMetadata} (hp : p.metadata = none)
    (h : DocumentMetadata.ofJson? v = some m) :
    (decodeParts p (("metadata", v) :: rest)).run.value =
      (decodeParts { p with metadata := some m } rest).run.value := by
  rw [decodeParts, hp, h]
  rfl

/-- A document is decoded from its JSON form. -/
theorem value_ofJson_toJson (hc : ∀ n ∈ d.trees, n.Coded) (hd : ∀ n ∈ d.trees, n.Distinct)
    (ht : d.defaults.toJson.Distinct) : (ofJson d.toJson).run.value = .ok d := by
  have hsettled : Json.settleItems (SceneNode.writtenAll d.trees) = SceneNode.writtenAll d.trees := by
    have hdistinct : (Json.arr (SceneNode.writtenAll d.trees)).Distinct := by
      rw [SceneNode.writtenAll_eq_map, Json.distinct_arr]
      intro v hv
      obtain ⟨n, hn, rfl⟩ := List.mem_map.1 hv
      rw [SceneNode.written_eq_toJson (hc n hn)]
      exact SceneNode.distinct_toJson (hd n hn)
    have hsettle := Json.settle_of_distinct _ hdistinct
    rw [Json.settle] at hsettle
    exact Json.arr.inj hsettle
  have htrees : (SceneNode.ofJsons (Json.settleItems (SceneNode.writtenAll d.trees))).run.value = .ok d.trees := by
    rw [hsettled]
    exact SceneNode.value_ofJsons_writtenAll hc
  have htable : uncheckedTable? d.defaults.toJson.settle = some d.defaults := by
    rw [Json.settle_of_distinct _ ht]
    rfl
  have hfields : d.toJson.recordFields? ["compressed_data", "defaults", "metadata"] =
      some [("compressed_data", .arr (SceneNode.writtenAll d.trees)), ("defaults", d.defaults.toJson),
        ("metadata", d.metadata.toJson)] := by
    simp [toJson, Json.recordFields?]
  have hparts : (decodeParts ⟨none, none, none⟩ [("compressed_data", .arr (SceneNode.writtenAll d.trees)),
      ("defaults", d.defaults.toJson), ("metadata", d.metadata.toJson)]).run.value =
        .ok ⟨some d.trees, some d.defaults, some d.metadata⟩ := by
    rw [value_decodeParts_trees rfl htrees, value_decodeParts_defaults rfl htable,
      value_decodeParts_metadata rfl (DocumentMetadata.ofJson?_toJson d.metadata), decodeParts]
    rfl
  rw [ofJson, hfields]
  exact Outcome.value_bind_of_ok hparts

/-- The document of decoded trees and a decoded table is decoded from its JSON form, and read as input this form gives the
compressed trees and the table. -/
theorem value_ofJson_build {trees : List SceneNode} {t : DefaultTable} {table : Json}
    (htrees : ∀ n ∈ trees, ∃ v : Json, v.Distinct ∧ (SceneNode.ofJson v).run.value = .ok n)
    (hd : table.Distinct) (ht : DefaultTable.ofJson table = .ok t) :
    (ofJson (build t trees).value.toJson).run.value = .ok (build t trees).value ∧
      (InputDocument.ofJson (build t trees).value.toJson).run.value =
        .ok ⟨SceneNode.compressAll t trees, some t⟩ := by
  obtain ⟨rfl, hsections⟩ := DefaultTable.ofJson_eq_ok_iff.1 ht
  have hcompressed : ∀ n ∈ SceneNode.compressAll t trees, n.Distinct ∧ n.Coded := by
    intro n hn
    obtain ⟨m, hm, rfl⟩ := List.mem_map.1 hn
    obtain ⟨v, hv, hdecoded⟩ := htrees m hm
    rw [SceneNode.value_ofJson_eq_ok_iff] at hdecoded
    exact ⟨SceneNode.distinct_compressIn (SceneNode.distinct_of_decode hv hdecoded) false,
      SceneNode.coded_compressIn (SceneNode.coded_of_decode hv hdecoded) false⟩
  have hcoded : ∀ n ∈ (build t trees).value.trees, n.Coded := fun n hn => (hcompressed n hn).2
  constructor
  · exact value_ofJson_toJson hcoded (fun n hn => (hcompressed n hn).1) hd
  · exact InputDocument.value_ofJson_toJson hcoded hsections

/-- The exports of a faded card around an empty slot, and of a title with a text in place of children. -/
def cardExports : List Json :=
  [.obj [("type", .str "FRAME"), ("children", .arr [.obj [("name", .str "Slot"), ("children", .arr [])], .null]),
      ("opacity", .int 1), ("name", .str "Card")],
    .obj [("children", .str "none"), ("type", .str "TEXT"), ("opacity", .int 0)]]

/-- The trees in the exports. -/
def cardTrees : List SceneNode :=
  [.mk [("type", .str "FRAME"), ("name", .str "Card"), ("opacity", .int 1)]
      (some [.mk [("name", .str "Slot")] (some [])]),
    .mk [("opacity", .int 0), ("type", .str "TEXT"), ("children", .str "none")] none]

/-- A table in which frames have no default for their opacity and all others are transparent. -/
def cardTable : DefaultTable :=
  ⟨[("FRAME", .obj [("opacity", .null)]), ("GLOBAL", .obj [("opacity", .int 0), ("type", .str "FRAME")])]⟩

/-- The document of the card and the title is decoded from its JSON form by both readers. -/
theorem value_ofJson_build_card :
    (∀ n ∈ cardTrees, ∃ v : Json, v.Distinct ∧ (SceneNode.ofJson v).run.value = .ok n) ∧ cardTable.toJson.Distinct ∧
      DefaultTable.ofJson cardTable.toJson = .ok cardTable ∧
      (ofJson (build cardTable cardTrees).value.toJson).run.value = .ok (build cardTable cardTrees).value ∧
      (InputDocument.ofJson (build cardTable cardTrees).value.toJson).run.value =
        .ok ⟨SceneNode.compressAll cardTable cardTrees, some cardTable⟩ := by
  have htrees : ∀ n ∈ cardTrees, ∃ v : Json, v.Distinct ∧ (SceneNode.ofJson v).run.value = .ok n := by
    intro n hn
    rcases List.mem_pair.1 hn with rfl | rfl
    · exact ⟨cardExports[0], by decide, rfl⟩
    · exact ⟨cardExports[1], by decide, rfl⟩
  have hd : cardTable.toJson.Distinct := by decide
  have ht : DefaultTable.ofJson cardTable.toJson = .ok cardTable := rfl
  obtain ⟨hdocument, hinput⟩ := value_ofJson_build htrees hd ht
  exact ⟨htrees, hd, ht, hdocument, hinput⟩

end CompressedDocument

end SceneMarkup
