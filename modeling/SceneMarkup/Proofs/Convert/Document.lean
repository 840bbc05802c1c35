import SceneMarkup.Convert.Converter
import SceneMarkup.Proofs.Compress.Exact
import SceneMarkup.Proofs.Json.ReadBack
import SceneMarkup.Proofs.Ui.Build

/-!
# Converting a compressed document

A compressed document is decoded into the trees and the table that it was made of (`InputDocument.value_ofJson_toJson`).
Converting it compresses the trees once more, which is more than nothing, but does not change their exact view; so it gives
the controls that the export gives from which the document was made (`Converter.value_convert_written`).
-/

namespace SceneMarkup

open Rule (Engine)

/-! ## Decoding -/

/-- No section is bad exactly if all of them are objects. -/
theorem DefaultTable.badSection?_eq_none_iff {sections : Fields} :
    badSection? sections = none ↔ ∀ s ∈ sections, s.2.fields?.isSome = true := by
  rw [badSection?, Option.map_eq_none_iff, List.find?_eq_none]
  refine forall₂_congr fun s _ => ?_
  cases s.2.fields? <;> simp

/-- A table is decoded from its JSON form if its sections are objects. -/
theorem DefaultTable.ofJson_toJson {t : DefaultTable} (h : ∀ s ∈ t.sections, s.2.fields?.isSome = true) :
    DefaultTable.ofJson t.toJson = .ok t := by
  simp only [DefaultTable.ofJson, toJson, badSection?_eq_none_iff.2 h]

/-- A table is decoded exactly from its JSON form, if its sections are objects. -/
theorem DefaultTable.ofJson_eq_ok_iff {v : Json} {t : DefaultTable} :
    ofJson v = .ok t ↔ v = t.toJson ∧ ∀ s ∈ t.sections, s.2.fields?.isSome = true := by
  constructor
  · intro h
    cases v with
    | obj sections =>
      cases hbad : badSection? sections with
      | some name => simp [ofJson, hbad] at h
      | none =>
        simp only [ofJson, hbad] at h
        obtain rfl := Except.ok.inj h
        exact ⟨rfl, badSection?_eq_none_iff.1 hbad⟩
    | _ => cases h
  · rintro ⟨rfl, h⟩
    exact ofJson_toJson h

namespace InputDocument

variable {text : String} {v : Json}

/-- A text is decoded as its value is. -/
theorem ofText_of_read? (h : Json.read? text = some v) : ofText text = ofJson v := by
  simp only [ofText, h]

/-- A list is decoded into the trees of its items, without a table. -/
theorem value_ofJson_arr {items : List Json} {input : InputDocument}
    (h : (ofJson (.arr items)).run.value = .ok input) :
    (SceneNode.ofJsons items).run.value = .ok input.trees ∧ input.defaults? = none := by
  obtain ⟨trees, ht, he⟩ := Outcome.value_bind_eq_ok_iff.1 h
  obtain rfl := Except.ok.inj he
  exact ⟨ht, rfl⟩

/-- The trees of a list have no repeated names, and `children` is where decoding leaves it. -/
theorem forall_trees_of_value_ofJsons {items : List Json} {trees : List SceneNode} (hd : (Json.arr items).Distinct)
    (h : (SceneNode.ofJsons items).run.value = .ok trees) : ∀ n ∈ trees, n.Distinct ∧ n.Coded := by
  intro n hn
  have hall := SceneNode.value_ofJsons_eq_ok_iff.1 h
  have hmem : some n ∈ items.map fun v => (SceneNode.decode v).value := hall ▸ List.mem_map_of_mem hn
  obtain ⟨v, hv, hdec⟩ := List.mem_map.1 hmem
  have hdv := Json.distinct_arr.1 hd v hv
  exact ⟨SceneNode.distinct_of_decode hdv hdec, SceneNode.coded_of_decode hdv hdec⟩

/-- A compressed document is decoded into its trees and its table. -/
theorem value_ofJson_toJson {d : CompressedDocument} (hc : ∀ n ∈ d.trees, n.Coded)
    (ht : ∀ s ∈ d.defaults.sections, s.2.fields?.isSome = true) :
    (ofJson d.toJson).run.value = .ok ⟨d.trees, some d.defaults⟩ := by
  have htrees := SceneNode.value_ofJsons_writtenAll hc
  have htable : carriedTable [("compressed_data", .arr (SceneNode.writtenAll d.trees)),
      ("defaults", d.defaults.toJson), ("metadata", d.metadata.toJson)] = .ok (some d.defaults) := by
    simp [carriedTable, List.lookup_cons, DefaultTable.ofJson_toJson ht, Except.mapError, Except.map]
  refine Outcome.value_bind_eq_ok_iff.2 ⟨some d.defaults, ?_, Outcome.value_bind_eq_ok_iff.2 ⟨d.trees, htrees, rfl⟩⟩
  rw [htable]
  rfl

end InputDocument

/-! ## Controls -/

namespace SceneNode

variable {g : Engine} {o : MarkupOptions} {a b : SceneNode}

/-- Trees with the same exact view become the same control. -/
theorem value_toControl_of_view (h : a.view true false = b.view true false) (index : Nat) :
    (a.toControl g o index).value = (b.toControl g o index).value := by
  have hr := (view_eq_view_iff.1 h).1
  have htree : (a.build g true).value = (b.build g true).value :=
    value_buildIn_of_view (.inl rfl) h (.refl true _) true
  unfold toControl className
  simp only [Logged.value_bind, Logged.value_pure, htree, name?_of_reading hr, number?_width_of_reading hr,
    number?_height_of_reading hr]

/-- Lists of trees with the same exact views become the same controls. -/
theorem value_toControls_of_views {as bs : List SceneNode} (h : as.map (view true false) = bs.map (view true false))
    (index : Nat) : (toControls g o index as).value = (toControls g o index bs).value := by
  induction as generalizing bs index with
  | nil => rw [List.map_eq_nil_iff.1 h.symm]
  | cons a as ih =>
    obtain ⟨b, bs, rfl, hb, hbs⟩ := List.map_eq_cons_iff.1 h.symm
    rw [toControls, toControls]
    simp only [Logged.value_bind, Logged.value_pure, value_toControl_of_view hb.symm, ih hbs.symm]

end SceneNode

namespace Converter

variable {c : Converter}

/-- The controls of some trees are those of their compressed forms. -/
theorem value_convertTrees (c : Converter) (t : DefaultTable) (trees : List SceneNode) :
    (c.convertTrees t trees).value = (SceneNode.toControls c.engine c.options 0 (SceneNode.compressAll t trees)).value :=
  rfl

/-- The controls of a text that is decoded. -/
theorem value_convert {text : String} {input : InputDocument} (h : (InputDocument.ofText text).run.value = .ok input) :
    (c.convert text).run.value = .ok (c.convertTrees (input.defaults?.getD c.defaults) input.trees).value :=
  Outcome.value_bind_eq_ok_iff.2 ⟨input, h, rfl⟩

/-- A compressed document holds the compressed trees of its text, and the table of the converter. -/
theorem exists_of_value_compressDocument {text : String} {d : CompressedDocument}
    (h : (c.compressDocument text).run.value = .ok d) :
    ∃ input : InputDocument, (InputDocument.ofText text).run.value = .ok input ∧
      d.trees = SceneNode.compressAll c.defaults input.trees ∧ d.defaults = c.defaults := by
  obtain ⟨input, hi, hd⟩ := Outcome.value_bind_eq_ok_iff.1 h
  obtain rfl := Except.ok.inj hd
  exact ⟨input, hi, rfl, rfl⟩

/-- The compressed document of an export is converted into the controls of the export. -/
theorem value_convert_written {raw written : String} {items : List Json} {d : CompressedDocument}
    (hc : c.defaults = .builtin) (hraw : Json.read? raw = some (.arr items))
    (hd : (c.compressDocument raw).run.value = .ok d) (hwritten : Json.read? written = some d.toJson) :
    ∃ controls, (c.convert raw).run.value = .ok controls ∧ (c.convert written).run.value = .ok controls := by
  obtain ⟨input, hi, htrees, htable⟩ := exists_of_value_compressDocument hd
  have hi' := hi
  rw [InputDocument.ofText_of_read? hraw] at hi'
  obtain ⟨hitems, hnone⟩ := InputDocument.value_ofJson_arr hi'
  have hinput := InputDocument.forall_trees_of_value_ofJsons (Json.distinct_read? hraw) hitems
  rw [hc] at htrees htable
  have hcoded : ∀ n ∈ d.trees, n.Coded := by
    intro n hn
    rw [htrees] at hn
    obtain ⟨m, hm, rfl⟩ := List.mem_map.1 hn
    exact SceneNode.coded_compressIn (hinput m hm).2 false
  have hagain : (InputDocument.ofText written).run.value = .ok ⟨d.trees, some d.defaults⟩ := by
    rw [InputDocument.ofText_of_read? hwritten]
    exact InputDocument.value_ofJson_toJson hcoded (by rw [htable]; decide)
  refine ⟨_, value_convert hi, ?_⟩
  rw [value_convert hagain, value_convertTrees, value_convertTrees, hnone, Option.getD_none, Option.getD_some, htable, hc,
    htrees]
  refine congrArg Except.ok (SceneNode.value_toControls_of_views ?_ 0)
  simp only [SceneNode.compressAll, List.map_map]
  exact List.map_congr_left fun n hn => SceneNode.view_compressIn_again (hinput n hn).1 false

/-- The export of a frame around a shape, with an overlay background that has no colour. -/
def overlayExport : Json :=
  .arr [.obj [("type", .str "FRAME"), ("children", .arr [.obj [("type", .str "RECTANGLE"), ("width", .int 40)]]),
    ("name", .str "Modal"), ("overlayBackground", .obj [("type", .str "NONE"), ("color", .null)])]]

/-- The trees in the export. -/
def overlayTrees : List SceneNode :=
  [.mk [("type", .str "FRAME"), ("overlayBackground", .obj [("type", .str "NONE"), ("color", .null)]),
      ("name", .str "Modal")]
    (some [.mk [("type", .str "RECTANGLE"), ("width", .int 40)] none])]

/-- The compressed document of the export. -/
def overlayDocument : CompressedDocument :=
  (CompressedDocument.build .builtin overlayTrees).value

/-- The document of the frame is converted into the control of the frame, although its overlay is compressed once more. -/
theorem value_convert_written_overlay :
    builtin.defaults = .builtin ∧ Json.read? overlayExport.compact = some overlayExport ∧
      (builtin.compressDocument overlayExport.compact).run.value = .ok overlayDocument ∧
      Json.read? overlayDocument.toJson.compact = some overlayDocument.toJson ∧
      ∃ controls, (builtin.convert overlayExport.compact).run.value = .ok controls ∧
        (builtin.convert overlayDocument.toJson.compact).run.value = .ok controls := by
  have hraw : Json.read? overlayExport.compact = some overlayExport := Json.read?_compact (by decide) (by decide)
  have hdocument : (builtin.compressDocument overlayExport.compact).run.value = .ok overlayDocument := by
    refine Outcome.value_bind_eq_ok_iff.2 ⟨⟨overlayTrees, none⟩, ?_, rfl⟩
    rw [InputDocument.ofText_of_read? hraw]
    rfl
  have hwritten : Json.read? overlayDocument.toJson.compact = some overlayDocument.toJson :=
    Json.read?_compact (by decide) (by decide)
  exact ⟨rfl, hraw, hdocument, hwritten, value_convert_written rfl hraw hdocument hwritten⟩

end Converter

end SceneMarkup
