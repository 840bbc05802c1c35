import SceneMarkup.Proofs.Compress.Effective
import SceneMarkup.Proofs.Convert.Document

/-!
# Compressing a compressed document

A compressed document that is compressed again gets the table of the converter in place of the one that it carries. What an
attribute says stays the same exactly if the node has a value of its own, or the two tables agree on the default
(`Converter.effective?_recompressed_iff`); where they differ, the document says something else afterwards
(`Converter.effective?_recompressed_fading`).
-/

namespace SceneMarkup

namespace InputDocument

/-- The trees of a text have no repeated names, and `children` is where decoding leaves it. -/
theorem forall_trees_of_value_ofText {text : String} {input : InputDocument} (h : (ofText text).run.value = .ok input) :
    ∀ n ∈ input.trees, n.Distinct ∧ n.Coded := by
  cases hr : Json.read? text with
  | none =>
    simp only [ofText, hr] at h
    cases h
  | some v =>
    rw [ofText_of_read? hr] at h
    have hdistinct := Json.distinct_read? hr
    cases v with
    | arr items => exact forall_trees_of_value_ofJsons hdistinct (value_ofJson_arr h).1
    | obj fields =>
      rw [ofJson] at h
      split at h
      · rename_i items hl
        have hitems : (Json.arr items).Distinct := (Json.distinct_obj.1 hdistinct).2 _ (Named.mem_of_lookup hl)
        obtain ⟨_, -, h⟩ := Outcome.value_bind_eq_ok_iff.1 h
        obtain ⟨trees, htrees, he⟩ := Outcome.value_bind_eq_ok_iff.1 h
        obtain rfl := Except.ok.inj he
        exact forall_trees_of_value_ofJsons hitems htrees
      · cases h
    | _ => cases h

end InputDocument

namespace DefaultTable

/-- What is left of a scalar by one table says what the scalar says by another, exactly if there is a value, or the tables
agree on the default. -/
theorem sameValues_valueOr_kept_iff {t s : DefaultTable} {key : String} (ht : t.toJson.Distinct)
    (hkey : key ∉ conditionalAttributes) (type : String) (scope : GridScope) {value : Option Json}
    (hvalue : ∀ v, value = some v → v.isNull = true ∨ v.isScalar = true) :
    SameValues (t.valueOr type key (value.bind (t.kept type scope key))) (s.valueOr type key value) ↔
      (∃ v, value = some v ∧ v.isNull = false) ∨ SameValues (t.resolve? type key) (s.resolve? type key) := by
  by_cases hown : ∃ v, value = some v ∧ v.isNull = false
  · obtain ⟨v, rfl, hnull⟩ := hown
    have hv : v.isScalar = true := (hvalue v rfl).resolve_left (by simp [hnull])
    have hsame := valueOr_kept ht hkey type scope hvalue
    rw [valueOr_of_isScalar t type key hv] at hsame
    rw [valueOr_of_isScalar s type key hv]
    exact iff_of_true hsame (.inl ⟨v, rfl, hnull⟩)
  · rw [or_iff_right hown]
    -- Without a value there is nothing to be left, so both sides are the defaults.
    cases value with
    | none => rfl
    | some v =>
      cases v with
      | null =>
        rw [Option.bind_some, kept_null]
        rfl
      | _ => exact absurd ⟨_, rfl, rfl⟩ hown

end DefaultTable

/-- The node at a path in one of the trees of a document. -/
def CompressedDocument.node? (d : CompressedDocument) (i : Nat) (path : List Nat) : Option SceneNode :=
  d.trees[i]?.bind (SceneNode.at? · path)

namespace Converter

variable {c first second : Converter} {text written : String} {d : CompressedDocument}

/-- A compressed document that has been written is decoded into its trees, which are in the form of decoded ones, and its
table. -/
theorem value_ofText_written (hsections : ∀ s ∈ c.defaults.sections, s.2.fields?.isSome = true)
    (hd : (c.compressDocument text).run.value = .ok d) (hwritten : Json.read? written = some d.toJson) :
    (InputDocument.ofText written).run.value = .ok ⟨d.trees, some d.defaults⟩ := by
  obtain ⟨input, hi, htrees, htable⟩ := exists_of_value_compressDocument hd
  have hinput := InputDocument.forall_trees_of_value_ofText hi
  have hcoded : ∀ n ∈ d.trees, n.Coded := by
    intro n hn
    rw [htrees] at hn
    obtain ⟨m, hm, rfl⟩ := List.mem_map.1 hn
    exact SceneNode.coded_compressIn (hinput m hm).2 false
  rw [InputDocument.ofText_of_read? hwritten]
  exact InputDocument.value_ofJson_toJson hcoded (by rwa [htable])

/-- When a compressed document is compressed again, what an attribute says stays the same exactly if the node has a value of
its own or the tables of the two converters agree on the default. -/
theorem effective?_recompressed_iff (hfirst : ∀ s ∈ first.defaults.sections, s.2.fields?.isSome = true)
    (hsecond : second.defaults.toJson.Distinct) (hd : (first.compressDocument text).run.value = .ok d)
    (hwritten : Json.read? written = some d.toJson) :
    ∃ d', (second.compressDocument written).run.value = .ok d' ∧ d'.trees.length = d.trees.length ∧
      ∀ i path m, d.node? i path = some m → ∃ m', d'.node? i path = some m' ∧
        ∀ key, key ∉ conditionalAttributes → (∀ v, m.get? key = some v → v.isNull = true ∨ v.isScalar = true) →
          (SameValues (m'.effective? d'.defaults key) (m.effective? d.defaults key) ↔
            (∃ v, m.get? key = some v ∧ v.isNull = false) ∨
              SameValues (second.defaults.resolve? m.tag key) (first.defaults.resolve? m.tag key)) := by
  have hread := value_ofText_written hfirst hd hwritten
  have hdistinct := InputDocument.forall_trees_of_value_ofText hread
  obtain ⟨-, -, -, htable⟩ := exists_of_value_compressDocument hd
  refine ⟨_, Outcome.value_bind_eq_ok_iff.2 ⟨_, hread, rfl⟩, List.length_map .., ?_⟩
  intro i path m hm
  obtain ⟨n, hn, hpath⟩ := Option.bind_eq_some_iff.1 hm
  obtain ⟨inGrid, hm'⟩ := SceneNode.exists_at?_compressIn second.defaults false hpath
  have hnode : m.attributes.names.Nodup :=
    (Json.distinct_obj.1 ((hdistinct n (List.mem_of_getElem? hn)).1 m (SceneNode.mem_nodes_of_at? hpath))).1
  refine ⟨m.compressIn second.defaults inGrid, ?_, fun key hkey hscalar => ?_⟩
  · refine Option.bind_eq_some_iff.2 ⟨n.compressIn second.defaults false, ?_, hm'⟩
    exact (List.getElem?_map ..).trans (congrArg (Option.map _) hn)
  · unfold SceneNode.effective?
    rw [SceneNode.tag_compressIn hnode, SceneNode.get?_compressIn hnode, htable]
    exact DefaultTable.sameValues_valueOr_kept_iff hsecond hkey m.tag _ hscalar

/-- The converter with a table in which nothing but the opacity has a default. -/
def ofOpacity (opacity : Int) : Converter :=
  ⟨⟨[("GLOBAL", .obj [("opacity", .int opacity)])]⟩, .builtin, .default⟩

/-- The export of a frame that cannot be seen around a text that can. -/
def fadedExport : Json :=
  .arr [.obj [("type", .str "FRAME"), ("opacity", .int 0),
    ("children", .arr [.obj [("type", .str "TEXT"), ("opacity", .int 1)]])]]

/-- The text in the compressed document, in which the opacity of the frame has been left out. -/
def fadedText : SceneNode :=
  .mk [("type", .str "TEXT"), ("opacity", .int 1)] none

/-- The frame in the compressed document. -/
def fadedFrame : SceneNode :=
  .mk [("type", .str "FRAME")] (some [fadedText])

/-- The compressed document of the export. -/
def fadedDocument : CompressedDocument :=
  ⟨[fadedFrame], (ofOpacity 0).defaults, ⟨1, 1, 5, 4, CompressedDocument.documentNote⟩⟩

/-- The export is compressed into the document. -/
theorem value_compressDocument_fadedExport :
    ((ofOpacity 0).compressDocument fadedExport.compact).run.value = .ok fadedDocument := by
  have hraw : Json.read? fadedExport.compact = some fadedExport := Json.read?_compact (by decide) (by decide)
  refine Outcome.value_bind_eq_ok_iff.2 ⟨⟨[.mk [("type", .str "FRAME"), ("opacity", .int 0)] (some [fadedText])], none⟩, ?_, ?_⟩
  · rw [InputDocument.ofText_of_read? hraw]
    rfl
  · rfl

/-- The written document is read back. -/
theorem read?_fadedDocument : Json.read? fadedDocument.toJson.compact = some fadedDocument.toJson :=
  Json.read?_compact (by decide) (by decide)

/-- What the opacity of the text says stays the same when the document is compressed again with another table. -/
theorem effective?_recompressed_iff_fadedText :
    (∀ s ∈ (ofOpacity 0).defaults.sections, s.2.fields?.isSome = true) ∧ (ofOpacity 1).defaults.toJson.Distinct ∧
      ((ofOpacity 0).compressDocument fadedExport.compact).run.value = .ok fadedDocument ∧
      Json.read? fadedDocument.toJson.compact = some fadedDocument.toJson ∧
      ∃ d', ((ofOpacity 1).compressDocument fadedDocument.toJson.compact).run.value = .ok d' ∧
        ∃ m', d'.node? 0 [0] = some m' ∧ SameValues (m'.effective? d'.defaults "opacity") (some (.int 1)) := by
  have hfirst : ∀ s ∈ (ofOpacity 0).defaults.sections, s.2.fields?.isSome = true := by decide
  have hsecond : (ofOpacity 1).defaults.toJson.Distinct := by decide
  have hopacity : fadedText.get? "opacity" = some (.int 1) := rfl
  obtain ⟨d', hd', -, hnodes⟩ :=
    effective?_recompressed_iff hfirst hsecond value_compressDocument_fadedExport read?_fadedDocument
  obtain ⟨m', hm', hsame⟩ := hnodes 0 [0] fadedText rfl
  refine ⟨hfirst, hsecond, value_compressDocument_fadedExport, read?_fadedDocument, d', hd', m', hm', ?_⟩
  refine (hsame "opacity" (by decide) fun v hv => .inr ?_).2 (.inl ⟨_, hopacity, rfl⟩)
  rw [← Option.some.inj (hopacity.symm.trans hv)]
  rfl

/-- What the opacity of the frame says does not stay the same. -/
theorem effective?_recompressed_fading :
    DefaultTable.ofJson (ofOpacity 0).defaults.toJson = .ok (ofOpacity 0).defaults ∧
      DefaultTable.ofJson (ofOpacity 1).defaults.toJson = .ok (ofOpacity 1).defaults ∧
      ((ofOpacity 0).compressDocument fadedExport.compact).run.value = .ok fadedDocument ∧
      Json.read? fadedDocument.toJson.compact = some fadedDocument.toJson ∧
      ∃ d', ((ofOpacity 1).compressDocument fadedDocument.toJson.compact).run.value = .ok d' ∧
        ∃ m', fadedDocument.node? 0 [] = some fadedFrame ∧ d'.node? 0 [] = some m' ∧
          "opacity" ∉ conditionalAttributes ∧ fadedFrame.get? "opacity" = none ∧
          ¬SameValues (m'.effective? d'.defaults "opacity") (fadedFrame.effective? fadedDocument.defaults "opacity") := by
  have hfirst : ∀ s ∈ (ofOpacity 0).defaults.sections, s.2.fields?.isSome = true := by decide
  have hread := value_ofText_written hfirst value_compressDocument_fadedExport read?_fadedDocument
  refine ⟨rfl, rfl, value_compressDocument_fadedExport, read?_fadedDocument, _,
    Outcome.value_bind_eq_ok_iff.2 ⟨_, hread, rfl⟩, _, rfl, rfl, by decide, rfl, ?_⟩
  have hbefore : fadedFrame.effective? fadedDocument.defaults "opacity" = some (.int 0) := rfl
  have hdiffers : Json.sameValue (.int 1) (.int 0) = false := rfl
  rw [hbefore]
  intro hsame
  cases hsame with
  | some h => exact absurd h (by rw [hdiffers]; decide)

end Converter

end SceneMarkup
