import SceneMarkup.Proofs.Convert.Document
import SceneMarkup.Proofs.Ui.Reordered

/-!
# Conversion and the order of fields

Exports that are the same up to the order of fields become the same control (`SceneNode.value_toControl_of_reordered`): they
are decoded and compressed into trees that are the same up to this order, and these have the same exact view.
-/

namespace SceneMarkup

open Rule (Engine)

namespace SceneNode

/-- Exports that are the same up to the order of fields are decoded and compressed into trees that are the same up to this
order, and that become the same interface tree in every place and the same control. -/
theorem value_toControl_of_reordered {fields others : Fields} (hd : (Json.obj fields).Distinct)
    (h : (Json.obj fields).Reordered (.obj others)) (t : DefaultTable) (g : Engine) (o : MarkupOptions) :
    ∃ a b, (ofJson (.obj fields)).run.value = .ok a ∧ (ofJson (.obj others)).run.value = .ok b ∧
      (a.compress t).Reordered (b.compress t) ∧
      (∀ isRoot c, ((a.compress t).buildIn g isRoot c).value = ((b.compress t).buildIn g isRoot c).value) ∧
      ∀ index, ((a.compress t).toControl g o index).value = ((b.compress t).toControl g o index).value := by
  have hdecoded := decode_reordered _ hd _ h
  obtain ⟨a, ha⟩ : ∃ a, (decode (.obj fields)).value = some a := ⟨_, value_decode_obj fields⟩
  obtain ⟨b, hb⟩ : ∃ b, (decode (.obj others)).value = some b := ⟨_, value_decode_obj others⟩
  rw [ha, hb] at hdecoded
  have hab : a.Reordered b := by
    cases hdecoded with
    | some hab => exact hab
  have hcompressed : (a.compress t).Reordered (b.compress t) :=
    compressIn_reordered t (distinct_of_decode hd ha) hab false
  have hview := view_reordered true hcompressed false
  refine ⟨a, b, value_ofJson_eq_ok_iff.2 ha, value_ofJson_eq_ok_iff.2 hb, hcompressed, fun isRoot c => ?_,
    value_toControl_of_view hview⟩
  exact value_buildIn_of_view (.inl rfl) hview (.refl true c) isRoot

/-- The export of a white card with a title in the default font. -/
def cardExport : Fields :=
  [("type", .str "FRAME"), ("children", .arr [.obj [("type", .str "TEXT"), ("characters", .str "Title"),
      ("fontName", .obj [("family", .str "Roboto"), ("style", .str "Regular")])]]),
    ("fills", .arr [.obj [("type", .str "SOLID"), ("color", .obj [("r", .int 1), ("g", .int 1), ("b", .int 1)])]]),
    ("layoutMode", .str "VERTICAL"), ("name", .str "Card")]

/-- The export of the card in which fields stand in another order at every depth. -/
def shuffledCardExport : Fields :=
  [("name", .str "Card"), ("layoutMode", .str "VERTICAL"),
    ("children", .arr [.obj [("fontName", .obj [("style", .str "Regular"), ("family", .str "Roboto")]),
      ("characters", .str "Title"), ("type", .str "TEXT")]]),
    ("type", .str "FRAME"),
    ("fills", .arr [.obj [("color", .obj [("b", .int 1), ("g", .int 1), ("r", .int 1)]), ("type", .str "SOLID")]])]

/-- The two exports of the card become the same control. -/
theorem value_toControl_of_reordered_card :
    (Json.obj cardExport).Distinct ∧ (Json.obj cardExport).Reordered (.obj shuffledCardExport) ∧
      ∃ a b, (ofJson (.obj cardExport)).run.value = .ok a ∧ (ofJson (.obj shuffledCardExport)).run.value = .ok b ∧
        (a.compress .builtin).Reordered (b.compress .builtin) ∧
        ((a.compress .builtin).toControl .builtin .default 0).value =
          ((b.compress .builtin).toControl .builtin .default 0).value := by
  have hd : (Json.obj cardExport).Distinct := by decide
  have h : (Json.obj cardExport).Reordered (.obj shuffledCardExport) :=
    (Json.reordered_iff_sameBy hd (by decide)).2 (by decide)
  obtain ⟨a, b, ha, hb, hcompressed, -, hcontrol⟩ := value_toControl_of_reordered hd h .builtin .builtin .default
  exact ⟨hd, h, a, b, ha, hb, hcompressed, hcontrol 0⟩

end SceneNode

end SceneMarkup
