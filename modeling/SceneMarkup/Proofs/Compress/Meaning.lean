import SceneMarkup.Proofs.Compress.Reading
import SceneMarkup.Proofs.Rule.Builtin
import SceneMarkup.Proofs.Scene.Codec
import SceneMarkup.Proofs.Ui.Build

/-!
# Compression and the interface tree

With the defaults of the design tool a compressed tree has the view of the tree that it was made of (`view_compressIn`). With
the built-in rules both therefore have the same interface tree, in every place that they may stand in.
-/

namespace SceneMarkup

open Rule (Engine)

namespace SceneNode

variable {n : SceneNode} {v : Json}

/-- A compressed tree has the view of the tree, unless the height of lines of a text in it is an empty list. -/
theorem view_compressIn (hd : n.Distinct) (hl : ∀ m ∈ n.nodes, m.lineHeightField? "value" ≠ some (.arr []))
    (inGrid : Bool) : (n.compressIn .builtin inGrid).view false inGrid = n.view false inGrid := by
  induction n using byParts generalizing inGrid with
  | node n ih =>
    rw [distinct_iff] at hd
    obtain ⟨hline, hlines⟩ := forall_nodes_iff.1 hl
    have hgrid : (n.compressIn .builtin inGrid).isGrid = n.isGrid :=
      isGrid_compressIn (Json.distinct_obj.1 hd.1).1 builtin_no_grid
    rw [view_eq_view_iff, children_compressIn, hgrid, List.map_map]
    refine ⟨reading_compressIn hd.1 hline, List.map_congr_left fun c hc => ?_⟩
    exact ih c hc (hd.2 c hc) (hlines c hc) n.isGrid

/-- The interface tree of a compressed tree is that of the tree, unless the height of lines of a text in it is an empty
list. -/
theorem value_buildIn_compress (hv : v.Distinct) (hn : (ofJson v).run.value = .ok n)
    (hl : ∀ m ∈ n.nodes, m.lineHeightField? "value" ≠ some (.arr [])) (isRoot : Bool) (c : BuildContext) :
    ((n.compress .builtin).buildIn .builtin isRoot c).value = (n.buildIn .builtin isRoot c).value := by
  have hd : n.Distinct := distinct_of_decode hv (value_ofJson_eq_ok_iff.1 hn)
  exact value_buildIn_of_view (.inr Engine.builtin_discreet) (view_compressIn hd hl false) (.refl false c) isRoot

/-- A column with a white background around a text of fixed height, as it is exported. -/
def titleColumn : Json :=
  .obj [("type", .str "FRAME"), ("children", .arr [.obj [("type", .str "TEXT"), ("characters", .str "Title"),
      ("fontSize", .int 12), ("lineHeight", .obj [("unit", .str "PIXELS"), ("value", .int 16)])]]),
    ("layoutMode", .str "VERTICAL"), ("itemSpacing", .int 0), ("opacity", .int 1), ("parent", .null),
    ("fills", .arr [.obj [("type", .str "SOLID"), ("visible", .bool true),
      ("color", .obj [("r", .int 1), ("g", .int 1), ("b", .int 1)])]])]

/-- The node that the column stands for. -/
def titleColumnNode : SceneNode :=
  .mk [("type", .str "FRAME"),
      ("fills", .arr [.obj [("type", .str "SOLID"), ("visible", .bool true),
        ("color", .obj [("r", .int 1), ("g", .int 1), ("b", .int 1)])]]),
      ("layoutMode", .str "VERTICAL"), ("itemSpacing", .int 0), ("opacity", .int 1), ("parent", .null)]
    (some [.mk [("type", .str "TEXT"), ("characters", .str "Title"), ("fontSize", .int 12),
      ("lineHeight", .obj [("unit", .str "PIXELS"), ("value", .int 16)])] none])

/-- The column is compressed without a change of its interface tree. -/
theorem value_buildIn_compress_titleColumn :
    titleColumn.Distinct ∧ (ofJson titleColumn).run.value = .ok titleColumnNode ∧
      (∀ m ∈ titleColumnNode.nodes, m.lineHeightField? "value" ≠ some (.arr [])) ∧
      ((titleColumnNode.compress .builtin).buildIn .builtin true .root).value =
        (titleColumnNode.buildIn .builtin true .root).value := by
  have hv : titleColumn.Distinct := by decide
  have hn : (ofJson titleColumn).run.value = .ok titleColumnNode := value_ofJson_eq_ok_iff.2 rfl
  have hl : ∀ m ∈ titleColumnNode.nodes, m.lineHeightField? "value" ≠ some (.arr []) := by
    simp [titleColumnNode, nodes, nodesOfAll, lineHeightField?, get?, attributes, List.lookup_cons, Json.field?, Json.fields?,
      Json.int]
  exact ⟨hv, hn, hl, value_buildIn_compress hv hn hl true .root⟩

end SceneNode

end SceneMarkup
