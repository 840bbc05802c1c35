import Mathlib
import SceneMarkup.Compress.Metrics
import SceneMarkup.Proofs.Compress.Shape
import SceneMarkup.Proofs.NameMap
import SceneMarkup.Proofs.Scene.Codec

/-!
# The numbers of a compression balance

A tally has every name once, with the number of its occurrences (`Tally.counts_ofNames`). What a trimmed tree has lost is
lost node by node (`SceneNode.forall₂_nodesOfAll`), so the numbers of a compression balance
(`CompressionMetrics.of_compressAll`): the attributes that were left out are those that there were less those that there are.
-/

namespace SceneMarkup

/-! ## Tallies -/

namespace Tally

variable {t : Tally} {names : List String}

/-- The tally counts the names: it has each of them once, with the number of its occurrences. -/
structure Counts (t : Tally) (names : List String) : Prop where
  sorted : NameMap.Sorted t
  get? : ∀ name, NameMap.get? t name = if names.count name = 0 then none else some (names.count name)
  sum : (t.map Prod.snd).sum = names.length

/-- One more name is counted. -/
theorem Counts.add (h : t.Counts names) (name : String) : (t.add name).Counts (names ++ [name]) := by
  have hcount : (NameMap.get? t name).getD 0 = names.count name := by
    rw [h.get?]
    split
    · rename_i hzero
      exact hzero.symm
    · rfl
  refine ⟨h.sorted.put _ _, ?_, ?_⟩
  · intro other
    unfold Tally.add
    rw [NameMap.get?_put, hcount, h.get?, List.count_append]
    by_cases hother : other = name
    · subst hother
      simp
    · have hne : [name].count other = 0 := List.count_eq_zero.2 (by simpa using hother)
      rw [if_neg hother, hne, Nat.add_zero]
  · have hsum := NameMap.sum_put h.sorted name (names.count name + 1)
    unfold Tally.add
    rw [hcount] at hsum ⊢
    rw [List.length_append, List.length_singleton]
    have hlength := h.sum
    omega

/-- The tally of a list counts its names. -/
theorem counts_ofNames (names : List String) : (ofNames names).Counts names := by
  have hfold : ∀ (rest seen : List String) (t : Tally), t.Counts seen → (rest.foldl Tally.add t).Counts (seen ++ rest) := by
    intro rest
    induction rest with
    | nil =>
      intro seen t h
      simpa using h
    | cons name rest ih =>
      intro seen t h
      have hnext := ih (seen ++ [name]) (t.add name) (h.add name)
      rwa [List.append_assoc] at hnext
  exact hfold names [] [] ⟨.nil, fun name => rfl, rfl⟩

end Tally

/-! ## Node by node -/

/-- The names that are missing in some of the fields are as many as the fields that are missing. -/
theorem Fields.length_missingIn {fs gs : Fields} (hd : fs.names.Nodup) (h : gs.names.Sublist fs.names) :
    (fs.missingIn gs).length + gs.length = fs.length := by
  have hmissing : fs.missingIn gs = fs.names.diff gs.names := by
    rw [hd.sdiff_eq_filter, missingIn]
    refine List.filter_congr fun name _ => ?_
    rw [Bool.eq_iff_iff, decide_eq_true_iff, Option.isNone_iff_eq_none, Named.lookup_eq_none_iff]
  have hperm : (gs.names ++ fs.names.diff gs.names).Perm fs.names :=
    List.subperm_append_diff_self_of_count_le fun name _ => h.count_le name
  have hlength := hperm.length_eq
  rw [List.length_append, List.length_map, List.length_map] at hlength
  rw [hmissing]
  omega

/-- A name is missing at most once: if the first fields have it and the second ones lack it. -/
theorem Fields.count_missingIn {fs : Fields} (hd : fs.names.Nodup) (gs : Fields) (name : String) :
    (fs.missingIn gs).count name = if (fs.lookup name).isSome && (gs.lookup name).isNone then 1 else 0 := by
  have hmem : name ∈ fs.missingIn gs ↔ ((fs.lookup name).isSome && (gs.lookup name).isNone) = true := by
    rw [missingIn, List.mem_filter, Bool.and_eq_true, ← Option.ne_none_iff_isSome, ne_eq, Named.lookup_eq_none_iff, not_not]
  have hnodup : (fs.missingIn gs).Nodup := hd.filter _
  rw [hnodup.count]
  simp only [hmem]

namespace SceneNode

variable {n m : SceneNode} {cs ds : List SceneNode}

/-- The attributes that a node itself counts: its own, and one for its list of children. -/
def ownCount (n : SceneNode) : Nat :=
  n.attributes.length + if n.children?.isSome then 1 else 0

/-- The nodes of a tree by its parts. -/
theorem nodes_eq (n : SceneNode) : n.nodes = n :: nodesOfAll n.children := by
  obtain ⟨attributes, children⟩ := n
  cases children <;> rw [nodes] <;> rfl

/-- The names that were left out of a tree by its parts. -/
theorem removedNames_eq (n m : SceneNode) :
    n.removedNames m = n.attributes.missingIn m.attributes ++ removedNamesAll n.children m.children := by
  obtain ⟨fs, cs⟩ := n
  obtain ⟨gs, ds⟩ := m
  cases cs with
  | none =>
    rw [removedNames]
    exact (List.append_nil _).symm
  | some cs =>
    cases ds with
    | some ds =>
      rw [removedNames]
      rfl
    | none =>
      rw [removedNames]
      cases cs <;> simp [children, children?, removedNamesAll, attributes]

/-- The attributes in a tree by its parts. -/
theorem attributeCount_eq (n : SceneNode) : n.attributeCount = n.ownCount + attributeCounts n.children := by
  obtain ⟨attributes, children⟩ := n
  cases children <;> rw [attributeCount] <;> rfl

/-- The attributes in some trees are counted node by node. -/
theorem attributeCounts_eq (trees : List SceneNode) : attributeCounts trees = ((nodesOfAll trees).map ownCount).sum := by
  have hlist : ∀ cs : List SceneNode, (∀ c ∈ cs, c.attributeCount = (c.nodes.map ownCount).sum) →
      attributeCounts cs = ((nodesOfAll cs).map ownCount).sum := by
    intro cs h
    induction cs with
    | nil => rfl
    | cons c cs ih =>
      rw [List.forall_mem_cons] at h
      rw [attributeCounts, nodesOfAll, List.map_append, List.sum_append, h.1, ih h.2]
  have htree : ∀ n : SceneNode, n.attributeCount = (n.nodes.map ownCount).sum := by
    intro n
    induction n using byParts with
    | node n ih => rw [attributeCount_eq, nodes_eq, List.map_cons, List.sum_cons, hlist n.children ih]
  exact hlist trees fun c _ => htree c

/-- The children of a trimmed node are the trimmed children. -/
theorem TrimsTo.forall₂_children (h : n.TrimsTo m) : List.Forall₂ TrimsTo n.children m.children := by
  obtain ⟨-, -, hchildren⟩ := h
  unfold children
  generalize n.children? = cs, m.children? = ds at hchildren
  cases hchildren with
  | none => exact .nil
  | some hcs => exact hcs

/-- The attributes that a trimmed node has lost. -/
def lostNames (p : SceneNode × SceneNode) : List String :=
  p.1.attributes.missingIn p.2.attributes

/-- A trimmed node counts as many attributes of its own as it has not lost. -/
theorem TrimsTo.length_lostNames (h : n.TrimsTo m) (hd : n.attributes.names.Nodup) :
    (lostNames (n, m)).length + m.ownCount = n.ownCount := by
  obtain ⟨hnames, -, hchildren⟩ := h
  have hlost : (lostNames (n, m)).length + m.attributes.length = n.attributes.length := Fields.length_missingIn hd hnames
  have hlist : m.children?.isSome = n.children?.isSome := by
    generalize n.children? = cs, m.children? = ds at hchildren
    cases hchildren <;> rfl
  unfold ownCount
  rw [hlist]
  omega

/-- The nodes of trimmed trees are the trimmed nodes, and what the trees have lost is lost node by node. -/
theorem forall₂_nodesOfAll {trees others : List SceneNode} (h : List.Forall₂ TrimsTo trees others) :
    List.Forall₂ TrimsTo (nodesOfAll trees) (nodesOfAll others) ∧
      removedNamesAll trees others = ((nodesOfAll trees).zip (nodesOfAll others)).flatMap lostNames := by
  have hlist : ∀ {cs ds : List SceneNode}, List.Forall₂ TrimsTo cs ds →
      (∀ c ∈ cs, ∀ d, c.TrimsTo d → List.Forall₂ TrimsTo c.nodes d.nodes ∧
        c.removedNames d = (c.nodes.zip d.nodes).flatMap lostNames) →
      List.Forall₂ TrimsTo (nodesOfAll cs) (nodesOfAll ds) ∧
        removedNamesAll cs ds = ((nodesOfAll cs).zip (nodesOfAll ds)).flatMap lostNames := by
    intro cs ds hcs hnodes
    induction hcs with
    | nil => exact ⟨.nil, rfl⟩
    | cons hc hcs ih =>
      rw [List.forall_mem_cons] at hnodes
      obtain ⟨hfirst, hlost⟩ := hnodes.1 _ hc
      obtain ⟨hrest, hlostRest⟩ := ih hnodes.2
      rw [nodesOfAll, nodesOfAll, removedNamesAll, List.zip_append hfirst.length_eq, List.flatMap_append, hlost, hlostRest]
      exact ⟨List.rel_append hfirst hrest, rfl⟩
  have htree : ∀ n m : SceneNode, n.TrimsTo m → List.Forall₂ TrimsTo n.nodes m.nodes ∧
      n.removedNames m = (n.nodes.zip m.nodes).flatMap lostNames := by
    intro n
    induction n using byParts with
    | node n ih =>
      intro m h
      obtain ⟨hbelow, hlost⟩ := hlist h.forall₂_children ih
      rw [nodes_eq, nodes_eq, removedNames_eq, hlost]
      exact ⟨.cons h hbelow, rfl⟩
  exact hlist h fun c _ => htree c

/-- Trimmed nodes count as many attributes as they have not lost. -/
theorem length_lostNames {ns ms : List SceneNode} (h : List.Forall₂ TrimsTo ns ms)
    (hd : ∀ n ∈ ns, n.attributes.names.Nodup) :
    ((ns.zip ms).flatMap lostNames).length + (ms.map ownCount).sum = (ns.map ownCount).sum := by
  induction h with
  | nil => rfl
  | cons hn hrest ih =>
    rw [List.forall_mem_cons] at hd
    have hfirst := hn.length_lostNames hd.1
    have hbelow := ih hd.2
    simp only [List.zip_cons_cons, List.flatMap_cons, List.length_append, List.map_cons, List.sum_cons]
    omega

/-- The node has an attribute that its counterpart lacks. -/
def loses (name : String) (p : SceneNode × SceneNode) : Bool :=
  (p.1.get? name).isSome && (p.2.get? name).isNone

/-- A name is lost once by each node that loses it. -/
theorem count_lostNames {ns : List SceneNode} (hd : ∀ n ∈ ns, n.attributes.names.Nodup) (ms : List SceneNode)
    (name : String) : ((ns.zip ms).flatMap lostNames).count name = (ns.zip ms).countP (loses name) := by
  induction ns generalizing ms with
  | nil => rfl
  | cons n ns ih =>
    cases ms with
    | nil => rfl
    | cons m ms =>
      rw [List.forall_mem_cons] at hd
      have hfirst : (lostNames (n, m)).count name = if loses name (n, m) then 1 else 0 :=
        Fields.count_missingIn hd.1 _ name
      rw [List.zip_cons_cons, List.flatMap_cons, List.count_append, List.countP_cons, ih hd.2, hfirst, Nat.add_comm]

end SceneNode

namespace CompressionMetrics

open SceneNode

/-- The numbers of the compression of some trees into others balance: as many trees as before, and no more attributes; the
numbers of the names that were left out are those of the nodes that have lost them, and together the attributes that there
are less; so the part that was left out is that of as many attributes. -/
structure Balanced (before after : List SceneNode) (m : CompressionMetrics) : Prop where
  trees : m.treesAfter = m.treesBefore
  attributes : m.attributesAfter ≤ m.attributesBefore
  names : (Named.names m.removed).Nodup
  removed : ∀ name, m.removed.get? name =
    let count := ((nodesOfAll before).zip (nodesOfAll after)).countP (loses name)
    if count = 0 then none else some count
  sum : (m.removed.map Prod.snd).sum = m.attributesBefore - m.attributesAfter
  ratio : m.ratio = if m.attributesBefore = 0 then 0
    else Float.ofNat (m.removed.map Prod.snd).sum / Float.ofNat m.attributesBefore

/-- The numbers of trees and trimmed ones balance. -/
theorem balanced_of {trees others : List SceneNode} (h : List.Forall₂ TrimsTo trees others)
    (hd : ∀ n ∈ nodesOfAll trees, n.attributes.names.Nodup) : (of trees others).Balanced trees others := by
  obtain ⟨hnodes, hlost⟩ := forall₂_nodesOfAll h
  have hcounts : (of trees others).removed.Counts (removedNamesAll trees others) := Tally.counts_ofNames _
  have hlength : (removedNamesAll trees others).length + attributeCounts others = attributeCounts trees := by
    rw [hlost, attributeCounts_eq, attributeCounts_eq]
    exact length_lostNames hnodes hd
  have hsum : ((of trees others).removed.map Prod.snd).sum = attributeCounts trees - attributeCounts others := by
    rw [hcounts.sum]
    omega
  refine ⟨h.length_eq.symm, ?_, ?_, ?_, hsum, ?_⟩
  · change attributeCounts others ≤ attributeCounts trees
    omega
  · exact hcounts.sorted.imp fun hlt => ne_of_lt hlt
  · intro name
    rw [hcounts.get?, hlost, count_lostNames hd]
  · rw [hsum]
    rfl

/-- The numbers of the compression of decoded trees balance, and its nodes are the nodes that there were, each trimmed. -/
theorem of_compressAll {trees : List SceneNode} (t : DefaultTable)
    (htrees : ∀ n ∈ trees, ∃ v : Json, v.Distinct ∧ (SceneNode.ofJson v).run.value = .ok n) :
    (of trees (compressAll t trees)).Balanced trees (compressAll t trees) ∧
      List.Forall₂ TrimsTo (nodesOfAll trees) (nodesOfAll (compressAll t trees)) := by
  have htrims : List.Forall₂ TrimsTo trees (compressAll t trees) :=
    List.forall₂_map_right_iff.2 (List.forall₂_same.2 fun n _ => trimsTo_compressIn t n false)
  refine ⟨balanced_of htrims ?_, (forall₂_nodesOfAll htrims).1⟩
  intro m hm
  obtain ⟨n, hn, hmn⟩ := mem_nodesOfAll.1 hm
  obtain ⟨v, hv, hdecoded⟩ := htrees n hn
  have hdistinct : n.Distinct := distinct_of_decode hv (value_ofJson_eq_ok_iff.1 hdecoded)
  exact (Json.distinct_obj.1 (hdistinct m hmn)).1

/-- A table in which everything is opaque and shown. -/
def opaqueTable : DefaultTable :=
  ⟨[("GLOBAL", .obj [("opacity", .int 1), ("visible", .bool true)])]⟩

/-- The exports of a panel with a title and a slot without type, and of a rectangle. -/
def panelExports : List Json :=
  [.obj [("type", .str "FRAME"), ("opacity", .int 1),
      ("children", .arr [.obj [("type", .str "TEXT"), ("visible", .bool true), ("opacity", .int 1)],
        .obj [("opacity", .int 1)]]),
      ("expanded", .bool true)],
    .obj [("type", .str "RECTANGLE"), ("opacity", .int 1)]]

/-- The trees in the exports. -/
def panelTrees : List SceneNode :=
  [.mk [("type", .str "FRAME"), ("opacity", .int 1), ("expanded", .bool true)]
      (some [.mk [("type", .str "TEXT"), ("visible", .bool true), ("opacity", .int 1)] none,
        .mk [("opacity", .int 1)] none]),
    .mk [("type", .str "RECTANGLE"), ("opacity", .int 1)] none]

/-- Five of ten attributes are left out, three of them opacities. -/
theorem of_compressAll_panel :
    (∀ n ∈ panelTrees, ∃ v : Json, v.Distinct ∧ (SceneNode.ofJson v).run.value = .ok n) ∧
      (of panelTrees (compressAll opaqueTable panelTrees)).attributesBefore = 10 ∧
      ((of panelTrees (compressAll opaqueTable panelTrees)).removed.map Prod.snd).sum = 5 ∧
      (of panelTrees (compressAll opaqueTable panelTrees)).removed.get? "opacity" = some 3 := by
  have htrees : ∀ n ∈ panelTrees, ∃ v : Json, v.Distinct ∧ (SceneNode.ofJson v).run.value = .ok n := by
    intro n hn
    rcases List.mem_pair.1 hn with rfl | rfl
    · exact ⟨panelExports[0], by decide, rfl⟩
    · exact ⟨panelExports[1], by decide, rfl⟩
  obtain ⟨hbalanced, -⟩ := of_compressAll opaqueTable htrees
  refine ⟨htrees, rfl, ?_, ?_⟩
  · rw [hbalanced.sum]
    rfl
  · rw [hbalanced.removed]
    rfl

end CompressionMetrics

end SceneMarkup
