import SceneMarkup.Proofs.Compress.Tree

/-!
# What compression keeps of a tree

Compression only trims a tree (`SceneNode.TrimsTo`): every node stays at its place and keeps its list of children, even an
empty one; the names of its attributes that are left keep their order; and a critical attribute that is not null keeps its
value (`SceneNode.compress_trims`). This holds for every table, also for one that has defaults for critical attributes.
-/

namespace SceneMarkup

namespace DefaultTable

variable {t : DefaultTable} {type key : String} {scope : GridScope} {v : Json}

/-- A critical attribute is kept as it is unless it is null, or an array of children. -/
theorem kept_of_critical (hkey : key ∈ criticalAttributes) (hv : v.isNull = false)
    (hc : key = "children" → v.items? = none) : t.kept type scope key v = some v := by
  have hcritical : ∀ key ∈ criticalAttributes, roleOf key = .critical ∧ GridScope.outside.keeps key = true := by decide
  obtain ⟨hr, houtside⟩ := hcritical key hkey
  have hs := GridScope.keeps_of_outside houtside scope
  have hopens : opens key v = false := by
    cases v with
    | arr items =>
      have hne : key ≠ "children" := fun he => nomatch hc he
      simp [opens, hr, hne]
    | obj fields => simp [opens, hr]
    | _ => rfl
  rw [kept_eq_some_iff]
  constructor
  · simp [leavesOut, hv, hs, hr]
  · simp [keptForm, hopens]

end DefaultTable

namespace SceneNode

/-- The second tree is the first one without some of its attributes: it has the same shape, the attributes of each node
that are left keep their order, and the critical ones that are not null are left with their values. -/
inductive TrimsTo : SceneNode → SceneNode → Prop where
  | mk {n m : SceneNode} (names : m.attributes.names.Sublist n.attributes.names)
      (critical : ∀ key ∈ criticalAttributes, ∀ v, n.get? key = some v → v.isNull = false →
        (key = "children" → v.items? = none) → m.get? key = some v)
      (children : Option.Rel (List.Forall₂ TrimsTo) n.children? m.children?) : TrimsTo n m

/-- A tree is trimmed in every place. -/
theorem trimsTo_compressIn (t : DefaultTable) (n : SceneNode) (inGrid : Bool) : n.TrimsTo (n.compressIn t inGrid) := by
  induction n using byParts generalizing inGrid with
  | node n ih =>
    refine .mk ?_ ?_ ?_
    · rw [attributes_compressIn, DefaultTable.compressFields_eq_keep]
      exact Fields.names_keep _ _
    · intro key hkey v hv hnull hc
      unfold get?
      rw [attributes_compressIn, DefaultTable.compressFields_eq_keep]
      exact Fields.lookup_keep_of_some hv (DefaultTable.kept_of_critical hkey hnull hc)
    · rw [children?_compressIn]
      unfold children at ih
      cases hcs : n.children? with
      | none => exact .none
      | some cs =>
        rw [hcs] at ih
        refine .some (List.forall₂_map_right_iff.2 (List.forall₂_same.2 fun c hc => ?_))
        exact ih c hc n.isGrid

/-- Compression only trims a tree, whatever the table says. -/
theorem compress_trims (t : DefaultTable) (n : SceneNode) : n.TrimsTo (n.compress t) :=
  trimsTo_compressIn t n false

end SceneNode

end SceneMarkup
