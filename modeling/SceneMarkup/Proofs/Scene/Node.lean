import SceneMarkup.Proofs.Json.Basic
import SceneMarkup.Proofs.Json.Distinct
import SceneMarkup.Scene.Node

/-!
# Scene nodes by their parts

Every property of scene nodes is proved by the children of a node (`SceneNode.byParts`), and what holds of all nodes of a
tree holds of its root and of all nodes of the trees below it (`SceneNode.forall_nodes_iff`).
-/

namespace SceneMarkup

namespace SceneNode

variable {n m : SceneNode}

/-- What holds of a node because it holds of its children holds of every node. -/
theorem byParts {P : SceneNode → Prop} (node : ∀ n : SceneNode, (∀ c ∈ n.children, P c) → P n) (n : SceneNode) : P n :=
  @SceneNode.rec P (fun cs => ∀ cs' : List SceneNode, cs = some cs' → ∀ c ∈ cs', P c) (fun cs => ∀ c ∈ cs, P c)
    (fun attributes cs h => node (mk attributes cs) (by
      cases cs with
      | none => simp [children, children?]
      | some cs => exact h cs rfl))
    (by simp) (fun _ h cs he => Option.some.inj he ▸ h)
    (by simp) (fun _ _ hc hrest => List.forall_mem_cons.2 ⟨hc, hrest⟩) n

mutual
/-- The nodes of a tree, each before those below it. -/
def nodes : SceneNode → List SceneNode
  | mk attributes none => [mk attributes none]
  | mk attributes (some children) => mk attributes (some children) :: nodesOfAll children

/-- The nodes of the trees of a list. -/
def nodesOfAll : List SceneNode → List SceneNode
  | [] => []
  | n :: rest => n.nodes ++ nodesOfAll rest
end

/-- The nodes of the trees of a list are those of each of them. -/
theorem mem_nodesOfAll {trees : List SceneNode} : m ∈ nodesOfAll trees ↔ ∃ n ∈ trees, m ∈ n.nodes := by
  induction trees with
  | nil => simp [nodesOfAll]
  | cons n rest ih => simp [nodesOfAll, ih]

/-- The nodes of a tree are its root and the nodes of the trees below it. -/
theorem mem_nodes : m ∈ n.nodes ↔ m = n ∨ ∃ c ∈ n.children, m ∈ c.nodes := by
  obtain ⟨attributes, children⟩ := n
  cases children with
  | none => simp [nodes, children, children?]
  | some cs => simp [nodes, children, children?, mem_nodesOfAll]

/-- What holds of all nodes of a tree holds of its root and of all nodes of the trees below it. -/
theorem forall_nodes_iff {p : SceneNode → Prop} :
    (∀ m ∈ n.nodes, p m) ↔ p n ∧ ∀ c ∈ n.children, ∀ m ∈ c.nodes, p m := by
  constructor
  · intro h
    exact ⟨h n (mem_nodes.2 (.inl rfl)), fun c hc m hm => h m (mem_nodes.2 (.inr ⟨c, hc, hm⟩))⟩
  · rintro ⟨hn, hc⟩ m hm
    rcases mem_nodes.1 hm with rfl | ⟨c, hm, hmc⟩
    · exact hn
    · exact hc c hm m hmc

/-- The node at a path: each number of the path leads to the child at that place. -/
def at? (n : SceneNode) : List Nat → Option SceneNode
  | [] => some n
  | i :: path => n.children[i]?.bind (at? · path)

/-- A node at a path is one of the nodes of the tree. -/
theorem mem_nodes_of_at? {path : List Nat} (h : n.at? path = some m) : m ∈ n.nodes := by
  induction path generalizing n with
  | nil =>
    obtain rfl := Option.some.inj h
    exact mem_nodes.2 (.inl rfl)
  | cons i path ih =>
    obtain ⟨c, hc, hm⟩ := Option.bind_eq_some_iff.1 h
    exact mem_nodes.2 (.inr ⟨c, List.mem_of_getElem? hc, ih hm⟩)

/-- In no object of a node's attributes a name stands twice. -/
def Distinct (n : SceneNode) : Prop :=
  ∀ m ∈ n.nodes, (Json.obj m.attributes).Distinct

instance (n : SceneNode) : Decidable n.Distinct :=
  inferInstanceAs (Decidable (∀ m ∈ n.nodes, (Json.obj m.attributes).Distinct))

/-- A node is distinct if its attributes and its children are. -/
theorem distinct_iff : n.Distinct ↔ (Json.obj n.attributes).Distinct ∧ ∀ c ∈ n.children, c.Distinct :=
  forall_nodes_iff

/-- The attribute maps of a tree: those of its nodes and the objects in them, at every depth. -/
def maps (n : SceneNode) : List Fields :=
  n.nodes.flatMap fun m => (Json.obj m.attributes).objects

/-- What holds of all attribute maps of a tree holds of those in its root and in the trees below it. -/
theorem forall_maps_iff {p : Fields → Prop} :
    (∀ o ∈ n.maps, p o) ↔ (∀ o ∈ (Json.obj n.attributes).objects, p o) ∧ ∀ c ∈ n.children, ∀ o ∈ c.maps, p o := by
  simp only [maps, List.forall_mem_flatMap]
  exact forall_nodes_iff

end SceneNode

end SceneMarkup
