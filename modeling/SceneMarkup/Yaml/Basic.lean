/-!
# YAML trees

What is left of a YAML document once its blocks, flows and quotes are resolved: scalars, sequences, mappings and aliases. A
scalar keeps the style in which it was written, because only a plain one may stand for something else than a text. An alias
keeps the number of its anchor, and the document knows the nodes with anchors: a node may lie inside one that refers to it.

A text that may refer to its own parts can be small to write and huge to read. So a decoding carries a budget: every
reference that it follows costs one unit, and it fails when there is none left.
-/

namespace SceneMarkup

/-! ## Decoding with a budget -/

/-- A decoding, which may fail and passes on what is left of its budget. -/
abbrev Decoder := StateT Nat Option

namespace Decoder

variable {α : Type}

/-- A value that costs nothing, or a failure. -/
def ofOption (v? : Option α) : Decoder α :=
  fun budget => v?.map (·, budget)

/-- Spends one unit. -/
def spend : Decoder Unit
  | 0 => none
  | budget + 1 => some ((), budget)

/-- The value that is decoded within a budget. -/
def within? (budget : Nat) (d : Decoder α) : Option α :=
  (d budget).map (·.1)

/-- What costs nothing needs no budget. -/
@[simp] theorem within?_ofOption (budget : Nat) (v? : Option α) : (ofOption v?).within? budget = v? := by
  cases v? <;> rfl

end Decoder

/-! ## Trees -/

/-- How a scalar is written. -/
inductive ScalarStyle where
  /-- Without quotes. -/
  | plain
  /-- As a block that keeps its lines. -/
  | literal
  /-- Between quotes, or as a block that folds its lines. -/
  | other
deriving DecidableEq, Repr

/-- A scalar with its resolved tag. -/
structure YamlScalar where
  text : String
  style : ScalarStyle
  tag : Option String
deriving DecidableEq, Repr

/-- A YAML tree. -/
inductive Yaml where
  | scalar (s : YamlScalar)
  | sequence (tag : Option String) (items : List Yaml)
  | mapping (tag : Option String) (entries : List (Yaml × Yaml))
  /-- A reference to the node with the anchor of a number. -/
  | alias (number : Nat)
deriving Inhabited

/-- The nodes with anchors by the numbers of their anchors. Of several with one number the first counts. -/
abbrev Yaml.Anchored := List (Nat × Yaml)

/-- A node together with the nodes that the aliases in it refer to. -/
structure YamlNode where
  anchored : Yaml.Anchored
  tree : Yaml

namespace Yaml

/-- A scalar that is not written at all. -/
def empty (tag : Option String) : Yaml :=
  .scalar ⟨"", .plain, tag⟩

mutual
/-- The number of parts of a tree: a scalar and an alias are one, a collection has two besides those of its contents. -/
def parts : Yaml → Nat
  | .scalar _ | .alias _ => 1
  | .sequence _ items => 2 + partsOfItems items
  | .mapping _ entries => 2 + partsOfEntries entries

/-- The number of parts of all items. -/
def partsOfItems : List Yaml → Nat
  | [] => 0
  | v :: rest => parts v + partsOfItems rest

/-- The number of parts of all keys and values. -/
def partsOfEntries : List (Yaml × Yaml) → Nat
  | [] => 0
  | (key, v) :: rest => parts key + parts v + partsOfEntries rest
end

end Yaml

namespace YamlNode

/-- The node itself or, at the cost of one unit, the one that it refers to. -/
def follow (n : YamlNode) : Decoder Yaml :=
  match n.tree with
  | .alias number => do
    Decoder.spend
    .ofOption (n.anchored.lookup number)
  | v => return v

/-- The number of aliases that may be followed in decoding a document: a hundred for each of its parts. -/
def budget (n : YamlNode) : Nat :=
  100 * n.tree.parts

end YamlNode

end SceneMarkup
