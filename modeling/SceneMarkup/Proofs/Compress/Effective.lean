import SceneMarkup.Proofs.Compress.Tree

/-!
# What scalars say after compression

What an attribute says is its own value, or the default of the table where it has none (`SceneNode.effective?`). A scalar is
left out only if the default says the same, and it is kept as it is wherever no default does
(`SceneNode.effective?_at?_compress`).
-/

namespace SceneMarkup

/-- Attributes that compression may leave out although no default says the same: what is computed, what describes the
interface, what only grids need, and the transform. -/
def conditionalAttributes : List String :=
  computedAttributes ++ interfaceAttributes ++ gridContainerAttributes ++ gridCellAttributes ++ ["relativeTransform"]

section

variable {key : String} (hkey : key ∉ conditionalAttributes)

include hkey

/-- Any other attribute is critical or ordinary. -/
theorem roleOf_of_notMem : roleOf key = if criticalAttributes.contains key then .critical else .other := by
  simp only [conditionalAttributes, List.mem_append, List.mem_singleton, not_or] at hkey
  obtain ⟨⟨⟨⟨hcomputed, hinterface⟩, -⟩, -⟩, htransform⟩ := hkey
  unfold roleOf
  rw [List.contains_eq_mem, List.contains_eq_mem, decide_eq_false hcomputed, decide_eq_false hinterface, if_neg htransform]
  rfl

/-- Any other attribute counts in every scope. -/
theorem keeps_of_notMem (scope : GridScope) : scope.keeps key = true := by
  simp only [conditionalAttributes, List.mem_append, not_or] at hkey
  obtain ⟨⟨⟨-, hcontainer⟩, hcell⟩, -⟩ := hkey
  unfold GridScope.keeps
  rw [List.contains_eq_mem, List.contains_eq_mem, decide_eq_false hcontainer, decide_eq_false hcell]
  rfl

end

/-- Equal values, or none twice. -/
abbrev SameValues : Option Json → Option Json → Prop :=
  Option.Rel fun v w => Json.sameValue v w = true

namespace DefaultTable

variable {t : DefaultTable} {type key : String} {scope : GridScope} {v d : Json}

/-- A default of a table without repeated names has none. -/
theorem distinct_of_resolve? (ht : t.toJson.Distinct) (h : t.resolve? type key = some d) : d.Distinct := by
  have hentry : ∀ {name}, t.entry? name key = some d → d.Distinct := by
    intro name he
    obtain ⟨fields, hs, hl⟩ := Option.bind_eq_some_iff.1 he
    obtain ⟨s, hm, hf⟩ := Option.bind_eq_some_iff.1 hs
    obtain rfl := Json.eq_obj_of_fields? hf
    have hsection : (Json.obj fields).Distinct := (Json.distinct_obj.1 ht).2 _ (Named.mem_of_lookup hm)
    exact (Json.distinct_obj.1 hsection).2 _ (Named.mem_of_lookup hl)
  rcases entry?_of_resolve? h with htype | hglobal
  · exact hentry htype
  · exact hentry hglobal

/-- Nothing is kept of a null. -/
theorem kept_null : t.kept type scope key .null = none := by
  rw [kept_eq]
  rfl

/-- A scalar is left out if it is the default of an attribute that is not critical, and else kept as it is. -/
theorem kept_of_isScalar (hkey : key ∉ conditionalAttributes) (hv : v.isScalar = true) :
    t.kept type scope key v =
      if criticalAttributes.contains key = false ∧ t.isDefault type key v = true then none else some v := by
  have hs := keeps_of_notMem hkey scope
  have hrole := roleOf_of_notMem hkey
  rw [kept_eq, keptForm_of_isScalar hv]
  cases hc : criticalAttributes.contains key with
  | false =>
    rw [hc] at hrole
    rw [leavesOut_of_isScalar hrole hs hv]
    simp
  | true =>
    rw [hc] at hrole
    have hnull : v.isNull = false := by
      cases v <;> first | rfl | nomatch hv
    simp [leavesOut, hnull, hs, hrole]

/-- What an attribute says: its value unless it is null, or the default. -/
def valueOr (t : DefaultTable) (type key : String) (value : Option Json) : Option Json :=
  (value.filter (!·.isNull)).or (t.resolve? type key)

/-- A value that is not null says what it is. -/
theorem valueOr_of_isScalar (t : DefaultTable) (type key : String) (hv : v.isScalar = true) :
    t.valueOr type key (some v) = some v := by
  cases v <;> first | rfl | nomatch hv

/-- What is left of a scalar says the same as the scalar, and where none is, the default says the same as itself. -/
theorem valueOr_kept (ht : t.toJson.Distinct) (hkey : key ∉ conditionalAttributes) (type : String) (scope : GridScope)
    {value : Option Json} (hvalue : ∀ v, value = some v → v.isNull = true ∨ v.isScalar = true) :
    SameValues (t.valueOr type key (value.bind (t.kept type scope key))) (t.valueOr type key value) := by
  have hdefault : SameValues (t.resolve? type key) (t.resolve? type key) := by
    cases hr : t.resolve? type key with
    | none => exact .none
    | some d => exact .some (Json.sameValue_refl (distinct_of_resolve? ht hr))
  cases value with
  | none => exact hdefault
  | some v =>
    rw [Option.bind_some]
    rcases hvalue v rfl with hnull | hv
    · rw [Json.eq_null_of_isNull hnull, kept_null]
      exact hdefault
    · rw [valueOr_of_isScalar t type key hv, kept_of_isScalar hkey hv]
      split
      · rename_i h
        obtain ⟨d, hr, hsame⟩ := exists_of_isDefault h.2
        rw [show t.valueOr type key none = some d from hr]
        exact .some hsame
      · rw [valueOr_of_isScalar t type key hv]
        refine .some (Json.sameValue_refl ?_)
        cases v <;> trivial

end DefaultTable

namespace SceneNode

variable {t : DefaultTable} {n m : SceneNode} {inGrid : Bool} {key : String} {path : List Nat} {v : Json}

/-- What an attribute of a node says. -/
def effective? (t : DefaultTable) (n : SceneNode) (key : String) : Option Json :=
  t.valueOr n.tag key (n.get? key)

/-- A node has its counterpart at the same path of the compressed tree. -/
theorem exists_at?_compressIn (t : DefaultTable) (inGrid : Bool) (h : n.at? path = some m) :
    ∃ inGrid', (n.compressIn t inGrid).at? path = some (m.compressIn t inGrid') := by
  induction path generalizing n inGrid with
  | nil =>
    obtain rfl := Option.some.inj h
    exact ⟨inGrid, rfl⟩
  | cons i path ih =>
    obtain ⟨c, hc, hm⟩ := Option.bind_eq_some_iff.1 h
    obtain ⟨inGrid', he⟩ := ih n.isGrid hm
    refine ⟨inGrid', ?_⟩
    rw [at?, children_compressIn, List.getElem?_map, hc]
    exact he

/-- What a scalar attribute says is the same after compression. -/
theorem effective?_compressIn (ht : t.toJson.Distinct) (hn : n.attributes.names.Nodup)
    (hkey : key ∉ conditionalAttributes)
    (hscalar : ∀ v, n.get? key = some v → v.isNull = true ∨ v.isScalar = true) :
    SameValues ((n.compressIn t inGrid).effective? t key) (n.effective? t key) := by
  unfold effective?
  rw [tag_compressIn hn, get?_compressIn hn]
  exact DefaultTable.valueOr_kept ht hkey n.tag _ hscalar

/-- An ordinary scalar is kept as it is unless it is a default. -/
theorem get?_compressIn_of_isScalar (hn : n.attributes.names.Nodup) (hkey : key ∉ conditionalAttributes)
    (hcritical : key ∉ criticalAttributes) (hv : v.isScalar = true) (hget : n.get? key = some v) :
    (n.compressIn t inGrid).get? key = if t.isDefault n.tag key v then none else some v := by
  have hc : criticalAttributes.contains key = false := by simpa using hcritical
  rw [get?_compressIn hn, hget, Option.bind_some, DefaultTable.kept_of_isScalar hkey hv, hc]
  simp

/-- The counterpart of a node in the compressed tree says of a scalar attribute what the node says. It has an ordinary
scalar attribute of the node exactly if the node has no type or no default is equal to the value, and then with this value. -/
theorem effective?_at?_compress (ht : t.toJson.Distinct) (hn : n.Distinct) (hm : n.at? path = some m)
    (hkey : key ∉ conditionalAttributes)
    (hscalar : ∀ v, m.get? key = some v → v.isNull = true ∨ v.isScalar = true) :
    ∃ m', (n.compress t).at? path = some m' ∧
      SameValues (m'.effective? t key) (m.effective? t key) ∧
      (key ∉ criticalAttributes → ∀ v, m.get? key = some v → v.isScalar = true →
        ((m'.get? key).isSome = true ↔
          m.tag = "" ∨ ∀ d, t.resolve? m.tag key = some d → Json.sameValue d v = false) ∧
        ((m'.get? key).isSome = true → m'.get? key = some v)) := by
  have hnames : m.attributes.names.Nodup := (Json.distinct_obj.1 (hn m (mem_nodes_of_at? hm))).1
  obtain ⟨inGrid, hm'⟩ := exists_at?_compressIn t false hm
  refine ⟨m.compressIn t inGrid, hm', effective?_compressIn ht hnames hkey hscalar, ?_⟩
  intro hcritical v hget hv
  rw [get?_compressIn_of_isScalar hnames hkey hcritical hv hget, ← DefaultTable.isDefault_eq_false_iff]
  cases t.isDefault m.tag key v <;> simp

/-- A table in which texts have a default of their own for the opacity and none for whether they are visible. -/
def badgeTable : DefaultTable :=
  ⟨[("GLOBAL", .obj [("opacity", .int 1), ("visible", .bool true)]),
    ("TEXT", .obj [("opacity", .int 0), ("visible", .null)])]⟩

/-- A text with both attributes. -/
def badge : SceneNode :=
  .mk [("type", .str "TEXT"), ("opacity", .int 0), ("visible", .bool true)] none

/-- A frame around the text. -/
def badgeCard : SceneNode :=
  .mk [("type", .str "FRAME"), ("opacity", .int 1)] (some [badge])

/-- The opacity of the text is left out and says the same, and that it is visible is kept. -/
theorem effective?_at?_compress_badge :
    badgeTable.toJson.Distinct ∧ badgeCard.Distinct ∧ badgeCard.at? [0] = some badge ∧
      (∃ m', (badgeCard.compress badgeTable).at? [0] = some m' ∧ m'.get? "opacity" = none ∧
        SameValues (m'.effective? badgeTable "opacity") (some (.int 0))) ∧
      ∃ m', (badgeCard.compress badgeTable).at? [0] = some m' ∧ m'.get? "visible" = some (.bool true) := by
  have ht : badgeTable.toJson.Distinct := by decide
  have hn : badgeCard.Distinct := by decide
  have hm : badgeCard.at? [0] = some badge := rfl
  have hopacity : badge.get? "opacity" = some (.int 0) := rfl
  have hvisible : badge.get? "visible" = some (.bool true) := rfl
  refine ⟨ht, hn, hm, ?_, ?_⟩
  · have hkey : "opacity" ∉ conditionalAttributes := by decide
    obtain ⟨m', hm', hsame, hexact⟩ := effective?_at?_compress ht hn hm hkey
      fun v hv => .inr (by rw [← Option.some.inj (hopacity.symm.trans hv)]; rfl)
    obtain ⟨hkept, -⟩ := hexact (by decide) _ hopacity rfl
    refine ⟨m', hm', ?_, hsame⟩
    rw [← Option.not_isSome_iff_eq_none, hkept]
    rintro (hnone | hdiffers)
    · exact absurd hnone (by decide)
    · have hzero : Json.sameValue (.int 0) (.int 0) = true := Json.sameValue_refl trivial
      exact absurd hzero (by rw [hdiffers _ rfl]; decide)
  · have hkey : "visible" ∉ conditionalAttributes := by decide
    obtain ⟨m', hm', -, hexact⟩ := effective?_at?_compress ht hn hm hkey
      fun v hv => .inr (by rw [← Option.some.inj (hvisible.symm.trans hv)]; rfl)
    obtain ⟨hkept, hsame⟩ := hexact (by decide) _ hvisible rfl
    exact ⟨m', hm', hsame (hkept.2 (.inr fun d hd => nomatch hd))⟩

end SceneNode

end SceneMarkup
