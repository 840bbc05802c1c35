import SceneMarkup.Proofs.Decimal.Whole
import SceneMarkup.Proofs.Ui.Attributes

/-!
# Placements in grids

A child of a grid with tracks of its own has a cell and covers some tracks from there on (`NativeGrid.placement`). The cell is
the one that its anchors name, or else the next one in reading order, and lies within the columns
(`NativeGrid.placedAt_placement`); two children in reading order have different cells (`NativeGrid.cell_ne`). A span that starts
within the tracks ends with them (`add_trackSpan_le`). Arithmetic on indices that would fail where it left their range finds the
same placement (`NativeGrid.placedSafely_placement`), and the attributes of a control show it (`NativeGrid.shownBy_place`).
-/

namespace SceneMarkup

/-! ## Anchors and spans -/

/-- An anchor means the index of a track: it is a finite number from zero up, of which the whole part counts as far as indices
go, and it is below the number of tracks if there are any. -/
def Anchors (anchor : Option Float) (count index : Nat) : Prop :=
  ∃ x, anchor = some x ∧ x.isFinite = true ∧ 0 ≤ x ∧ index = min maxIndex (Binary.ofFloat x).wholePart ∧
    (count = 0 ∨ index < count)

/-- The number of tracks that a span asks for: its whole part, as far as indices go, and at least one. -/
def askedSpan (span : Option Float) : Nat :=
  match span with
  | some x => if x.isFinite && 1 ≤ x then indexOf x else 1
  | none => 1

section

variable {anchor span : Option Float} {start count index : Nat}

/-- The index of an anchor is the one that it means. -/
theorem trackIndex?_eq_some_iff : trackIndex? anchor count = some index ↔ Anchors anchor count index := by
  unfold Anchors
  cases anchor with
  | none => simp [trackIndex?]
  | some x =>
    unfold trackIndex?
    simp only [Option.ite_none_right_eq_some, Bool.and_eq_true, Bool.or_eq_true, decide_eq_true_eq, beq_iff_eq,
      Option.some.injEq, exists_eq_left']
    constructor
    · rintro ⟨⟨⟨hfinite, hzero⟩, hcount⟩, rfl⟩
      exact ⟨hfinite, hzero, rfl, hcount⟩
    · rintro ⟨hfinite, hzero, rfl, hcount⟩
      exact ⟨⟨⟨hfinite, hzero⟩, hcount⟩, rfl⟩

/-- A span is what it asks for, cut off where the tracks end. -/
theorem trackSpan_eq :
    trackSpan span start count = if start < count then min (askedSpan span) (count - start) else askedSpan span := rfl

/-- No span asks for more tracks than there are indices. -/
theorem askedSpan_le : askedSpan span ≤ maxIndex := by
  cases span with
  | none => decide
  | some x =>
    unfold askedSpan
    simp only []
    split
    · exact Nat.min_le_left ..
    · decide

/-- Every span asks for a track. -/
theorem one_le_askedSpan : 1 ≤ askedSpan span := by
  cases span with
  | none => exact Nat.le_refl 1
  | some x =>
    unfold askedSpan
    simp only [Bool.and_eq_true, decide_eq_true_eq]
    split
    · rename_i h
      exact Nat.le_min.2 ⟨by decide, one_le_wholePart h.1 h.2⟩
    · exact Nat.le_refl 1

/-- No span covers more tracks than there are indices. -/
theorem trackSpan_le : trackSpan span start count ≤ maxIndex := by
  have hasked := @askedSpan_le span
  rw [trackSpan_eq]
  split
  · omega
  · exact hasked

/-- Every span covers a track. -/
theorem one_le_trackSpan : 1 ≤ trackSpan span start count := by
  have hasked := @one_le_askedSpan span
  rw [trackSpan_eq]
  split
  · omega
  · exact hasked

/-- A span that starts within the tracks ends within them. -/
theorem add_trackSpan_le (h : start < count) : start + trackSpan span start count ≤ count := by
  rw [trackSpan_eq, if_pos h]
  omega

/-- A span that asks for no more tracks than there are covers as many as it asks for. -/
theorem trackSpan_of_add_le (h : start + askedSpan span ≤ count) : trackSpan span start count = askedSpan span := by
  have hasked := @one_le_askedSpan span
  rw [trackSpan_eq, if_pos (by omega)]
  omega

/-- A span ends within the tracks or covers one track exactly if it starts within the tracks or asks for one track. -/
theorem add_trackSpan_le_max_iff :
    start + trackSpan span start count ≤ max count (start + 1) ↔ start < count ∨ askedSpan span ≤ 1 := by
  by_cases h : start < count
  · have hend : start + trackSpan span start count ≤ count := add_trackSpan_le h
    simp only [h, true_or, iff_true]
    omega
  · rw [trackSpan_eq, if_neg h]
    omega

end

/-! ## Arithmetic on indices -/

namespace Index

/-- The sum of two numbers, if it is an index. -/
def add? (a b : Nat) : Option Nat :=
  if a + b ≤ maxIndex then some (a + b) else none

/-- The difference of two numbers, if the first is not the smaller one. -/
def sub? (a b : Nat) : Option Nat :=
  if b ≤ a then some (a - b) else none

/-- The quotient and the remainder of two numbers, unless the second is zero. -/
def divMod? (a b : Nat) : Option (Nat × Nat) :=
  if b = 0 then none else some (a / b, a % b)

/-- The sum of two numbers, or the greatest index where it is none. -/
def addUpTo (a b : Nat) : Nat :=
  min maxIndex (a + b)

end Index

/-! ## Placements -/

/-- The cell of a child, with the numbers of tracks that the child covers. -/
structure Placement where
  row : Nat
  column : Nat
  rowSpan : Nat
  columnSpan : Nat
deriving DecidableEq, Repr

/-- The margins on the sides of a control. -/
structure Margins where
  left : Float
  top : Float
  right : Float
  bottom : Float

/-- There is a margin on some side. -/
def Margins.isVisible (m : Margins) : Bool :=
  0 < m.left || 0 < m.top || 0 < m.right || 0 < m.bottom

/-- The text of margins. -/
def Margins.text (m : Margins) : String :=
  joinSides m.left m.top m.right m.bottom

namespace NativeGrid

/-- Both anchors of a child mean a track. -/
def Anchored (g : NativeGrid) (child : SceneNode) : Prop :=
  ∃ row column, Anchors (child.number? "gridRowAnchorIndex") g.rowCount row ∧
    Anchors (child.number? "gridColumnAnchorIndex") g.columnCount column

/-- The placement of the child at a place in reading order. -/
def placement (g : NativeGrid) (child : SceneNode) (index : Nat) : Placement :=
  let (row, column) := g.cell child index
  ⟨row, column, trackSpan (child.number? "gridRowSpan") row g.rowCount,
    trackSpan (child.number? "gridColumnSpan") column g.columnCount⟩

/-- What the placement of the child at a place is to be. -/
structure PlacedAt (g : NativeGrid) (child : SceneNode) (index : Nat) (p : Placement) : Prop where
  /-- Anchors that both mean a track name the cell. -/
  anchored : ∀ row column, Anchors (child.number? "gridRowAnchorIndex") g.rowCount row →
    Anchors (child.number? "gridColumnAnchorIndex") g.columnCount column → p.row = row ∧ p.column = column
  /-- Without them the cell is the next one in reading order, where a grid without columns is one row. -/
  inOrder : ¬g.Anchored child →
    (p.row, p.column) = if 0 < g.columnCount then (index / g.columnCount, index % g.columnCount) else (0, index)
  /-- The child is within the columns, and within the rows if it begins there. -/
  columns : 0 < g.columnCount → p.column < g.columnCount ∧ p.column + p.columnSpan ≤ g.columnCount
  rows : p.row < g.rowCount → p.row + p.rowSpan ≤ g.rowCount
  /-- The child covers a track on either axis, and all that its spans ask for if there are as many. -/
  spans : 1 ≤ p.rowSpan ∧ 1 ≤ p.columnSpan
  rowSpan : p.row + askedSpan (child.number? "gridRowSpan") ≤ g.rowCount →
    p.rowSpan = askedSpan (child.number? "gridRowSpan")
  columnSpan : p.column + askedSpan (child.number? "gridColumnSpan") ≤ g.columnCount →
    p.columnSpan = askedSpan (child.number? "gridColumnSpan")

variable (g : NativeGrid) (child : SceneNode) (index : Nat)

/-- Anchors that both mean a track name the cell. -/
theorem cell_of_anchors {row column : Nat} (hrow : Anchors (child.number? "gridRowAnchorIndex") g.rowCount row)
    (hcolumn : Anchors (child.number? "gridColumnAnchorIndex") g.columnCount column) :
    g.cell child index = (row, column) := by
  unfold cell
  rw [trackIndex?_eq_some_iff.2 hrow, trackIndex?_eq_some_iff.2 hcolumn]

/-- A child without two anchors that mean a track comes next in reading order. -/
theorem cell_of_not_anchored (h : ¬g.Anchored child) :
    g.cell child index =
      if 0 < g.columnCount then (index / g.columnCount, index % g.columnCount) else (0, index) := by
  unfold cell
  split
  · rename_i row column hrow hcolumn
    exact absurd ⟨row, column, trackIndex?_eq_some_iff.1 hrow, trackIndex?_eq_some_iff.1 hcolumn⟩ h
  · rfl

/-- The column of a cell is one of the columns, if there are any. -/
theorem cell_column_lt (h : 0 < g.columnCount) : (g.cell child index).2 < g.columnCount := by
  by_cases ha : g.Anchored child
  · obtain ⟨row, column, hrow, hcolumn⟩ := ha
    rw [cell_of_anchors g child index hrow hcolumn]
    obtain ⟨-, -, -, -, -, hcount⟩ := hcolumn
    exact hcount.resolve_left (by omega)
  · rw [cell_of_not_anchored g child index ha, if_pos h]
    exact Nat.mod_lt index h

/-- The placement of a child is as it is to be. -/
theorem placedAt_placement : g.PlacedAt child index (g.placement child index) where
  anchored := by
    intro row column hrow hcolumn
    have hcell := cell_of_anchors g child index hrow hcolumn
    exact ⟨congrArg Prod.fst hcell, congrArg Prod.snd hcell⟩
  inOrder := cell_of_not_anchored g child index
  columns := by
    intro h
    have hcolumn := g.cell_column_lt child index h
    exact ⟨hcolumn, add_trackSpan_le hcolumn⟩
  rows := fun h => add_trackSpan_le h
  spans := ⟨one_le_trackSpan, one_le_trackSpan⟩
  rowSpan := fun h => trackSpan_of_add_le h
  columnSpan := fun h => trackSpan_of_add_le h

/-- Children in reading order have different cells. -/
theorem cell_ne {other : SceneNode} {place : Nat} (hc : 0 < g.columnCount) (h : ¬g.Anchored child)
    (hother : ¬g.Anchored other) (hne : index ≠ place) : g.cell child index ≠ g.cell other place := by
  rw [cell_of_not_anchored g child index h, cell_of_not_anchored g other place hother, if_pos hc, if_pos hc]
  intro heq
  rw [Prod.mk.injEq] at heq
  apply hne
  -- a place is determined by its quotient and its remainder
  calc index = g.columnCount * (index / g.columnCount) + index % g.columnCount := (Nat.div_add_mod ..).symm
    _ = g.columnCount * (place / g.columnCount) + place % g.columnCount := by rw [heq.1, heq.2]
    _ = place := Nat.div_add_mod ..

/-! ## Placing by arithmetic on indices -/

/-- The child at a place is the last one, by arithmetic on indices. -/
def checkedIsLast? (index count : Nat) : Option Bool :=
  (Index.add? index 1).map (· == count)

/-- The cell of a child by arithmetic on indices. -/
def checkedCell? : Option (Nat × Nat) :=
  match trackIndex? (child.number? "gridRowAnchorIndex") g.rowCount,
    trackIndex? (child.number? "gridColumnAnchorIndex") g.columnCount with
  | some row, some column => some (row, column)
  | _, _ => if 0 < g.columnCount then Index.divMod? index g.columnCount else some (0, index)

/-- The number of tracks of a span by arithmetic on indices. -/
def checkedSpan? (span : Option Float) (start count : Nat) : Option Nat :=
  if start < count then (Index.sub? count start).map (min (askedSpan span)) else some (askedSpan span)

/-- The placement of a child by arithmetic on indices. -/
def checkedPlacement? : Option Placement := do
  let (row, column) ← g.checkedCell? child index
  let rowSpan ← checkedSpan? (child.number? "gridRowSpan") row g.rowCount
  let columnSpan ← checkedSpan? (child.number? "gridColumnSpan") column g.columnCount
  return ⟨row, column, rowSpan, columnSpan⟩

/-- The margins before and behind a child by arithmetic on indices. -/
def checkedGapSides (gap : Float) (start span count : Nat) : Float × Float :=
  (if 0 < start then gap / 2 else 0, if 0 < count && count ≤ Index.addUpTo start span then 0 else gap / 2)

/-- What arithmetic on indices is to make of the placement of the child at a place among `count`. -/
structure PlacedSafely (g : NativeGrid) (child : SceneNode) (index count : Nat) (p : Placement) : Prop where
  isLast : checkedIsLast? index count = some (index + 1 == count)
  placement : g.checkedPlacement? child index = some p
  columnGap : checkedGapSides g.columnGap p.column p.columnSpan g.columnCount =
    gapSides g.columnGap p.column p.columnSpan g.columnCount
  rowGap : checkedGapSides g.rowGap p.row p.rowSpan g.rowCount = gapSides g.rowGap p.row p.rowSpan g.rowCount
  inRange : p.row ≤ maxIndex ∧ p.column ≤ maxIndex ∧ p.rowSpan ≤ maxIndex ∧ p.columnSpan ≤ maxIndex

/-- No step of finding a cell divides by zero. -/
theorem checkedCell?_eq : g.checkedCell? child index = some (g.cell child index) := by
  have horder : (if 0 < g.columnCount then Index.divMod? index g.columnCount else some (0, index)) =
      some (if 0 < g.columnCount then (index / g.columnCount, index % g.columnCount) else (0, index)) := by
    by_cases h : 0 < g.columnCount
    · rw [if_pos h, if_pos h, Index.divMod?, if_neg (Nat.ne_of_gt h)]
    · rw [if_neg h, if_neg h]
  unfold checkedCell? cell
  cases trackIndex? (child.number? "gridRowAnchorIndex") g.rowCount with
  | none => exact horder
  | some row =>
    cases trackIndex? (child.number? "gridColumnAnchorIndex") g.columnCount with
    | none => exact horder
    | some column => rfl

/-- No step of cutting off a span goes below zero. -/
theorem checkedSpan?_eq (span : Option Float) (start count : Nat) :
    checkedSpan? span start count = some (trackSpan span start count) := by
  unfold checkedSpan?
  rw [trackSpan_eq]
  by_cases h : start < count
  · rw [if_pos h, if_pos h, Index.sub?, if_pos (Nat.le_of_lt h)]
    rfl
  · rw [if_neg h, if_neg h]

/-- No step of placing a child leaves the indices or divides by zero. -/
theorem checkedPlacement?_eq : g.checkedPlacement? child index = some (g.placement child index) := by
  unfold checkedPlacement?
  rw [checkedCell?_eq]
  simp only [checkedSpan?_eq, Option.bind_eq_bind, Option.bind_some, Option.pure_def]
  rfl

/-- That a sum may be no index makes no difference to margins. -/
theorem checkedGapSides_eq (gap : Float) (start span : Nat) {count : Nat} (h : count ≤ maxIndex) :
    checkedGapSides gap start span count = gapSides gap start span count := by
  have hend : count ≤ Index.addUpTo start span ↔ count ≤ start + span := by
    unfold Index.addUpTo
    omega
  unfold checkedGapSides gapSides
  simp only [hend]

/-- A cell is made of indices. -/
theorem cell_le (h : index ≤ maxIndex) : (g.cell child index).1 ≤ maxIndex ∧ (g.cell child index).2 ≤ maxIndex := by
  by_cases ha : g.Anchored child
  · obtain ⟨row, column, hrow, hcolumn⟩ := ha
    rw [cell_of_anchors g child index hrow hcolumn]
    obtain ⟨-, -, -, -, rfl, -⟩ := hrow
    obtain ⟨-, -, -, -, rfl, -⟩ := hcolumn
    exact ⟨Nat.min_le_left .., Nat.min_le_left ..⟩
  · rw [cell_of_not_anchored g child index ha]
    split
    · exact ⟨Nat.le_trans (Nat.div_le_self ..) h, Nat.le_trans (Nat.mod_le ..) h⟩
    · exact ⟨Nat.zero_le _, h⟩

/-- Where the children and the tracks can be counted, a child is placed without leaving the indices. -/
theorem placedSafely_placement {count : Nat} (hindex : index < count) (hcount : count ≤ maxIndex)
    (hrows : g.rowCount ≤ maxIndex) (hcolumns : g.columnCount ≤ maxIndex) :
    g.PlacedSafely child index count (g.placement child index) where
  isLast := by
    unfold checkedIsLast? Index.add?
    rw [if_pos (by omega), Option.map_some]
  placement := g.checkedPlacement?_eq child index
  columnGap := checkedGapSides_eq _ _ _ hcolumns
  rowGap := checkedGapSides_eq _ _ _ hrows
  inRange := by
    obtain ⟨hrow, hcolumn⟩ := g.cell_le child index (by omega)
    exact ⟨hrow, hcolumn, trackSpan_le, trackSpan_le⟩

/-! ## Attributes of a placement -/

/-- The margins of a placement. -/
def margins (g : NativeGrid) (p : Placement) : Margins where
  left := (gapSides g.columnGap p.column p.columnSpan g.columnCount).1
  top := (gapSides g.rowGap p.row p.rowSpan g.rowCount).1
  right := (gapSides g.columnGap p.column p.columnSpan g.columnCount).2
  bottom := (gapSides g.rowGap p.row p.rowSpan g.rowCount).2

/-- The attribute that a placement gives to a control, if it gives it one. -/
def attribute? (g : NativeGrid) (p : Placement) (name : String) : Option String :=
  if name = "Margin" ∧ (g.margins p).isVisible = true then some (g.margins p).text
  else if name = "Grid.ColumnSpan" ∧ 1 < p.columnSpan then some (toString p.columnSpan)
  else if name = "Grid.RowSpan" ∧ 1 < p.rowSpan then some (toString p.rowSpan)
  else if name = "Grid.Column" then some (toString p.column)
  else if name = "Grid.Row" then some (toString p.row)
  else none

/-- A child that has been put into its cell has the attributes of its placement, and those that it had. -/
theorem get?_place (u : UiNode) (name : String) :
    (g.place child index u).get? name = (g.attribute? (g.placement child index) name).or (u.get? name) := by
  obtain ⟨p, hp⟩ : ∃ p, g.placement child index = p := ⟨_, rfl⟩
  have hplace : g.place child index u =
      let u := (u.set "Grid.Row" (toString p.row)).set "Grid.Column" (toString p.column)
      let u := if 1 < p.rowSpan then u.set "Grid.RowSpan" (toString p.rowSpan) else u
      let u := if 1 < p.columnSpan then u.set "Grid.ColumnSpan" (toString p.columnSpan) else u
      if (g.margins p).isVisible then u.set "Margin" (g.margins p).text else u := by
    rw [← hp]
    rfl
  rw [hplace, hp]
  simp only [UiNode.get?_setIf, UiNode.get?_set]
  unfold attribute?
  split_ifs <;> rfl

end NativeGrid

/-- The attributes of a control say where it has been put. Where it covers one row or one column, it has the span that it had
before. -/
structure Placement.ShownBy (p : Placement) (before control : UiNode) : Prop where
  row : control.get? "Grid.Row" = some (toString p.row)
  column : control.get? "Grid.Column" = some (toString p.column)
  rowSpan : control.get? "Grid.RowSpan" = if 1 < p.rowSpan then some (toString p.rowSpan) else before.get? "Grid.RowSpan"
  columnSpan : control.get? "Grid.ColumnSpan" =
    if 1 < p.columnSpan then some (toString p.columnSpan) else before.get? "Grid.ColumnSpan"

namespace NativeGrid

variable (g : NativeGrid) (child : SceneNode) (index : Nat)

/-- A child that has been put into its cell shows its placement. -/
theorem shownBy_place (u : UiNode) : (g.placement child index).ShownBy u (g.place child index u) where
  row := by simp [get?_place, attribute?]
  column := by simp [get?_place, attribute?]
  rowSpan := by
    rw [get?_place]
    by_cases h : 1 < (g.placement child index).rowSpan <;> simp [attribute?, h]
  columnSpan := by
    rw [get?_place]
    by_cases h : 1 < (g.placement child index).columnSpan <;> simp [attribute?, h]

end NativeGrid

end SceneMarkup
