import SceneMarkup.Proofs.Rule.Builtin
import SceneMarkup.Proofs.Ui.Attributes

/-!
# Grids that stand in for stacks

A grid that stands in for a stack places its children on one axis (`ContainerDecision.axis`): it spreads them over three tracks,
or gives each of them a column of its own. Either way the children are in their tracks in their order, the first one in the
first track and the last of several in the last one (`cellsInOrder_stackCells`), and their controls say so
(`SceneNode.placed_of_useGrid`).
-/

namespace SceneMarkup

open Rule (ContainerDecision Engine)

/-! ## Axes -/

/-- An axis of a grid. -/
inductive GridAxis where
  | row
  | column
deriving DecidableEq, Repr

/-- The attribute that tells the track of a child on an axis. -/
def GridAxis.attribute : GridAxis → String
  | .row => "Grid.Row"
  | .column => "Grid.Column"

/-- The tracks of a control on an axis. -/
def UiNode.tracks (u : UiNode) : GridAxis → List String
  | .row => u.rows
  | .column => u.columns

/-- The axis on which a grid that stands in for a stack places its children: rows only where it spreads them vertically. -/
def Rule.ContainerDecision.axis (d : ContainerDecision) : GridAxis :=
  if d.spaceBetween = true ∧ d.orientationOrDefault = .vertical then .row else .column

/-- The attributes that tell where a child of a grid is. -/
def cellNames : List String :=
  ["Grid.Row", "Grid.Column", "Grid.RowSpan", "Grid.ColumnSpan"]

/-- Only grids set them. -/
theorem notMem_of_mem_cellNames : ∀ name ∈ cellNames, name ∉ "Margin" :: builtNames := by
  decide

/-- A control has been put into a track of an axis: the attribute of the axis says so, and all else is as before. -/
structure PutInto (axis : GridAxis) (track : Nat) (before control : UiNode) : Prop where
  track : control.get? axis.attribute = some (toString track)
  others : ∀ name, name ≠ axis.attribute → control.get? name = before.get? name
  form : control.form = before.form

/-! ## Tracks of children -/

/-- The track of the child at a place among `count` in a grid that stands in for a stack. -/
def stackCell (d : ContainerDecision) (count index : Nat) : Nat :=
  if d.spaceBetween then spreadTrack index count else index

/-- The tracks of `count` children in their order. -/
def stackCells (d : ContainerDecision) (count : Nat) : List Nat :=
  (List.range count).map (stackCell d count)

/-- Children are in their order in existing tracks: the first one in the first track, and the last of several in the last. -/
structure CellsInOrder (tracks : Nat) (cells : List Nat) : Prop where
  inside : ∀ cell ∈ cells, cell < tracks
  first : ∀ cell ∈ cells.head?, cell = 0
  ordered : cells.Pairwise (· ≤ ·)
  last : 2 ≤ cells.length → ∀ cell ∈ cells.getLast?, cell + 1 = tracks

/-- Of children that are spread, none is in a track before that of an earlier child. -/
theorem spreadTrack_le_spreadTrack {i j count : Nat} (h : i ≤ j) (hj : j < count) :
    spreadTrack i count ≤ spreadTrack j count := by
  unfold spreadTrack
  split_ifs <;> omega

/-- Children that are spread are in one of three tracks. -/
theorem spreadTrack_lt (index count : Nat) : spreadTrack index count < spreadTracks.length := by
  unfold spreadTrack
  split_ifs <;> decide

/-- There is a column for each child. -/
theorem length_childColumns (isRoot : Bool) (children : List SceneNode) :
    (childColumns isRoot children).length = children.length := by
  induction children with
  | nil => rfl
  | cons child rest ih => rw [childColumns, List.length_cons, List.length_cons, ih]

section

variable (d : ContainerDecision) (count : Nat)

/-- The number of tracks over which `count` children are placed. -/
def stackTrackCount : Nat :=
  if d.spaceBetween then spreadTracks.length else count

variable {d count}

@[simp] theorem length_stackCells : (stackCells d count).length = count := by
  simp [stackCells]

theorem getElem?_stackCells {index : Nat} (h : index < count) :
    (stackCells d count)[index]? = some (stackCell d count index) := by
  simp [stackCells, h]

/-- No child is in a track before that of an earlier one. -/
theorem stackCell_le_stackCell {i j : Nat} (h : i ≤ j) (hj : j < count) : stackCell d count i ≤ stackCell d count j := by
  unfold stackCell
  split
  · exact spreadTrack_le_spreadTrack h hj
  · exact h

/-- Every child is in one of the tracks. -/
theorem stackCell_lt {index : Nat} (h : index < count) : stackCell d count index < stackTrackCount d count := by
  unfold stackCell stackTrackCount
  split
  · exact spreadTrack_lt index count
  · exact h

/-- The last of several children is in the last track. -/
theorem stackCell_last (h : 2 ≤ count) : stackCell d count (count - 1) + 1 = stackTrackCount d count := by
  unfold stackCell stackTrackCount
  split
  · rw [spreadTrack, if_neg (by omega), if_pos (by omega)]
    rfl
  · omega

/-- The children are in their order in the tracks of the grid. -/
theorem cellsInOrder_stackCells : CellsInOrder (stackTrackCount d count) (stackCells d count) where
  inside := by
    intro cell hcell
    obtain ⟨index, hindex, rfl⟩ := List.mem_map.1 hcell
    exact stackCell_lt (List.mem_range.1 hindex)
  first := by
    intro cell hcell
    cases count with
    | zero => nomatch hcell
    | succ k =>
      rw [stackCells, List.range_succ_eq_map, List.map_cons, List.head?_cons] at hcell
      obtain rfl := Option.some.inj hcell
      unfold stackCell spreadTrack
      split <;> rfl
  ordered := by
    unfold stackCells
    rw [List.pairwise_map]
    refine List.pairwise_lt_range.imp_of_mem ?_
    intro i j _ hj hlt
    exact stackCell_le_stackCell (Nat.le_of_lt hlt) (List.mem_range.1 hj)
  last := by
    intro hlength cell hcell
    rw [length_stackCells] at hlength
    rw [stackCells, List.getLast?_map, List.getLast?_range, if_neg (by omega)] at hcell
    obtain rfl := Option.some.inj hcell
    exact stackCell_last hlength

/-- Where children are not spread, no two of them are in the same track. -/
theorem nodup_stackCells (h : d.spaceBetween = false) : (stackCells d count).Nodup := by
  have hcells : stackCells d count = List.range count := by
    unfold stackCells stackCell
    rw [h]
    simp
  rw [hcells]
  exact List.nodup_range

end

/-- A child is put into a grid that stands in for a stack by one attribute. -/
theorem placeInStack_eq (d : ContainerDecision) (index count : Nat) (u : UiNode) :
    placeInStack d index count u = u.set d.axis.attribute (toString (stackCell d count index)) := by
  unfold placeInStack ContainerDecision.axis stackCell
  cases d.spaceBetween with
  | false => rfl
  | true => cases d.orientationOrDefault <;> rfl

/-- What is set on a control puts it into a track. -/
theorem putInto_set (axis : GridAxis) (track : Nat) (u : UiNode) :
    PutInto axis track u (u.set axis.attribute (toString track)) where
  track := by rw [UiNode.get?_set, if_pos rfl]
  others := by
    intro name hname
    rw [UiNode.get?_set, if_neg hname]
  form := UiNode.form_set u axis.attribute _

/-! ## Frames -/

namespace SceneNode

variable {g : Engine} {isRoot : Bool} {n : SceneNode}

/-- The tracks of the container of a frame are those that follow from the decision. -/
theorem tracks_unboxed (c : BuildContext) (hk : n.kind = .frame) (axis : GridAxis) :
    (n.buildIn g isRoot c).value.unboxed.tracks axis = (n.container g isRoot).tracks axis := by
  cases axis with
  | row => exact rows_unboxed c hk
  | column => exact columns_unboxed c hk

/-- A grid that stands in for a stack has three tracks to spread its children, or a column for each of them. -/
theorem tracks_container_of_useGrid (ht : (n.decision g isRoot).containerType = .grid)
    (hu : (n.decision g isRoot).useGrid = true) (hl : (n.decision g isRoot).useGridLayout = false) :
    (n.container g isRoot).tracks (n.decision g isRoot).axis =
      if (n.decision g isRoot).spaceBetween then spreadTracks else childColumns isRoot n.shown := by
  unfold container containerOf withTracks gridContainer ContainerDecision.axis
  rw [ht, hu, hl]
  cases (n.decision g isRoot).spaceBetween with
  | false => rfl
  | true => cases (n.decision g isRoot).orientationOrDefault <;> rfl

/-- A grid that stands in for a stack has as many tracks as its children are placed over. -/
theorem length_tracks_of_useGrid (ht : (n.decision g isRoot).containerType = .grid)
    (hu : (n.decision g isRoot).useGrid = true) (hl : (n.decision g isRoot).useGridLayout = false) :
    ((n.container g isRoot).tracks (n.decision g isRoot).axis).length =
      stackTrackCount (n.decision g isRoot) n.shown.length := by
  rw [tracks_container_of_useGrid ht hu hl]
  unfold stackTrackCount
  split
  · rfl
  · exact length_childColumns isRoot n.shown

/-- A child of a grid that stands in for a stack is put into its track. -/
theorem cellControl_of_useGrid (hu : (n.decision g isRoot).useGrid = true)
    (hl : (n.decision g isRoot).useGridLayout = false) (index : Nat) (child : SceneNode) :
    n.cellControl g isRoot index child =
      (n.looseControl g isRoot index child).set (n.decision g isRoot).axis.attribute
        (toString (stackCell (n.decision g isRoot) n.shown.length index)) := by
  have hplan : (n.plan g isRoot).decision = n.decision g isRoot := rfl
  have hcount : (n.plan g isRoot).count = n.shown.length := rfl
  unfold cellControl ChildPlan.place
  rw [hplan, hu, hl, hcount, if_neg Bool.false_ne_true, if_pos rfl]
  exact placeInStack_eq ..

/-- Where a frame has no grid of its own, its children have no other attributes from it but those of a cell. -/
theorem get?_cellControl_of_notMem (hl : (n.decision g isRoot).useGridLayout = false) {name : String}
    (hname : name ∉ cellNames) (index : Nat) (child : SceneNode) :
    (n.cellControl g isRoot index child).get? name = (n.looseControl g isRoot index child).get? name := by
  cases hu : (n.decision g isRoot).useGrid with
  | true =>
    have haxis : ∀ axis : GridAxis, axis.attribute ∈ cellNames := by
      intro axis
      cases axis <;> decide
    rw [cellControl_of_useGrid hu hl]
    exact (putInto_set ..).others name fun he => hname (he ▸ haxis _)
  | false =>
    have hplan : (n.plan g isRoot).decision = n.decision g isRoot := rfl
    unfold cellControl ChildPlan.place
    rw [hplan, hu, hl]
    rfl

/-- A frame that the rules lay out in a grid that stands in for a stack has a control for each visible child, which is put
into one track of the axis of the grid and otherwise left as it was; before it has an attribute of a cell only by a rule. The
children are in existing tracks in their order, the first one in the first track and the last of several in the last one.
Where they are not spread, each has a column of its own. -/
theorem placed_of_useGrid (c : BuildContext) (hk : n.kind = .frame) (ht : (n.decision g isRoot).containerType = .grid)
    (hu : (n.decision g isRoot).useGrid = true) (hl : (n.decision g isRoot).useGridLayout = false) :
    ∃ cells : List Nat,
      CellsInOrder ((n.buildIn g isRoot c).value.unboxed.tracks (n.decision g isRoot).axis).length cells ∧
      cells.length = n.shown.length ∧
      (n.buildIn g isRoot c).value.unboxed.children.length = n.shown.length ∧
      (∀ index child, n.shown[index]? = some child →
        ∃ cell control, cells[index]? = some cell ∧
          (n.buildIn g isRoot c).value.unboxed.children[index]? = some control ∧
          PutInto (n.decision g isRoot).axis cell (n.looseControl g isRoot index child) control ∧
          ∀ name ∈ cellNames, (∀ other, name ∉ g.attributeNames other) →
            (n.looseControl g isRoot index child).get? name = none) ∧
      ((n.decision g isRoot).spaceBetween = false →
        (n.buildIn g isRoot c).value.unboxed.columns.length = n.shown.length ∧ cells.Nodup) := by
  have htracks : ((n.buildIn g isRoot c).value.unboxed.tracks (n.decision g isRoot).axis).length =
      stackTrackCount (n.decision g isRoot) n.shown.length := by
    rw [tracks_unboxed c hk, length_tracks_of_useGrid ht hu hl]
  refine ⟨stackCells (n.decision g isRoot) n.shown.length, ?_, length_stackCells, ?_, ?_, ?_⟩
  · rw [htracks]
    exact cellsInOrder_stackCells
  · rw [children_unboxed c hk, List.length_mapIdx]
  · intro index child hchild
    obtain ⟨hindex, -⟩ := List.getElem?_eq_some_iff.1 hchild
    refine ⟨_, _, getElem?_stackCells hindex, getElem?_children_unboxed c hk hchild, ?_, ?_⟩
    · rw [cellControl_of_useGrid hu hl]
      exact putInto_set ..
    · intro name hname hrules
      exact get?_buildIn_of_notMem (notMem_of_mem_cellNames name hname) hrules child _
  · intro hspace
    -- Rows are only for children that are spread, so the tracks are columns.
    have haxis : (n.decision g isRoot).axis = .column := by
      rw [ContainerDecision.axis, if_neg (by simp [hspace])]
    rw [haxis, stackTrackCount, hspace] at htracks
    exact ⟨htracks, nodup_stackCells hspace⟩

/-- Rules that spread the children of every frame vertically, and put boxes into a row of their own choice. -/
def spreadingRules : Rule.RuleConfig where
  containerRules := [⟨"spread", "true", ⟨.grid, some .vertical, true, false, true⟩⟩]
  attributeRules := [("Border", [("Grid.Row", [⟨"true", "7"⟩])])]

/-- A frame around three squares, of which the second one is hidden, and a text. -/
def mixedColumn : SceneNode :=
  .mk [("type", .str "FRAME")]
    (some [.mk [("type", .str "RECTANGLE")] none, .mk [("type", .str "RECTANGLE"), ("visible", .bool false)] none,
      .mk [("type", .str "TEXT")] none, .mk [("type", .str "RECTANGLE")] none])

/-- The rule for frames always holds. -/
theorem decision_spreadingRules (n : SceneNode) (isRoot : Bool) :
    n.decision (Engine.compile spreadingRules .builtin).value isRoot = ⟨.grid, some .vertical, true, false, true⟩ := by
  have htokens : Rule.tokens "true".toList = .ok [.word "true"] := by cbv
  have hparse : Rule.parseSource "true" = .ok (.literal (.bool true)) :=
    Rule.parseSource_of_tokens htokens (by with_unfolding_all rfl)
  have hholds : ∀ context, ((Rule.Condition.ofSource "true").holds context).value = true := by
    intro context
    exact Rule.Condition.value_holds_of_evaluate hparse rfl
  refine Engine.value_selectContainer_of_firstMatch ?_ (by decide)
  rw [Engine.containerRules_compile, spreadingRules]
  simp [Rule.firstMatch, Engine.compiledContainer, hholds]

/-- The last square is in the last of three rows, whatever row the rules put it into. -/
theorem placed_of_useGrid_mixedColumn :
    mixedColumn.kind = .frame ∧
      (mixedColumn.decision (Engine.compile spreadingRules .builtin).value false).containerType = .grid ∧
      (mixedColumn.decision (Engine.compile spreadingRules .builtin).value false).useGrid = true ∧
      (mixedColumn.decision (Engine.compile spreadingRules .builtin).value false).useGridLayout = false ∧
      ∃ control, (mixedColumn.buildIn (Engine.compile spreadingRules .builtin).value false .root).value.unboxed.children[2]? =
          some control ∧ control.get? "Grid.Row" = some "2" := by
  have hd := decision_spreadingRules mixedColumn false
  have ht := congrArg ContainerDecision.containerType hd
  have hu := congrArg ContainerDecision.useGrid hd
  have hl := congrArg ContainerDecision.useGridLayout hd
  obtain ⟨cells, hcells, hlength, -, hchildren, -⟩ := placed_of_useGrid .root (rfl : mixedColumn.kind = .frame) ht hu hl
  obtain ⟨cell, control, hcell, hcontrol, hput, -⟩ := hchildren 2 _ rfl
  have hthree : cells.length = 3 := hlength
  have hlast : cells.getLast? = some cell := by
    rw [List.getLast?_eq_getElem?, hthree]
    exact hcell
  have htracks := hcells.last (by omega) cell hlast
  rw [tracks_unboxed .root rfl, tracks_container_of_useGrid ht hu hl, hd] at htracks
  obtain rfl : cell = 2 := Nat.succ.inj htracks
  have hrow := hput.track
  rw [hd] at hrow
  exact ⟨rfl, ht, hu, hl, control, hcontrol, hrow⟩

end SceneNode

end SceneMarkup
