import SceneMarkup.Proofs.Markup.Reads
import SceneMarkup.Proofs.Ui.Outline

/-!
# Reading markup back

The markup of a tree is read back as the elements that the tree shows (`UiNode.read?_markup`): one for each control, with its
attributes, its tracks and the controls inside it. This holds whatever the values, the tracks and the comments say, if the
names of attributes are names and the indentation is white space.
-/

namespace SceneMarkup

open Markup

namespace UiNode

/-! ## The elements of a tree -/

/-- The element of the tracks on one axis, if there are any: a block with an element for each track. -/
def axisElements (block track size : String) : List String → List Element
  | [] => []
  | sizes => [.mk block [] (sizes.map fun s => .mk track [(size, s)] [])]

/-- The elements of the tracks of a grid, the rows first. -/
def trackElements (n : UiNode) : List Element :=
  match n.kind with
  | .gridContainer =>
    axisElements "Grid.RowDefinitions" "RowDefinition" "Height" n.rows ++
      axisElements "Grid.ColumnDefinitions" "ColumnDefinition" "Width" n.columns
  | _ => []

mutual
/-- The elements that a tree shows: one with the elements of its tracks and of the controls inside it, or none if it is the
place of a node without control. -/
def elements : UiNode → List Element
  | ⟨kind, attributes, children, comment, rows, columns⟩ =>
    match kind.control? with
    | none => []
    | some tag =>
      [.mk tag attributes (trackElements ⟨kind, attributes, [], comment, rows, columns⟩ ++ elementsOfAll children)]

/-- The elements that the trees of a list show. -/
def elementsOfAll : List UiNode → List Element
  | [] => []
  | n :: rest => n.elements ++ elementsOfAll rest
end

/-- The trees of a list show their elements one after the other. -/
theorem elementsOfAll_eq_flatMap (trees : List UiNode) : elementsOfAll trees = trees.flatMap elements := by
  induction trees with
  | nil => simp [elementsOfAll]
  | cons n rest ih => simp [elementsOfAll, ih]

/-- The trees of a list are written one after the other. -/
theorem childrenChars_eq_flatMap (o : MarkupOptions) (depth : Nat) (trees : List UiNode) :
    childrenChars o depth trees = trees.flatMap (markupChars o depth) := by
  induction trees with
  | nil => simp [childrenChars]
  | cons n rest ih => simp [childrenChars, ih]

/-- The place of a node without control is written as its comment. -/
theorem markupChars_of_control?_eq_none {n : UiNode} (h : n.kind.control? = none) (o : MarkupOptions) (depth : Nat) :
    n.markupChars o depth = commentLine o depth n.comment := by
  obtain ⟨kind, attributes, children, comment, rows, columns⟩ := n
  change kind.control? = none at h
  rw [markupChars, h]
  simp

/-- A control without contents is written as the tag of an empty element. -/
theorem markupChars_of_isEmpty {n : UiNode} {tag : String} (h : n.kind.control? = some tag) (hc : n.children = [])
    (ht : n.hasTracks = false) (o : MarkupOptions) (depth : Nat) :
    n.markupChars o depth = commentLine o depth n.comment ++
      (indentAt o depth ++ ('<' :: tag.toList ++ attributeChars n.attributes ++ " />\n".toList)) := by
  obtain ⟨kind, attributes, children, comment, rows, columns⟩ := n
  change kind.control? = some tag at h
  change UiNode.hasTracks ⟨kind, attributes, [], none, rows, columns⟩ = false at ht
  obtain rfl : children = [] := hc
  rw [markupChars, h]
  simp [ht]

/-- Any other control is written as an element around its tracks and the controls inside it. -/
theorem markupChars_of_not_isEmpty {n : UiNode} {tag : String} (h : n.kind.control? = some tag)
    (hne : ¬(n.children = [] ∧ n.hasTracks = false)) (o : MarkupOptions) (depth : Nat) :
    n.markupChars o depth = commentLine o depth n.comment ++
      (indentAt o depth ++ ('<' :: tag.toList ++ attributeChars n.attributes ++ ">\n".toList ++
        (tracksChars o (depth + 1) tag n ++ n.children.flatMap (markupChars o (depth + 1))) ++
        indentAt o depth ++ '<' :: '/' :: tag.toList ++ ">\n".toList)) := by
  obtain ⟨kind, attributes, children, comment, rows, columns⟩ := n
  change kind.control? = some tag at h
  change ¬(children = [] ∧ UiNode.hasTracks ⟨kind, attributes, [], none, rows, columns⟩ = false) at hne
  have hif : (children.isEmpty && !UiNode.hasTracks ⟨kind, attributes, [], none, rows, columns⟩) = false := by
    simpa using hne
  have htracks : tracksChars o (depth + 1) tag ⟨kind, attributes, children, comment, rows, columns⟩ =
      tracksChars o (depth + 1) tag ⟨kind, attributes, [], none, rows, columns⟩ := rfl
  rw [markupChars, h, childrenChars_eq_flatMap, htracks]
  simp [hif]

/-- The place of a node without control shows no element. -/
theorem elements_of_control?_eq_none {n : UiNode} (h : n.kind.control? = none) : n.elements = [] := by
  obtain ⟨kind, attributes, children, comment, rows, columns⟩ := n
  change kind.control? = none at h
  rw [elements, h]

/-- A control shows one element, around the elements of its tracks and of the controls inside it. -/
theorem elements_of_control? {n : UiNode} {tag : String} (h : n.kind.control? = some tag) :
    n.elements = [.mk tag n.attributes (n.trackElements ++ n.children.flatMap elements)] := by
  obtain ⟨kind, attributes, children, comment, rows, columns⟩ := n
  change kind.control? = some tag at h
  rw [elements, h, elementsOfAll_eq_flatMap]
  rfl

/-- A control without tracks has no elements of tracks. -/
theorem trackElements_of_hasTracks_eq_false {n : UiNode} (h : n.hasTracks = false) : n.trackElements = [] := by
  unfold trackElements
  split
  next hgrid =>
    obtain ⟨hr, hc⟩ : n.rows = [] ∧ n.columns = [] := by
      simpa [hasTracks, hgrid] using h
    rw [hr, hc]
    rfl
  next => rfl

/-- The name of a control is the name of a tag. -/
theorem isTag_of_control? {kind : UiKind} {tag : String} (h : kind.control? = some tag) : IsTag isBlank tag := by
  cases kind <;> cases h <;> exact ⟨by decide, by decide⟩

section

variable {space : Char → Bool} {o : MarkupOptions} {r : Reader} (hs : IsSpace space)
  (hindent : ∀ c ∈ o.indent.toList, space c = true)

include hindent

/-! ## Tracks -/

/-- The indentation is white space. -/
theorem forall_mem_indentAt (depth : Nat) : ∀ c ∈ indentAt o depth, space c = true := by
  intro c hc
  obtain ⟨step, hstep, hcs⟩ := List.mem_flatten.1 hc
  rw [List.eq_of_mem_replicate hstep] at hcs
  exact hindent c hcs

/-- The indentation is passed over. -/
theorem reads_indentAt (depth : Nat) (r : Reader) :
    Reads space (r.goTo .between) (indentAt o depth) (r.goTo .between) :=
  reads_space (forall_mem_indentAt hindent depth)

include hs

/-- The line of a track is read as its element. -/
theorem reads_trackLine (depth : Nat) {element size : String} (he : IsTag isBlank element) (hn : IsTag isBlank size)
    (track : String) (r : Reader) :
    Reads space (r.goTo .between) (trackLine o depth element size track) (r.add [.mk element [(size, track)] []]) := by
  have hname : ∀ p ∈ [(size, track)], IsName space p.1 := by
    intro p hp
    rw [List.mem_singleton] at hp
    rw [hp]
    exact (hn.of_isBlank hs).name
  have hline := (reads_indentAt hindent depth r).append (reads_emptyTag hs (he.of_isBlank hs) hname)
  simpa [trackLine] using hline

/-- The block of the tracks on one axis is read as their element. -/
theorem reads_trackBlock (depth : Nat) {tag element size block : String} (hb : block = tag ++ "." ++ element ++ "s")
    (ht : IsTag isBlank block) (he : IsTag isBlank element) (hn : IsTag isBlank size) (tracks : List String) (r : Reader) :
    Reads space (r.goTo .between) (trackBlock o depth tag element size tracks)
      (r.add (axisElements block element size tracks)) := by
  cases tracks with
  | nil =>
    rw [axisElements, Reader.add_nil]
    exact .nil
  | cons track rest =>
    have hname : tag.toList ++ '.' :: element.toList ++ ['s'] = block.toList := by
      rw [hb]
      simp
    have hlines : ∀ r : Reader, Reads space (r.goTo .between)
        ((track :: rest).flatMap (trackLine o (depth + 1) element size))
        (r.add ((track :: rest).map fun s => .mk element [(size, s)] [])) := by
      intro r
      rw [List.map_eq_flatMap]
      exact reads_flatMap fun track _ r => reads_trackLine hs hindent (depth + 1) he hn track r
    have hnone : ∀ p ∈ ([] : List (String × String)), IsName space p.1 := by simp
    have hblock := reads_element (r := r) hs (ht.of_isBlank hs) hnone hlines (forall_mem_indentAt hindent depth)
    have hall := (reads_indentAt hindent depth r).append hblock
    rw [trackBlock, if_neg (by simp)]
    simp only [hname]
    simpa [attributeChars, axisElements] using hall

/-- The tracks of a control are read as their elements. -/
theorem reads_tracksChars (depth : Nat) {n : UiNode} {tag : String} (ht : n.kind.control? = some tag) (r : Reader) :
    Reads space (r.goTo .between) (tracksChars o depth tag n) (r.add n.trackElements) := by
  unfold tracksChars
  cases htracks : n.hasTracks with
  | false =>
    rw [trackElements_of_hasTracks_eq_false htracks, Reader.add_nil]
    exact .nil
  | true =>
    have hgrid : n.kind = .gridContainer := by
      simp only [hasTracks, Bool.and_eq_true, beq_iff_eq] at htracks
      exact htracks.1
    rw [hgrid] at ht
    obtain rfl : "Grid" = tag := Option.some.inj ht
    let rows := axisElements "Grid.RowDefinitions" "RowDefinition" "Height" n.rows
    let columns := axisElements "Grid.ColumnDefinitions" "ColumnDefinition" "Width" n.columns
    have hrows : Reads space (r.goTo .between) (trackBlock o depth "Grid" "RowDefinition" "Height" n.rows) (r.add rows) :=
      reads_trackBlock hs hindent depth (by decide) ⟨by decide, by decide⟩ ⟨by decide, by decide⟩ ⟨by decide, by decide⟩
        n.rows r
    have hcolumns : Reads space (r.add rows) (trackBlock o depth "Grid" "ColumnDefinition" "Width" n.columns)
        ((r.add rows).add columns) :=
      reads_trackBlock hs hindent depth (by decide) ⟨by decide, by decide⟩ ⟨by decide, by decide⟩ ⟨by decide, by decide⟩
        n.columns (r.add rows)
    rw [Reader.add_add] at hcolumns
    have hboth := hrows.append hcolumns
    simpa [trackElements, hgrid] using hboth

/-! ## Trees -/

/-- The line of a comment is passed over. -/
theorem reads_commentLine (depth : Nat) (comment : Option String) :
    Reads space (r.goTo .between) (commentLine o depth comment) (r.goTo .between) := by
  cases comment with
  | none => exact .nil
  | some comment =>
    have hline := (reads_indentAt hindent depth r).append (reads_comment hs comment)
    simpa [commentLine] using hline

/-- The markup of a tree is read as the elements that it shows, at any depth and wherever the reader is. -/
theorem reads_markupChars {n : UiNode} (hnames : ∀ m ∈ n.nodes, ∀ p ∈ m.attributes, IsName space p.1) (depth : Nat)
    (r : Reader) :
    Reads space (r.goTo .between) (n.markupChars o depth) (r.add n.elements) := by
  induction n using byParts generalizing depth r with
  | node n ih =>
    have hcomment := reads_commentLine (r := r) hs hindent depth n.comment
    have hblank := reads_indentAt hindent depth r
    have hown : ∀ p ∈ n.attributes, IsName space p.1 := hnames n (mem_nodes.2 (.inl rfl))
    have hchildren : ∀ c ∈ n.children, ∀ r : Reader,
        Reads space (r.goTo .between) (c.markupChars o (depth + 1)) (r.add c.elements) := by
      intro c hc r
      exact ih c hc (fun m hm => hnames m (mem_nodes.2 (.inr ⟨c, hc, hm⟩))) (depth + 1) r
    cases hcontrol : n.kind.control? with
    | none =>
      rw [elements_of_control?_eq_none hcontrol, Reader.add_nil, markupChars_of_control?_eq_none hcontrol]
      exact hcomment
    | some tag =>
      have ht : IsTag space tag := (isTag_of_control? hcontrol).of_isBlank hs
      have hinside : ∀ r : Reader, Reads space (r.goTo .between)
          (tracksChars o (depth + 1) tag n ++ n.children.flatMap (markupChars o (depth + 1)))
          (r.add (n.trackElements ++ n.children.flatMap elements)) := by
        intro r
        have htracks := reads_tracksChars hs hindent (depth + 1) hcontrol r
        have hall := reads_flatMap (r := r.add n.trackElements) hchildren
        rw [Reader.add_add] at hall
        exact htracks.append hall
      rw [elements_of_control? hcontrol]
      by_cases hempty : n.children = [] ∧ n.hasTracks = false
      · rw [markupChars_of_isEmpty hcontrol hempty.1 hempty.2, trackElements_of_hasTracks_eq_false hempty.2, hempty.1]
        exact hcomment.append (hblank.append (reads_emptyTag hs ht hown))
      · rw [markupChars_of_not_isEmpty hcontrol hempty]
        exact hcomment.append (hblank.append (reads_element hs ht hown hinside (forall_mem_indentAt hindent depth)))

end

/-- What a tree is written as is read back as the elements that it shows, at any depth of indentation. -/
theorem read?_markup {space : Char → Bool} (hs : IsSpace space) {o : MarkupOptions}
    (hindent : ∀ c ∈ o.indent.toList, space c = true) {n : UiNode}
    (hnames : ∀ m ∈ n.nodes, ∀ p ∈ m.attributes, IsName space p.1) (depth : Nat) :
    read? space (n.markup o depth) = some n.elements := by
  have hreads : Reads space ⟨[], [], .between⟩ (n.markupChars o depth) ⟨[], n.elements, .between⟩ :=
    reads_markupChars hs hindent hnames depth ⟨[], [], .between⟩
  unfold Reads at hreads
  rw [read?, markup, String.toList_ofList, hreads]

/-- A grid whose texts look like markup, around a text and the place of a node without control. -/
def quotingGrid : UiNode where
  kind := .gridContainer
  attributes := [("x:Name", "\"a\" <b> &amp; --> 'c'"), ("Tag", "")]
  children :=
    [⟨.textLeaf, [("Text", "</Grid>")], [], some "-- --->", [], []⟩,
      ⟨.unknown, [("Text", "?")], [.ofKind .box], some "unsupported <node> --", [], []⟩]
  comment := some "<!-- - -- -->"
  rows := ["2*", "\"/>"]
  columns := ["&lt;"]

/-- The grid is read back with its tracks and its text, and with all its quotes. -/
theorem read?_markup_quotingGrid :
    IsSpace Char.isWhitespace ∧ (∀ c ∈ MarkupOptions.default.indent.toList, c.isWhitespace = true) ∧
      (∀ m ∈ quotingGrid.nodes, ∀ p ∈ m.attributes, IsName Char.isWhitespace p.1) ∧
      read? Char.isWhitespace (quotingGrid.markup .default 3) =
        some [.mk "Grid" [("x:Name", "\"a\" <b> &amp; --> 'c'"), ("Tag", "")]
          [.mk "Grid.RowDefinitions" [] [.mk "RowDefinition" [("Height", "2*")] [], .mk "RowDefinition" [("Height", "\"/>")] []],
            .mk "Grid.ColumnDefinitions" [] [.mk "ColumnDefinition" [("Width", "&lt;")] []],
            .mk "TextBlock" [("Text", "</Grid>")] []]] := by
  have hindent : ∀ c ∈ MarkupOptions.default.indent.toList, c.isWhitespace = true := List.all_eq_true.1 (by decide)
  have hnames : ∀ m ∈ quotingGrid.nodes, ∀ p ∈ m.attributes, IsName Char.isWhitespace p.1 := by decide
  have hread := read?_markup isSpace_isWhitespace hindent hnames 3
  exact ⟨isSpace_isWhitespace, hindent, hnames, hread⟩

end UiNode

end SceneMarkup
