import Mathlib
import SceneMarkup.Proofs.Rule.Compile
import SceneMarkup.Proofs.Rule.Names
import SceneMarkup.Rule.Builtin

/-!
# The built-in rules

What the conditions and the templates of the built-in rules mention, and what the rules decide. They lay out grids, and only
those, in grids of their own (`Engine.selectContainer_builtin_grid`) and do not ask for the spacing of the parent
(`Engine.builtin_discreet`); a grid that stands in for a stack is a horizontal one (`Engine.useGrid_builtin_cases`).
-/

namespace SceneMarkup.Rule

/-- A text is the expression that its tokens are. -/
theorem parseSource_of_tokens {source : String} {ts : List Token} {e : Expr} (ht : tokens source.toList = .ok ts)
    (he : Expr.ofTokens ts = .ok e) : parseSource source = .ok e := by
  simp only [parseSource, Expr.parse, ht, bind, Except.bind, he, Except.mapError]

/-- A condition that has a value holds if the value counts as true. -/
theorem Condition.value_holds_of_evaluate {source : String} {e : Expr} {v : Value} {c : Context}
    (hp : parseSource source = .ok e) (he : e.evaluate c = .ok v) :
    ((Condition.ofSource source).holds c).value = v.isTruthy := by
  have hvalue : evaluateExpr e c = .ok v := congrArg (Except.mapError ExpressionError.eval) he
  unfold holds ofSource
  rw [hp]
  simp only [hvalue]
  rfl

/-- A name compared with a text. -/
theorem evaluate_equal {c : Context} {name s : String} {v : Value} (h : c.get? name = some v) :
    (Expr.compare (.name name) [(.equal, .literal (.str s))]).evaluate c = .ok (.bool (v.looseEqual (.str s))) := by
  simp only [Expr.evaluate, Expr.evaluateChain, h, bind, Except.bind, Value.holds]
  cases v.looseEqual (.str s) <;> rfl

/-- A name of a text compared with a text. -/
theorem evaluate_equal_str {c : Context} {name s t : String} (h : c.get? name = some (.str t)) :
    (Expr.compare (.name name) [(.equal, .literal (.str s))]).evaluate c = .ok (.bool (t == s)) := by
  rw [evaluate_equal h, Value.looseEqual]

/-- Of two expressions joined by `and` the second one decides if the first one has a truth value that holds. -/
theorem evaluate_and {c : Context} {a b : Expr} {p : Bool} (ha : a.evaluate c = .ok (.bool p)) :
    (Expr.and a b).evaluate c = if p then b.evaluate c else .ok (.bool false) := by
  simp only [Expr.evaluate, ha, bind, Except.bind]
  cases p <;> rfl

/-- The condition of the rule for grids. -/
theorem parseSource_grid : parseSource "layout_mode == 'GRID'" =
    .ok (.compare (.name "layout_mode") [(.equal, .literal (.str "GRID"))]) := by
  have ht : tokens "layout_mode == 'GRID'".toList = .ok [.word "layout_mode", .symbol .equal, .str "GRID"] := by cbv
  exact parseSource_of_tokens ht (by with_unfolding_all rfl)

/-- Only a text is equal to a text. -/
theorem Value.eq_of_looseEqual_str {v : Value} {s : String} (h : v.looseEqual (.str s) = true) : v = .str s := by
  cases v with
  | str a => simpa [looseEqual] using h
  | _ => simp [looseEqual, numbers?, number?] at h

/-- The condition of the rule for grids holds only for them. -/
theorem get?_of_holds_grid {c : Context} (h : ((Condition.ofSource "layout_mode == 'GRID'").holds c).value = true) :
    c.get? "layout_mode" = some (.str "GRID") := by
  cases hc : c.get? "layout_mode" with
  | none =>
    unfold Condition.holds Condition.ofSource at h
    rw [parseSource_grid] at h
    simp [evaluateExpr, Expr.evaluate, hc, Except.mapError, bind, Except.bind] at h
  | some v =>
    rw [Condition.value_holds_of_evaluate parseSource_grid (evaluate_equal hc)] at h
    rw [Value.eq_of_looseEqual_str h]

/-- The conditions of the rules for wrapping panels and for children that are spread. -/
theorem parseSource_horizontal :
    parseSource "layout_mode == 'HORIZONTAL' and layout_wrap == 'WRAP'" =
        .ok (.and (.compare (.name "layout_mode") [(.equal, .literal (.str "HORIZONTAL"))])
          (.compare (.name "layout_wrap") [(.equal, .literal (.str "WRAP"))])) ∧
      parseSource
          "layout_mode == 'HORIZONTAL' and primary_axis_align == 'SPACE_BETWEEN' and visible_children_count > 1" =
        .ok (.and (.and (.compare (.name "layout_mode") [(.equal, .literal (.str "HORIZONTAL"))])
            (.compare (.name "primary_axis_align") [(.equal, .literal (.str "SPACE_BETWEEN"))]))
          (.compare (.name "visible_children_count") [(.greater, .literal (.number 1))])) := by
  have hwrap : tokens "layout_mode == 'HORIZONTAL' and layout_wrap == 'WRAP'".toList =
      .ok [.word "layout_mode", .symbol .equal, .str "HORIZONTAL", .word "and", .word "layout_wrap", .symbol .equal,
        .str "WRAP"] := by cbv
  have hspread : tokens
        "layout_mode == 'HORIZONTAL' and primary_axis_align == 'SPACE_BETWEEN' and visible_children_count > 1".toList =
      .ok [.word "layout_mode", .symbol .equal, .str "HORIZONTAL", .word "and", .word "primary_axis_align", .symbol .equal,
        .str "SPACE_BETWEEN", .word "and", .word "visible_children_count", .symbol .greater, .number 1] := by
    with_unfolding_all rfl
  exact ⟨parseSource_of_tokens hwrap (by with_unfolding_all rfl),
    parseSource_of_tokens hspread (by with_unfolding_all rfl)⟩

/-! ## Attribute rules -/

/-- The condition of the rule for the height of lines. -/
theorem parseSource_lineHeight : parseSource "line_height_unit == 'PIXELS' and line_height is not None" =
    .ok (.and (.compare (.name "line_height_unit") [(.equal, .literal (.str "PIXELS"))])
      (.compare (.name "line_height") [(.isNot, .literal .none)])) := by
  have ht : tokens "line_height_unit == 'PIXELS' and line_height is not None".toList =
      .ok [.word "line_height_unit", .symbol .equal, .str "PIXELS", .word "and", .word "line_height", .word "is",
        .word "not", .word "None"] := by cbv
  exact parseSource_of_tokens ht (by with_unfolding_all rfl)

/-- The condition of the rule for wrapping. -/
theorem parseSource_wrapping :
    parseSource "text_auto_resize in ['HEIGHT', 'NONE'] and sizing_horizontal != 'HUG'" =
    .ok (.and (.compare (.name "text_auto_resize") [(.isIn, .list [.literal (.str "HEIGHT"), .literal (.str "NONE")])])
      (.compare (.name "sizing_horizontal") [(.notEqual, .literal (.str "HUG"))])) := by
  have ht : tokens "text_auto_resize in ['HEIGHT', 'NONE'] and sizing_horizontal != 'HUG'".toList =
      .ok [.word "text_auto_resize", .word "in", .symbol .openBracket, .str "HEIGHT", .symbol .comma, .str "NONE",
        .symbol .closeBracket, .word "and", .word "sizing_horizontal", .symbol .notEqual, .str "HUG"] := by cbv
  exact parseSource_of_tokens ht (by with_unfolding_all rfl)

/-- The condition of a rule for an alignment. -/
theorem parseSource_alignment :
    parseSource "text_align_horizontal == 'CENTER'" =
        .ok (.compare (.name "text_align_horizontal") [(.equal, .literal (.str "CENTER"))]) ∧
      parseSource "text_align_horizontal == 'RIGHT'" =
        .ok (.compare (.name "text_align_horizontal") [(.equal, .literal (.str "RIGHT"))]) ∧
      parseSource "text_align_horizontal == 'JUSTIFIED'" =
        .ok (.compare (.name "text_align_horizontal") [(.equal, .literal (.str "JUSTIFIED"))]) := by
  have hcenter : tokens "text_align_horizontal == 'CENTER'".toList =
      .ok [.word "text_align_horizontal", .symbol .equal, .str "CENTER"] := by cbv
  have hright : tokens "text_align_horizontal == 'RIGHT'".toList =
      .ok [.word "text_align_horizontal", .symbol .equal, .str "RIGHT"] := by cbv
  have hjustified : tokens "text_align_horizontal == 'JUSTIFIED'".toList =
      .ok [.word "text_align_horizontal", .symbol .equal, .str "JUSTIFIED"] := by cbv
  exact ⟨parseSource_of_tokens hcenter (by with_unfolding_all rfl),
    parseSource_of_tokens hright (by with_unfolding_all rfl),
    parseSource_of_tokens hjustified (by with_unfolding_all rfl)⟩

/-- The template of the rule for the height of lines has one placeholder. -/
theorem namesOfTemplate_lineHeight : namesOfTemplate "\x7bline_height\x7d" = ["line_height"] := by
  have hsplit : Segment.split none "\x7bline_height\x7d".toList = [.placeholder "line_height".toList] := by cbv
  have htrim : String.ofList (trimBlank "line_height".toList) = "line_height" := by cbv
  have ht : tokens "line_height".toList = .ok [.word "line_height"] := by cbv
  have hparse : parseSource "line_height" = .ok (.name "line_height") :=
    parseSource_of_tokens ht (by with_unfolding_all rfl)
  simp only [namesOfTemplate, hsplit, List.flatMap_cons, List.flatMap_nil, Segment.names, namesOfSource, htrim, hparse,
    Expr.names, List.append_nil]

/-- A template without braces mentions nothing. -/
theorem namesOfTemplate_text {template : String} (h : '\x7b' ∉ template.toList) : namesOfTemplate template = [] := by
  have hsplit : ∀ cs : List Char, '\x7b' ∉ cs → (Segment.split none cs).flatMap Segment.names = [] := by
    intro cs hcs
    induction cs with
    | nil => rfl
    | cons c rest ih =>
      rw [List.mem_cons, not_or] at hcs
      rw [Segment.split, if_neg (Ne.symm hcs.1), List.flatMap_cons, ih hcs.2]
      rfl
  exact hsplit _ h

namespace Engine

/-- No built-in attribute rule asks for the spacing of the parent. -/
theorem spacing_notMem_namesAsked_builtin (control name : String) :
    "parent_spacing" ∉ Engine.builtin.namesAsked control name := by
  unfold namesAsked
  rw [List.mem_flatMap]
  rintro ⟨r, hr, hx⟩
  rw [builtin, rulesFor_compile, List.mem_map] at hr
  obtain ⟨rule, hrule, rfl⟩ := hr
  obtain ⟨m, hm, p, hp, hr⟩ := RuleConfig.exists_of_mem_rulesFor hrule
  simp only [RuleConfig.builtin, List.mem_singleton] at hm
  subst hm
  revert hx
  simp only [List.mem_cons, List.not_mem_nil, or_false] at hp
  rcases hp with rfl | rfl | rfl
  · simp only [List.mem_singleton] at hr
    subst hr
    simp [compiledAttribute, Condition.ofSource, Condition.names, parseSource_lineHeight, namesOfTemplate_lineHeight,
      Expr.names, Expr.namesOfChain]
  · simp only [List.mem_cons, List.not_mem_nil, or_false] at hr
    obtain ⟨hcenter, hright, hjustified⟩ := parseSource_alignment
    rcases hr with rfl | rfl | rfl
    · simp [compiledAttribute, Condition.ofSource, Condition.names, hcenter, namesOfTemplate_text, Expr.names,
        Expr.namesOfChain]
    · simp [compiledAttribute, Condition.ofSource, Condition.names, hright, namesOfTemplate_text, Expr.names,
        Expr.namesOfChain]
    · simp [compiledAttribute, Condition.ofSource, Condition.names, hjustified, namesOfTemplate_text, Expr.names,
        Expr.namesOfChain]
  · simp only [List.mem_singleton] at hr
    subst hr
    simp [compiledAttribute, Condition.ofSource, Condition.names, parseSource_wrapping, namesOfTemplate_text, Expr.names,
      Expr.namesOfChain, Expr.namesOfItems]

/-- The engine of the built-in rules holds them and the built-in mapping. -/
theorem builtin_config_mapping : builtin.config = .builtin ∧ builtin.mapping = .builtin := by
  rw [builtin, value_compile]
  exact ⟨rfl, rfl⟩

/-- The built-in rules name three attributes. -/
theorem notMem_attributeNames_builtin {name : String} (h : name ∉ ["LineHeight", "TextAlignment", "TextWrapping"])
    (control : String) : name ∉ builtin.attributeNames control := by
  intro hname
  obtain ⟨m, hm, p, hp, rfl⟩ := exists_of_mem_attributeNames hname
  rw [builtin_config_mapping.1] at hm
  simp only [RuleConfig.builtin, List.mem_singleton] at hm
  subst hm
  exact h (List.mem_map.2 ⟨p, hp, rfl⟩)

/-- A dimension of a fixed size is set, and does not stretch. -/
theorem setsDimension_builtin_fixed : builtin.setsDimension "FIXED" = true ∧ builtin.stretches "FIXED" = false := by
  unfold setsDimension stretches
  rw [builtin_config_mapping.2]
  exact ⟨rfl, rfl⟩

/-! ## Container rules -/

/-- What the built-in rules decide is the fallback, or the result of a rule whose condition holds. -/
theorem selectContainer_builtin_cases (c : Context) :
    (builtin.selectContainer c).value = .fallback ∨
      ∃ r ∈ RuleConfig.builtin.containerRules, ((Condition.ofSource r.condition).holds c).value = true ∧
        (builtin.selectContainer c).value = r.result := by
  rcases builtin.selectContainer_cases c with h | ⟨r, hr, hholds, h⟩
  · exact .inl h
  · rw [builtin, containerRules_compile, List.mem_map] at hr
    obtain ⟨rule, hrule, rfl⟩ := hr
    exact .inr ⟨rule, hrule, hholds, h⟩

/-- Only the rule for grids lays out a frame in a grid of its own. -/
theorem get?_of_useGridLayout_builtin {c : Context}
    (h : (Engine.builtin.selectContainer c).value.useGridLayout = true) :
    c.get? "layout_mode" = some (.str "GRID") := by
  rcases selectContainer_builtin_cases c with hd | ⟨r, hr, hholds, hd⟩
  · rw [hd] at h
    nomatch h
  · rw [hd] at h
    simp only [RuleConfig.builtin, List.mem_cons, List.not_mem_nil, or_false] at hr
    rcases hr with rfl | rfl | rfl | rfl | rfl | rfl
    · exact get?_of_holds_grid hholds
    all_goals nomatch h

/-- A frame whose layout is a grid is laid out in a grid of its own. -/
theorem selectContainer_builtin_grid {c : Context} (h : c.get? "layout_mode" = some (.str "GRID")) :
    (builtin.selectContainer c).value = ⟨.grid, none, false, true, false⟩ := by
  have hgridRule : ((Condition.ofSource "layout_mode == 'GRID'").holds c).value = true :=
    Condition.value_holds_of_evaluate parseSource_grid (evaluate_equal_str h)
  have hfirst : (firstMatch c builtin.containerRules).value.map ContainerRule.result =
      some ⟨.grid, none, false, true, false⟩ := by
    rw [builtin, containerRules_compile, RuleConfig.builtin]
    simp [firstMatch, compiledContainer, hgridRule]
  exact value_selectContainer_of_firstMatch hfirst (by decide)

/-- A horizontal auto layout that spreads several children, and does not wrap, becomes a grid of three columns. -/
theorem selectContainer_builtin_spread {c : Context} {wrap : String} {count : Float}
    (hmode : c.get? "layout_mode" = some (.str "HORIZONTAL")) (hwrap : c.get? "layout_wrap" = some (.str wrap))
    (hnot : wrap ≠ "WRAP") (halign : c.get? "primary_axis_align" = some (.str "SPACE_BETWEEN"))
    (hcount : c.get? "visible_children_count" = some (.number count)) (hmore : Value.orderNumbers? count 1 = some .gt) :
    (builtin.selectContainer c).value = ⟨.grid, some .horizontal, true, false, true⟩ := by
  obtain ⟨hparseWrap, hparseSpread⟩ := parseSource_horizontal
  have hgreater : (Expr.compare (.name "visible_children_count") [(.greater, .literal (.number 1))]).evaluate c =
      .ok (.bool true) := by
    simp only [Expr.evaluate, Expr.evaluateChain, hcount, bind, Except.bind, Value.holds, Value.ordering, Value.numbers?,
      Value.number?, Option.bind_some, hmore]
    rfl
  have hgridRule : ((Condition.ofSource "layout_mode == 'GRID'").holds c).value = false :=
    Condition.value_holds_of_evaluate parseSource_grid (evaluate_equal_str hmode)
  have hwrapRule : ((Condition.ofSource "layout_mode == 'HORIZONTAL' and layout_wrap == 'WRAP'").holds c).value = false := by
    have hevaluate := evaluate_and (evaluate_equal_str (s := "HORIZONTAL") hmode)
      (b := .compare (.name "layout_wrap") [(.equal, .literal (.str "WRAP"))])
    rw [evaluate_equal_str hwrap, beq_eq_false_iff_ne.2 hnot, ite_self] at hevaluate
    exact Condition.value_holds_of_evaluate hparseWrap hevaluate
  have hspreadRule : ((Condition.ofSource
      "layout_mode == 'HORIZONTAL' and primary_axis_align == 'SPACE_BETWEEN' and visible_children_count > 1").holds c).value =
      true := by
    have hboth : (Expr.and (.compare (.name "layout_mode") [(.equal, .literal (.str "HORIZONTAL"))])
        (.compare (.name "primary_axis_align") [(.equal, .literal (.str "SPACE_BETWEEN"))])).evaluate c =
        .ok (.bool true) := by
      rw [evaluate_and (evaluate_equal_str hmode), evaluate_equal_str halign]
      rfl
    exact Condition.value_holds_of_evaluate hparseSpread ((evaluate_and hboth).trans hgreater)
  have hfirst : (firstMatch c builtin.containerRules).value.map ContainerRule.result =
      some ⟨.grid, some .horizontal, true, false, true⟩ := by
    rw [builtin, containerRules_compile, RuleConfig.builtin]
    simp [firstMatch, compiledContainer, hgridRule, hwrapRule, hspreadRule]
  exact value_selectContainer_of_firstMatch hfirst (by decide)
/-- A grid stands in for a horizontal stack only: its children are spread, or have a column each. -/
theorem useGrid_builtin_cases {c : Context} (h : (builtin.selectContainer c).value.useGrid = true) :
    (builtin.selectContainer c).value = ⟨.grid, some .horizontal, true, false, true⟩ ∨
      (builtin.selectContainer c).value = ⟨.grid, none, true, false, false⟩ := by
  rcases selectContainer_builtin_cases c with hd | ⟨r, hr, -, hd⟩
  · rw [hd] at h
    nomatch h
  · rw [hd] at h ⊢
    simp only [RuleConfig.builtin, List.mem_cons, List.not_mem_nil, or_false] at hr
    rcases hr with rfl | rfl | rfl | rfl | rfl | rfl
    · nomatch h
    · nomatch h
    · exact .inl rfl
    · exact .inr rfl
    · nomatch h
    · nomatch h

/-- The built-in rules are discreet. -/
theorem builtin_discreet : Engine.builtin.Discreet :=
  ⟨fun _ => get?_of_useGridLayout_builtin, spacing_notMem_namesAsked_builtin⟩

end Engine

end SceneMarkup.Rule
