import SceneMarkup.Rule.Engine

/-!
# The built-in rules

Grids keep their tracks; horizontal and vertical auto layouts become stacks or wrapping panels, and grids where children
share the space between them. Texts carry over their alignment, wrapping and line height.
-/

namespace SceneMarkup.Rule

/-- The built-in layout rules. -/
def RuleConfig.builtin : RuleConfig where
  containerRules :=
    [⟨"native_grid", "layout_mode == 'GRID'", ⟨.grid, none, false, true, false⟩⟩,
     ⟨"horizontal_wrap", "layout_mode == 'HORIZONTAL' and layout_wrap == 'WRAP'",
      ⟨.wrapPanel, some .horizontal, false, false, false⟩⟩,
     ⟨"horizontal_space_between",
      "layout_mode == 'HORIZONTAL' and primary_axis_align == 'SPACE_BETWEEN' and visible_children_count > 1",
      ⟨.grid, some .horizontal, true, false, true⟩⟩,
     ⟨"horizontal_fill", "layout_mode == 'HORIZONTAL' and has_fill_child and visible_children_count > 1",
      ⟨.grid, none, true, false, false⟩⟩,
     ⟨"horizontal_stack", "layout_mode == 'HORIZONTAL'", ⟨.stackPanel, some .horizontal, false, false, false⟩⟩,
     ⟨"vertical_stack", "layout_mode == 'VERTICAL'", ⟨.stackPanel, some .vertical, false, false, false⟩⟩]
  attributeRules :=
    [("TextBlock",
      [("LineHeight", [⟨"line_height_unit == 'PIXELS' and line_height is not None", "\x7bline_height\x7d"⟩]),
       ("TextAlignment",
        [⟨"text_align_horizontal == 'CENTER'", "Center"⟩, ⟨"text_align_horizontal == 'RIGHT'", "Right"⟩,
         ⟨"text_align_horizontal == 'JUSTIFIED'", "Justify"⟩]),
       ("TextWrapping", [⟨"text_auto_resize in ['HEIGHT', 'NONE'] and sizing_horizontal != 'HUG'", "Wrap"⟩])])]

/-- The built-in mapping. -/
def MappingConfig.builtin : MappingConfig where
  counterAxis :=
    [("BASELINE", ⟨some "Left", some "Top"⟩), ("CENTER", ⟨some "Center", some "Center"⟩),
     ("MAX", ⟨some "Right", some "Bottom"⟩), ("MIN", ⟨some "Left", some "Top"⟩)]
  primaryAxis :=
    [("CENTER", ⟨some "Center", some "Center"⟩), ("MAX", ⟨some "Right", some "Bottom"⟩),
     ("MIN", ⟨some "Left", some "Top"⟩)]
  sizingMode := [("FILL", ⟨false, true⟩), ("FIXED", ⟨true, false⟩), ("HUG", ⟨false, false⟩)]

/-- The engine of the built-in rules. -/
def Engine.builtin : Engine :=
  (Engine.compile .builtin .builtin).value

end SceneMarkup.Rule
