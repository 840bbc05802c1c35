import SceneMarkup.Proofs.Rule.Grammar

/-!
# The readers of tokens

What each reader of the parser does is said once, in terms of the value that it reads and of the tokens that it leaves
(`parseLevel_joined`, …, `parseMoreItems_none`). What they read is what the grammar derives (`reads_sound`).
-/

namespace SceneMarkup.Rule

/-! ## What readers do -/

/-- A reader of tokens reads a value and stops before the tokens that are left. -/
def ReadsTo {α : Type} {p : List Token → Prop} (x : Except ParseError (α × {rest : List Token // p rest})) (a : α)
    (rest : List Token) : Prop :=
  ∃ h, x = .ok (a, ⟨rest, h⟩)

section

variable {α β : Type} {p q : List Token → Prop} {x : Except ParseError (α × {rest : List Token // p rest})}
  {a b : α} {c : β} {rest rest' : List Token}

/-- A reader goes on where another one has stopped. -/
theorem readsTo_bind {f : α × {rest : List Token // p rest} → Except ParseError (β × {rest : List Token // q rest})} :
    ReadsTo (x >>= f) c rest ↔ ∃ a mid h, ReadsTo x a mid ∧ ReadsTo (f (a, ⟨mid, h⟩)) c rest := by
  constructor
  · rintro ⟨h, he⟩
    cases x with
    | error e => nomatch he
    | ok y =>
      obtain ⟨a, mid, hm⟩ := y
      exact ⟨a, mid, hm, ⟨hm, rfl⟩, h, he⟩
  · rintro ⟨a, mid, hm, ⟨_, rfl⟩, h, he⟩
    exact ⟨h, he⟩

/-- A reader may read nothing more. -/
theorem readsTo_pure {h : p rest} :
    ReadsTo (pure (a, ⟨rest, h⟩) : Except ParseError (α × {rest : List Token // p rest})) b rest' ↔
      a = b ∧ rest = rest' := by
  constructor
  · rintro ⟨_, he⟩
    cases he
    exact ⟨rfl, rfl⟩
  · rintro ⟨rfl, rfl⟩
    exact ⟨h, rfl⟩

/-- An error reads nothing. -/
theorem not_readsTo_error {e : ParseError} :
    ¬ReadsTo (.error e : Except ParseError (α × {rest : List Token // p rest})) a rest := by
  rintro ⟨_, he⟩
  nomatch he

end

section

variable {level : Level} {ts rest : List Token} {t : Token} {e left : Expr} {make : Expr → Expr}
  {join : Expr → Expr → Expr}

/-- At a level whose operands are joined the first operand is read, then the others. -/
theorem parseLevel_joined (hl : level ∈ [.or, .and, .additive, .term]) :
    ReadsTo (parseLevel level ts) e rest ↔
      ∃ first mid, ReadsTo (parseLevel level.next ts) first mid ∧ ReadsTo (parseOperands level first mid) e rest := by
  simp only [List.mem_cons, List.not_mem_nil, or_false] at hl
  rcases hl with rfl | rfl | rfl | rfl <;> rw [parseLevel] <;> simp only [readsTo_bind, readsTo_pure]
  all_goals
    constructor
    · rintro ⟨first, mid, -, hfirst, _, _, -, hrest, rfl, rfl⟩
      exact ⟨first, mid, hfirst, hrest⟩
    · rintro ⟨first, mid, hfirst, hrest⟩
      exact ⟨first, mid, hfirst.1, hfirst, e, rest, hrest.1, hrest, rfl, rfl⟩

/-- Behind a token that leads operands of its level, one of them is read. -/
theorem parseLevel_led (h : level.leading? t = some make) :
    ReadsTo (parseLevel level (t :: ts)) e rest ↔ ∃ operand, make operand = e ∧ ReadsTo (parseLevel level ts) operand rest := by
  have hl : level = .not ∨ level = .unary := by
    rcases leading?_eq_some_iff.1 h with - | - | -
    · exact .inl rfl
    · exact .inl rfl
    · exact .inr rfl
  rcases hl with rfl | rfl <;> rw [parseLevel] <;> simp only [h, readsTo_bind, readsTo_pure]
  all_goals
    constructor
    · rintro ⟨operand, _, -, hread, rfl, rfl⟩
      exact ⟨operand, rfl, hread⟩
    · rintro ⟨operand, rfl, hread⟩
      exact ⟨operand, rest, hread.1, hread, rfl, rfl⟩

/-- Without such a token an operand of the level is a phrase of the next. -/
theorem parseLevel_unled (hl : level ∈ [.not, .unary]) (h : ∀ t ∈ ts.head?, level.leading? t = none) :
    parseLevel level ts = parseLevel level.next ts := by
  simp only [List.mem_cons, List.not_mem_nil, or_false] at hl
  cases ts with
  | nil => rcases hl with rfl | rfl <;> rw [parseLevel]
  | cons t ts =>
    have ht : level.leading? t = none := h t (by simp)
    rcases hl with rfl | rfl <;> rw [parseLevel, ht]

/-- A comparison is an operand and a chain, or an operand alone. -/
theorem parseLevel_comparison :
    ReadsTo (parseLevel .comparison ts) e rest ↔
      ∃ first mid chain, ReadsTo (parseLevel .additive ts) first mid ∧ ReadsTo (parseChain mid) chain rest ∧
        (if chain.isEmpty then first else .compare first chain) = e := by
  conv => lhs; rw [parseLevel]
  simp only [readsTo_bind, readsTo_pure]
  constructor
  · rintro ⟨first, mid, -, hfirst, chain, _, -, hchain, he, rfl⟩
    exact ⟨first, mid, chain, hfirst, hchain, he⟩
  · rintro ⟨first, mid, chain, hfirst, hchain, he⟩
    exact ⟨first, mid, hfirst.1, hfirst, chain, rest, hchain.1, hchain, he, rfl⟩

/-- A symbol that has to come first comes first. -/
theorem expect_eq_ok_iff {s : Symbol} {h : rest.length < ts.length} :
    expect s ts = .ok ⟨rest, h⟩ ↔ ts = .symbol s :: rest := by
  constructor
  · intro he
    unfold expect at he
    split at he
    · split at he
      · rename_i hs
        cases he
        rw [hs]
      · nomatch he
    · nomatch he
  · rintro rfl
    simp only [expect, if_true]

/-- A symbol is expected behind what is read. -/
theorem readsTo_expect {α : Type} {q : List Token → Prop} {s : Symbol} {a b : α}
    {h : ∀ r : Fewer ts, q r} :
    ReadsTo (expect s ts >>= fun r => pure (a, ⟨r, h r⟩) : Except ParseError (α × {rest : List Token // q rest})) b rest ↔
      a = b ∧ ts = .symbol s :: rest := by
  constructor
  · rintro ⟨_, he⟩
    cases hs : expect s ts with
    | error e =>
      rw [hs] at he
      nomatch he
    | ok r =>
      rw [hs] at he
      cases he
      exact ⟨rfl, expect_eq_ok_iff.1 hs⟩
  · rintro ⟨rfl, rfl⟩
    have hs : expect s (.symbol s :: rest) = .ok ⟨rest, by simp⟩ := expect_eq_ok_iff.2 rfl
    exact ⟨h ⟨rest, by simp⟩, by rw [hs]; rfl⟩

theorem parseLevel_number {x : Float} :
    ReadsTo (parseLevel .primary (.number x :: ts)) e rest ↔ .literal (.number x) = e ∧ ts = rest := by
  rw [parseLevel]
  exact readsTo_pure

theorem parseLevel_str {s : String} :
    ReadsTo (parseLevel .primary (.str s :: ts)) e rest ↔ .literal (.str s) = e ∧ ts = rest := by
  rw [parseLevel]
  exact readsTo_pure

/-- A word is an operand if it has a meaning. -/
theorem parseLevel_word {w : String} :
    ReadsTo (parseLevel .primary (.word w :: ts)) e rest ↔ Means w e ∧ ts = rest := by
  rw [parseLevel, ← wordExpr_eq_ok_iff]
  cases hw : wordExpr w with
  | error e =>
    refine iff_of_false not_readsTo_error ?_
    rintro ⟨he, -⟩
    cases he
  | ok e' => exact readsTo_pure.trans (and_congr_left' (by simp))

/-- An expression in parentheses. -/
theorem parseLevel_parens :
    ReadsTo (parseLevel .primary (.symbol .openParen :: ts)) e rest ↔
      ReadsTo (parseLevel .or ts) e (.symbol .closeParen :: rest) := by
  conv => lhs; rw [parseLevel]
  simp only [readsTo_bind, readsTo_expect]
  constructor
  · rintro ⟨_, _, -, hread, rfl, rfl⟩
    exact hread
  · intro hread
    exact ⟨e, _, hread.1, hread, rfl, rfl⟩

/-- A list in brackets. -/
theorem parseLevel_list :
    ReadsTo (parseLevel .primary (.symbol .openBracket :: ts)) e rest ↔
      ∃ items, .list items = e ∧ ReadsTo (parseItems ts) items (.symbol .closeBracket :: rest) := by
  rw [parseLevel]
  simp only [readsTo_bind, readsTo_expect]
  constructor
  · rintro ⟨items, _, -, hread, rfl, rfl⟩
    exact ⟨items, rfl, hread⟩
  · rintro ⟨items, rfl, hread⟩
    exact ⟨items, _, hread.1, hread, rfl, rfl⟩

/-- No further operand is read where none is joined. -/
theorem parseOperands_none (h : ∀ t ∈ ts.head?, level.operator? t = none) :
    ReadsTo (parseOperands level left ts) e rest ↔ left = e ∧ ts = rest := by
  cases ts with
  | nil =>
    rw [parseOperands]
    exact readsTo_pure
  | cons t ts =>
    rw [parseOperands, h t (by simp)]
    exact readsTo_pure

/-- A further operand is joined to those before it. -/
theorem parseOperands_some (h : level.operator? t = some join) :
    ReadsTo (parseOperands level left (t :: ts)) e rest ↔
      ∃ right mid, ReadsTo (parseLevel level.next ts) right mid ∧
        ReadsTo (parseOperands level (join left right) mid) e rest := by
  rw [parseOperands, h]
  simp only [readsTo_bind, readsTo_pure]
  constructor
  · rintro ⟨right, mid, -, hright, _, _, -, hrest, rfl, rfl⟩
    exact ⟨right, mid, hright, hrest⟩
  · rintro ⟨right, mid, hright, hrest⟩
    exact ⟨right, mid, hright.1, hright, e, rest, hrest.1, hrest, rfl, rfl⟩

/-- Nothing is left of a chain where no operator comes. -/
theorem parseChain_none {chain : List (CompareOp × Expr)} (h : compareOp? ts = none) :
    ReadsTo (parseChain ts) chain rest ↔ [] = chain ∧ ts = rest := by
  rw [parseChain.eq_def]
  split
  · rename_i hsome
    rw [h] at hsome
    cases hsome
  · exact readsTo_pure

/-- A chain goes on with an operator and its operand. -/
theorem parseChain_some {op : CompareOp} {us : List Token} {chain : List (CompareOp × Expr)}
    (h : compareOp? ts = some (op, us)) :
    ReadsTo (parseChain ts) chain rest ↔
      ∃ e mid chain', ReadsTo (parseLevel .additive us) e mid ∧ ReadsTo (parseChain mid) chain' rest ∧
        (op, e) :: chain' = chain := by
  rw [parseChain.eq_def]
  split
  · rename_i hsome
    rw [h] at hsome
    cases hsome
    simp only [readsTo_bind, readsTo_pure]
    constructor
    · rintro ⟨e, mid, -, he, chain', _, -, hchain, rfl, rfl⟩
      exact ⟨e, mid, chain', he, hchain, rfl⟩
    · rintro ⟨e, mid, chain', he, hchain, rfl⟩
      exact ⟨e, mid, he.1, he, chain', rest, hchain.1, hchain, rfl, rfl⟩
  · rename_i hnone
    rw [h] at hnone
    cases hnone

/-- A list ends at its bracket. -/
theorem parseItems_end {items : List Expr} :
    ReadsTo (parseItems (.symbol .closeBracket :: ts)) items rest ↔ [] = items ∧ .symbol .closeBracket :: ts = rest := by
  rw [parseItems]
  exact readsTo_pure

/-- Another item is read with those behind it. -/
theorem parseItems_item {items : List Expr} (h : ts.head? ≠ some (.symbol .closeBracket)) :
    ReadsTo (parseItems ts) items rest ↔
      ∃ e mid items', ReadsTo (parseLevel .or ts) e mid ∧ ReadsTo (parseMoreItems mid) items' rest ∧ e :: items' = items := by
  rw [parseItems.eq_def]
  split
  · exact absurd rfl h
  · simp only [readsTo_bind, readsTo_pure]
    constructor
    · rintro ⟨e, mid, -, he, items', _, -, hitems, rfl, rfl⟩
      exact ⟨e, mid, items', he, hitems, rfl⟩
    · rintro ⟨e, mid, items', he, hitems, rfl⟩
      exact ⟨e, mid, he.1, he, items', rest, hitems.1, hitems, rfl, rfl⟩

/-- Behind a comma there may be more items. -/
theorem parseMoreItems_comma {items : List Expr} :
    ReadsTo (parseMoreItems (.symbol .comma :: ts)) items rest ↔ ReadsTo (parseItems ts) items rest := by
  rw [parseMoreItems]
  simp only [readsTo_bind, readsTo_pure]
  constructor
  · rintro ⟨_, _, -, hitems, rfl, rfl⟩
    exact hitems
  · intro hitems
    exact ⟨items, rest, hitems.1, hitems, rfl, rfl⟩

/-- Without a comma there are no more items. -/
theorem parseMoreItems_none {items : List Expr} (h : ts.head? ≠ some (.symbol .comma)) :
    ReadsTo (parseMoreItems ts) items rest ↔ [] = items ∧ ts = rest := by
  rw [parseMoreItems.eq_def]
  split
  · exact absurd rfl h
  · exact readsTo_pure

end

/-! ## What is read is derived -/

/-- What is read of a level is an expression of that level. -/
def LevelSound (level : Level) (ts : List Token) : Prop :=
  ∀ e rest, ReadsTo (parseLevel level ts) e rest → ∃ used, ts = used ++ rest ∧ Derives used (.expr level e)

/-- What is read of the operands behind an expression is an expression together with it. -/
def OperandsSound (level : Level) (left : Expr) (ts : List Token) : Prop :=
  ∀ e rest, ReadsTo (parseOperands level left ts) e rest →
    ∃ used, ts = used ++ rest ∧ ∀ before, Derives before (.expr level left) → Derives (before ++ used) (.expr level e)

/-- What is read of a chain is that chain. -/
def ChainSound (ts : List Token) : Prop :=
  ∀ chain rest, ReadsTo (parseChain ts) chain rest → ∃ used, ts = used ++ rest ∧ Derives used (.chain chain)

/-- What is read of items are those items. -/
def ItemsSound (ts : List Token) : Prop :=
  ∀ items rest, ReadsTo (parseItems ts) items rest → ∃ used, ts = used ++ rest ∧ Derives used (.items items)

/-- What is read of the items behind an item are items together with it. -/
def MoreItemsSound (ts : List Token) : Prop :=
  ∀ items rest, ReadsTo (parseMoreItems ts) items rest →
    ∃ used, ts = used ++ rest ∧ ∀ before e, Derives before (.expr .or e) → Derives (before ++ used) (.items (e :: items))

section

variable {level : Level} {ts rest : List Token} {t : Token} {e left : Expr} {make : Expr → Expr}
  {join : Expr → Expr → Expr}

/-- Where the operands of the level above are sound and the rest is, the level is. -/
theorem levelSound_joined (hl : level ∈ [.or, .and, .additive, .term]) (hfirst : LevelSound level.next ts)
    (hoperands : ∀ first mid, mid.length < ts.length → OperandsSound level first mid) : LevelSound level ts := by
  intro e rest h
  obtain ⟨first, mid, hread, hrest⟩ := (parseLevel_joined hl).1 h
  obtain ⟨used, rfl, hd⟩ := hfirst first mid hread
  obtain ⟨more, rfl, hmore⟩ := hoperands first mid hread.1 e rest hrest
  have ho : Operand level level.next := operand_iff.2 ⟨(by rintro rfl; simp at hl), rfl⟩
  exact ⟨used ++ more, (List.append_assoc ..).symm, hmore used (.operand ho hd)⟩

/-- An operand behind the token that leads it makes an expression of its level. -/
theorem levelSound_led (hl : level.leading? t = some make) (ih : LevelSound level ts) : LevelSound level (t :: ts) := by
  intro e rest h
  obtain ⟨operand, rfl, hread⟩ := (parseLevel_led hl).1 h
  obtain ⟨used, rfl, hd⟩ := ih operand rest hread
  exact ⟨t :: used, rfl, .led (leading?_eq_some_iff.1 hl) hd⟩

/-- An operand that nothing leads is an expression of the level above. -/
theorem levelSound_unled (hl : level ∈ [.not, .unary]) (hn : ∀ t ∈ ts.head?, level.leading? t = none)
    (ih : LevelSound level.next ts) : LevelSound level ts := by
  intro e rest h
  rw [parseLevel_unled hl hn] at h
  obtain ⟨used, rfl, hd⟩ := ih e rest h
  exact ⟨used, rfl, .operand (operand_iff.2 ⟨(by rintro rfl; simp at hl), rfl⟩) hd⟩

/-- An operand with a chain behind it is a comparison, and alone it is one too. -/
theorem levelSound_comparison (hfirst : LevelSound .additive ts) (hchain : ∀ mid, mid.length < ts.length → ChainSound mid) :
    LevelSound .comparison ts := by
  intro e rest h
  obtain ⟨first, mid, chain, hread, hrest, rfl⟩ := parseLevel_comparison.1 h
  obtain ⟨used, rfl, hd⟩ := hfirst first mid hread
  obtain ⟨more, rfl, hmore⟩ := hchain mid hread.1 chain rest hrest
  refine ⟨used ++ more, (List.append_assoc ..).symm, ?_⟩
  cases chain with
  | nil =>
    cases hmore
    simpa using Derives.operand .comparison hd
  | cons link chain => exact .comparison hd (List.cons_ne_nil link chain) hmore

/-- An operator and its operand make a longer expression. -/
theorem operandsSound_cons (hj : level.operator? t = some join) (hright : LevelSound level.next ts)
    (ih : ∀ right mid, mid.length < ts.length → OperandsSound level (join left right) mid) :
    OperandsSound level left (t :: ts) := by
  intro e rest h
  obtain ⟨right, mid, hread, hrest⟩ := (parseOperands_some hj).1 h
  obtain ⟨used, rfl, hd⟩ := hright right mid hread
  obtain ⟨more, rfl, hmore⟩ := ih right mid hread.1 e rest hrest
  have hjoins := operator?_eq_some_iff.1 hj
  have ho : Operand level level.next := operand_iff.2 ⟨(by rintro rfl; nomatch hjoins), rfl⟩
  refine ⟨t :: used ++ more, by simp, fun before hb => ?_⟩
  simpa using hmore _ (.joined ho hb hjoins hd)

/-- An operator and its operand make a longer chain. -/
theorem chainSound_cons {op : CompareOp} {us : List Token} (hop : compareOp? ts = some (op, us))
    (hfirst : LevelSound .additive us) (ih : ∀ mid, mid.length < us.length → ChainSound mid) : ChainSound ts := by
  intro chain rest h
  obtain ⟨e, mid, chain', hread, hrest, rfl⟩ := (parseChain_some hop).1 h
  obtain ⟨used, rfl, hd⟩ := hfirst e mid hread
  obtain ⟨more, rfl, hmore⟩ := ih mid hread.1 chain' rest hrest
  exact ⟨op.tokens ++ (used ++ more), by rw [eq_tokens_of_compareOp? hop]; simp, .link hd hmore⟩

/-- An item makes a longer list. -/
theorem itemsSound_item (hb : ts.head? ≠ some (.symbol .closeBracket)) (hfirst : LevelSound .or ts)
    (ih : ∀ mid, mid.length < ts.length → MoreItemsSound mid) : ItemsSound ts := by
  intro items rest h
  obtain ⟨e, mid, items', hread, hrest, rfl⟩ := (parseItems_item hb).1 h
  obtain ⟨used, rfl, hd⟩ := hfirst e mid hread
  obtain ⟨more, rfl, hmore⟩ := ih mid hread.1 items' rest hrest
  exact ⟨used ++ more, (List.append_assoc ..).symm, hmore used e hd⟩

end

/-- Every reader reads what the grammar derives. -/
theorem reads_sound :
    (∀ level ts, LevelSound level ts) ∧ (∀ ts, ItemsSound ts) ∧ (∀ ts, MoreItemsSound ts) ∧ (∀ ts, ChainSound ts) ∧
      ∀ level left ts, OperandsSound level left ts := by
  apply parseLevel.mutual_induct
  -- The levels whose operands are joined.
  · exact fun ts => levelSound_joined (by simp)
  · exact fun ts => levelSound_joined (by simp)
  · exact fun ts => levelSound_joined (by simp)
  · exact fun ts => levelSound_joined (by simp)
  -- The levels whose operands are led.
  · exact levelSound_unled (by simp) (by simp)
  · exact fun t rest make hl => levelSound_led hl
  · exact fun t rest hl => levelSound_unled (by simp) (by simpa using hl)
  · exact levelSound_unled (by simp) (by simp)
  · exact fun t rest make hl => levelSound_led hl
  · exact fun t rest hl => levelSound_unled (by simp) (by simpa using hl)
  · exact fun ts => levelSound_comparison
  -- The strongest level.
  · intro e rest h
    rw [parseLevel] at h
    exact absurd h not_readsTo_error
  · intro x ts e rest h
    obtain ⟨rfl, rfl⟩ := parseLevel_number.1 h
    exact ⟨_, rfl, .number x⟩
  · intro s ts e rest h
    obtain ⟨rfl, rfl⟩ := parseLevel_str.1 h
    exact ⟨_, rfl, .str s⟩
  · intro w ts e rest h
    obtain ⟨hm, rfl⟩ := parseLevel_word.1 h
    exact ⟨_, rfl, .word hm⟩
  · intro ts ih e rest h
    obtain ⟨used, rfl, hd⟩ := ih _ _ (parseLevel_parens.1 h)
    exact ⟨_, by simp, .parens hd⟩
  · intro ts ih e rest h
    obtain ⟨items, rfl, hread⟩ := parseLevel_list.1 h
    obtain ⟨used, rfl, hd⟩ := ih _ _ hread
    exact ⟨_, by simp, .list hd⟩
  · intro s ts hparen hbracket e rest h
    rw [parseLevel] at h
    · exact absurd h not_readsTo_error
    · exact hparen
    · exact hbracket
  -- The items of a list.
  · intro ts items rest h
    obtain ⟨rfl, rfl⟩ := parseItems_end.1 h
    exact ⟨[], rfl, .noItem⟩
  · intro ts hb
    refine itemsSound_item fun hhead => ?_
    cases ts with
    | nil => nomatch hhead
    | cons t ts => exact hb ts (by rw [Option.some.inj hhead])
  · intro ts ih items rest h
    obtain ⟨used, rfl, hd⟩ := ih items rest (parseMoreItems_comma.1 h)
    exact ⟨.symbol .comma :: used, rfl, fun before e he => .item he hd⟩
  · intro ts hc items rest h
    have hhead : ts.head? ≠ some (.symbol .comma) := by
      intro hhead
      cases ts with
      | nil => nomatch hhead
      | cons t ts => exact hc ts (by rw [Option.some.inj hhead])
    obtain ⟨rfl, rfl⟩ := (parseMoreItems_none hhead).1 h
    exact ⟨[], rfl, fun before e he => by simpa using Derives.lastItem he⟩
  -- The chain of a comparison.
  · exact fun ts op us hop _ => chainSound_cons hop
  · intro ts hop chain rest h
    obtain ⟨rfl, rfl⟩ := (parseChain_none hop).1 h
    exact ⟨[], rfl, .noLink⟩
  -- The further operands of a level.
  · intro level left e rest h
    obtain ⟨rfl, rfl⟩ := (parseOperands_none (by simp)).1 h
    exact ⟨[], rfl, fun before hb => by simpa using hb⟩
  · exact fun level left t ts join hj => operandsSound_cons hj
  · intro level left t ts hj e rest h
    obtain ⟨rfl, rfl⟩ := (parseOperands_none (by simpa using hj)).1 h
    exact ⟨[], rfl, fun before hb => by simpa using hb⟩

end SceneMarkup.Rule
