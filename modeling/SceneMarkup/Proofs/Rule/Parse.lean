import SceneMarkup.Proofs.Rule.Readers
import SceneMarkup.Rule.Template

/-!
# The texts that are expressions

Whatever the grammar derives is read as it is derived, because the tokens behind a phrase stop the readers of the phrase
(`Derives.reads`). With the converse of it the parser takes exactly the texts of the grammar, and each of them has one
derivation (`parseSource_accepts_iff_derives`).
-/

namespace SceneMarkup.Rule

variable {level inner : Level} {ts us rest : List Token} {t : Token} {e : Expr}

/-! ## What stops a reader -/

/-- No expression of the level goes on with the tokens. -/
def Stops (level : Level) (rest : List Token) : Prop :=
  (∀ l : Level, l.weakness ≤ level.weakness → ∀ t ∈ rest.head?, l.operator? t = none) ∧
    (Level.comparison.weakness ≤ level.weakness → compareOp? rest = none)

/-- No operand of the level goes on with the tokens, although another operand may follow. -/
def StopsOperand (level : Level) (rest : List Token) : Prop :=
  (∀ l : Level, l.weakness < level.weakness → ∀ t ∈ rest.head?, l.operator? t = none) ∧
    (Level.comparison.weakness ≤ level.weakness → compareOp? rest = none)

/-- What stops a level stops its operands. -/
theorem Stops.operand (h : Stops level rest) : StopsOperand level rest :=
  ⟨fun l hl => h.1 l (Nat.le_of_lt hl), h.2⟩

/-- What stops the operands of a level stops the level that they are of. -/
theorem StopsOperand.stops (h : StopsOperand level rest) (ho : Operand level inner) : Stops inner rest :=
  ⟨fun l hl => h.1 l (Nat.lt_of_le_of_lt hl ho.weakness_lt), fun hc => h.2 (Nat.le_trans hc (Nat.le_of_lt ho.weakness_lt))⟩

/-- The end of the tokens stops every level. -/
theorem stops_nil (level : Level) : Stops level [] :=
  ⟨by simp, fun _ => rfl⟩

/-- What closes or parts phrases stops every level. -/
theorem stops_delimiter (level : Level) {s : Symbol} (hs : s ∈ [.closeParen, .closeBracket, .comma]) (rest : List Token) :
    Stops level (.symbol s :: rest) := by
  simp only [List.mem_cons, List.not_mem_nil, or_false] at hs
  rcases hs with rfl | rfl | rfl <;>
    exact ⟨fun l _ t ht => by cases ht; cases l <;> rfl, fun _ => rfl⟩

/-- A token between operands stops the operand before it. -/
theorem Joins.stopsOperand {join : Expr → Expr → Expr} (h : Joins level t join) (rest : List Token) :
    StopsOperand level (t :: rest) := by
  constructor
  · intro l hl t' ht
    cases ht
    cases h <;> cases l <;> first | rfl | exact absurd hl (by decide)
  · intro _
    cases h <;> rfl

/-- A comparison operator stops the operand before it. -/
theorem CompareOp.stops_tokens (op : CompareOp) (rest : List Token) : Stops .additive (op.tokens ++ rest) := by
  refine ⟨fun l _ t ht => ?_, fun hc => absurd hc (by decide)⟩
  cases op <;> cases ht <;> cases l <;> rfl

/-- A chain, or what stops a comparison, stops the operand before it. -/
theorem Derives.stops_chain {chain : List (CompareOp × Expr)} (h : Derives us (.chain chain)) (hs : Stops .comparison rest) :
    Stops .additive (us ++ rest) := by
  cases h with
  | noLink => exact hs.operand.stops .comparison
  | link _ _ =>
    rw [List.append_assoc]
    exact CompareOp.stops_tokens _ _

/-- An operand of a comparison does not start with `not`. -/
theorem Derives.head?_ne_not (h : Derives ts (.expr .additive e)) (rest : List Token) :
    (ts ++ rest).head? ≠ some (.word "not") := by
  obtain ⟨t, us, rfl, -, hlead⟩ := h.begins
  have ht : Level.not.leading? t = none := hlead .not (by decide)
  rintro he
  cases he
  nomatch ht

/-- An item of a list does not start with its closing bracket. -/
theorem Derives.head?_ne_closeBracket (h : Derives ts (.expr level e)) (rest : List Token) :
    (ts ++ rest).head? ≠ some (.symbol .closeBracket) := by
  obtain ⟨t, us, rfl, hb, -⟩ := h.begins
  rintro he
  cases he
  exact hb rfl

/-! ## What is derived is read -/

/-- A phrase is read before all that may follow it. An expression of a level is read as far as the further operands of the
level, whatever is made of these: a derivation has its last operand at its root, the parser its first. -/
def Phrase.Read : Phrase → List Token → Prop
  | .expr level e, ts => ∀ rest, StopsOperand level rest → ∀ e' rest', ReadsTo (parseOperands level e rest) e' rest' →
      ReadsTo (parseLevel level (ts ++ rest)) e' rest'
  | .chain links, ts => ∀ rest, Stops .comparison rest → ReadsTo (parseChain (ts ++ rest)) links rest
  | .items es, ts => ∀ rest, ReadsTo (parseItems (ts ++ .symbol .closeBracket :: rest)) es (.symbol .closeBracket :: rest)

/-- An expression is read up to what stops its level. -/
theorem Phrase.Read.stop (h : Phrase.Read (.expr level e) ts) (hs : Stops level rest) :
    ReadsTo (parseLevel level (ts ++ rest)) e rest :=
  h rest hs.operand e rest ((parseOperands_none (hs.1 level (Nat.le_refl _))).2 ⟨rfl, rfl⟩)

/-- An expression of a level without joined operands is read if it is read up to what stops the level. -/
theorem Phrase.read_of_stop (hl : level ∉ [.or, .and, .additive, .term])
    (h : ∀ rest, Stops level rest → ReadsTo (parseLevel level (ts ++ rest)) e rest) : Phrase.Read (.expr level e) ts := by
  intro rest hs e' rest' hrest
  have hnone : ∀ t, level.operator? t = none := by
    intro t
    cases ht : level.operator? t with
    | none => rfl
    | some join => cases operator?_eq_some_iff.1 ht <;> exact absurd (by simp) hl
  obtain ⟨rfl, rfl⟩ := (parseOperands_none fun t _ => hnone t).1 hrest
  refine h rest ⟨fun l hle t ht => ?_, hs.2⟩
  rcases Nat.lt_or_eq_of_le hle with hlt | heq
  · exact hs.1 l hlt t ht
  · have hsame : l = level := by
      revert heq
      cases l <;> cases level <;> decide
    rw [hsame]
    exact hnone t

/-- An operand of a level is an expression of it. -/
theorem Phrase.read_operand (ho : Operand level inner) (hd : Derives ts (.expr inner e))
    (ih : Phrase.Read (.expr inner e) ts) : Phrase.Read (.expr level e) ts := by
  have hnext : level.next = inner := (operand_iff.1 ho).2
  by_cases hj : level ∈ [.or, .and, .additive, .term]
  · intro rest hs e' rest' hrest
    exact (parseLevel_joined hj).2 ⟨e, rest, by rw [hnext]; exact ih.stop (hs.stops ho), hrest⟩
  · refine read_of_stop hj fun rest hs => ?_
    have hread : ReadsTo (parseLevel inner (ts ++ rest)) e rest := ih.stop (hs.operand.stops ho)
    have hlead : ∀ t ∈ (ts ++ rest).head?, level.leading? t = none := by
      obtain ⟨t, us, rfl, -, hlead⟩ := hd.begins
      intro t' ht
      cases ht
      exact hlead level ho.weakness_lt
    cases ho with
    | not => rwa [parseLevel_unled (by simp) hlead]
    | unary => rwa [parseLevel_unled (by simp) hlead]
    | comparison => exact parseLevel_comparison.2 ⟨e, rest, [], hread, (parseChain_none (hs.2 (Nat.le_refl _))).2 ⟨rfl, rfl⟩, rfl⟩
    | or => exact absurd (by simp) hj
    | and => exact absurd (by simp) hj
    | additive => exact absurd (by simp) hj
    | term => exact absurd (by simp) hj

/-- All that the grammar derives is read. -/
theorem Derives.reads {p : Phrase} (h : Derives ts p) : p.Read ts := by
  induction h with
  | operand ho hd ih => exact Phrase.read_operand ho hd ih
  | @joined level inner ts us t join a b ho _ hj _ iha ihb =>
    intro rest hs e' rest' hrest
    have hnext : level.next = inner := (operand_iff.1 ho).2
    have hright : ReadsTo (parseLevel level.next (us ++ rest)) b rest := by
      rw [hnext]
      exact ihb.stop (hs.stops ho)
    rw [List.append_assoc]
    refine iha _ (hj.stopsOperand _) e' rest' ?_
    exact (parseOperands_some (operator?_eq_some_iff.2 hj)).2 ⟨b, rest, hright, hrest⟩
  | led hl _ ih =>
    have hj : ∀ {level : Level} {t : Token} {make : Expr → Expr}, Leads level t make →
        level ∉ [.or, .and, .additive, .term] := by
      rintro _ _ _ ⟨⟩ <;> decide
    refine Phrase.read_of_stop (hj hl) fun rest hs => ?_
    exact (parseLevel_led (leading?_eq_some_iff.2 hl)).2 ⟨_, rfl, ih.stop hs⟩
  | @comparison ts us first chain _ hne hchain ihfirst ihchain =>
    refine Phrase.read_of_stop (by decide) fun rest hs => ?_
    rw [List.append_assoc]
    refine parseLevel_comparison.2 ⟨first, us ++ rest, chain, ihfirst.stop (hchain.stops_chain hs), ihchain rest hs, ?_⟩
    rw [if_neg (by simpa using hne)]
  | number x => exact Phrase.read_of_stop (by decide) fun rest _ => parseLevel_number.2 ⟨rfl, rfl⟩
  | str s => exact Phrase.read_of_stop (by decide) fun rest _ => parseLevel_str.2 ⟨rfl, rfl⟩
  | word hm => exact Phrase.read_of_stop (by decide) fun rest _ => parseLevel_word.2 ⟨hm, rfl⟩
  | parens _ ih =>
    refine Phrase.read_of_stop (by decide) fun rest _ => ?_
    rw [List.cons_append, List.append_assoc]
    exact parseLevel_parens.2 (ih.stop (stops_delimiter _ (by simp) rest))
  | list _ ih =>
    refine Phrase.read_of_stop (by decide) fun rest _ => ?_
    rw [List.cons_append, List.append_assoc]
    exact parseLevel_list.2 ⟨_, rfl, ih rest⟩
  | noLink => exact fun rest hs => (parseChain_none (hs.2 (Nat.le_refl _))).2 ⟨rfl, rfl⟩
  | @link op ts us e chain hd hchain ih ihchain =>
    intro rest hs
    have hop : compareOp? (op.tokens ++ (ts ++ (us ++ rest))) = some (op, ts ++ (us ++ rest)) :=
      compareOp?_tokens op (hd.head?_ne_not _)
    rw [List.append_assoc, List.append_assoc]
    exact (parseChain_some hop).2 ⟨e, us ++ rest, chain, ih.stop (hchain.stops_chain hs), ihchain rest hs, rfl⟩
  | noItem => exact fun rest => parseItems_end.2 ⟨rfl, rfl⟩
  | lastItem hd ih =>
    intro rest
    refine (parseItems_item (hd.head?_ne_closeBracket _)).2 ⟨_, _, [], ih.stop (stops_delimiter _ (by simp) rest), ?_, rfl⟩
    exact (parseMoreItems_none (by simp)).2 ⟨rfl, rfl⟩
  | item hd _ ih ihitems =>
    intro rest
    rw [List.append_assoc]
    refine (parseItems_item (hd.head?_ne_closeBracket _)).2 ⟨_, _, _, ih.stop (stops_delimiter _ (by simp) _), ?_, rfl⟩
    exact parseMoreItems_comma.2 (ihitems rest)

/-! ## Texts -/

/-- The tokens that are an expression are those that the grammar derives. -/
theorem Expr.ofTokens_eq_ok_iff : Expr.ofTokens ts = .ok e ↔ Derives ts (.expr .or e) := by
  constructor
  · intro h
    unfold Expr.ofTokens at h
    cases hread : parseLevel .or ts with
    | error err =>
      rw [hread] at h
      nomatch h
    | ok read =>
      obtain ⟨e', rest, hrest⟩ := read
      rw [hread] at h
      cases rest with
      | cons t rest => nomatch h
      | nil =>
        cases h
        obtain ⟨used, rfl, hd⟩ := reads_sound.1 .or ts e [] ⟨hrest, hread⟩
        rwa [List.append_nil]
  · intro h
    have hread : ReadsTo (parseLevel .or (ts ++ [])) e [] := Phrase.Read.stop h.reads (stops_nil .or)
    rw [List.append_nil] at hread
    obtain ⟨hrest, hread⟩ := hread
    unfold Expr.ofTokens
    rw [hread]
    rfl

/-- Tokens have at most one derivation as an expression. -/
theorem Derives.unique {e' : Expr} (h : Derives ts (.expr .or e)) (h' : Derives ts (.expr .or e')) : e' = e := by
  rw [← Expr.ofTokens_eq_ok_iff] at h h'
  exact Except.ok.inj (h'.symm.trans h)

/-- A text is an expression if its tokens are. -/
theorem parseSource_eq_ok_iff {source : String} :
    parseSource source = .ok e ↔ ∃ ts, tokens source.toList = .ok ts ∧ Expr.ofTokens ts = .ok e := by
  have hmap : ∀ result : Except ParseError Expr, result.mapError ExpressionError.parse = .ok e ↔ result = .ok e := by
    intro result
    cases result with
    | error err => exact iff_of_false (fun h => nomatch h) (fun h => nomatch h)
    | ok e' => exact ⟨fun h => congrArg _ (Except.ok.inj h), fun h => congrArg _ (Except.ok.inj h)⟩
  unfold parseSource
  rw [hmap]
  unfold Expr.parse
  cases tokens source.toList with
  | error err =>
    refine iff_of_false (fun h => nomatch h) ?_
    rintro ⟨ts, h, -⟩
    nomatch h
  | ok ts =>
    constructor
    · intro h
      exact ⟨ts, rfl, h⟩
    · rintro ⟨ts', hts, h⟩
      obtain rfl := Except.ok.inj hts
      exact h

/-- A text is an expression exactly if it consists of tokens that the grammar derives, of which the expression is the only
derivation. Exactly the other texts have an error, which is reported with the text. -/
theorem parseSource_accepts_iff_derives (source : String) :
    (∀ e, parseSource source = .ok e ↔
      ∃ ts, tokens source.toList = .ok ts ∧ Derives ts (.expr .or e) ∧ ∀ e', Derives ts (.expr .or e') → e' = e) ∧
    ((∃ reason, (parseSource source).mapError (ExpressionError.of source) = .error (.expression source reason)) ↔
      ¬∃ ts e, tokens source.toList = .ok ts ∧ Derives ts (.expr .or e)) := by
  have haccepts : ∀ e, parseSource source = .ok e ↔ ∃ ts, tokens source.toList = .ok ts ∧ Derives ts (.expr .or e) := by
    intro e
    rw [parseSource_eq_ok_iff]
    simp only [Expr.ofTokens_eq_ok_iff]
  constructor
  · intro e
    rw [haccepts]
    refine exists_congr fun ts => and_congr_right fun _ => ?_
    exact ⟨fun h => ⟨h, fun e' => h.unique⟩, And.left⟩
  · cases hp : parseSource source with
    | error err =>
      refine iff_of_true ⟨err.message, rfl⟩ ?_
      rintro ⟨ts, e, h⟩
      nomatch hp.symm.trans ((haccepts e).2 ⟨ts, h⟩)
    | ok e =>
      obtain ⟨ts, h⟩ := (haccepts e).1 hp
      exact iff_of_false (fun ⟨_, he⟩ => nomatch he) (not_not_intro ⟨ts, e, h⟩)

end SceneMarkup.Rule
