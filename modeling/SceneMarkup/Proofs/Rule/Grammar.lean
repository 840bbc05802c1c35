import SceneMarkup.Rule.Expr.Parser

/-!
# The grammar of rule expressions

`Derives` says which lists of tokens are expressions of a level, and which expressions they are. It is the grammar as it is
written down, level by level, and mentions neither what is read first nor what is looked at ahead. That a phrase starts
with a token of its level (`Derives.begins`) is all that a reader needs to know besides.
-/

namespace SceneMarkup.Rule

/-! ## The words and signs -/

/-- The operands of a level are phrases of the level above it. -/
inductive Operand : Level → Level → Prop
  | or : Operand .or .and
  | and : Operand .and .not
  | not : Operand .not .comparison
  | comparison : Operand .comparison .additive
  | additive : Operand .additive .term
  | term : Operand .term .unary
  | unary : Operand .unary .primary

/-- A token between two operands of a level, and the expression that it makes of them. -/
inductive Joins : Level → Token → (Expr → Expr → Expr) → Prop
  | orWord : Joins .or (.word "or") .or
  | orSign : Joins .or (.symbol .orSign) .or
  | andWord : Joins .and (.word "and") .and
  | andSign : Joins .and (.symbol .andSign) .and
  | plus : Joins .additive (.symbol .plus) (.arith .add)
  | minus : Joins .additive (.symbol .minus) (.arith .subtract)
  | times : Joins .term (.symbol .times) (.arith .multiply)
  | divide : Joins .term (.symbol .divide) (.arith .divide)
  | modulo : Joins .term (.symbol .modulo) (.arith .modulo)

/-- A token before an operand of a level, and the expression that it makes of it. -/
inductive Leads : Level → Token → (Expr → Expr) → Prop
  | notWord : Leads .not (.word "not") .not
  | notSign : Leads .not (.symbol .notSign) .not
  | minus : Leads .unary (.symbol .minus) .negate

/-- The tokens of a comparison operator. -/
def CompareOp.tokens : CompareOp → List Token
  | .equal => [.symbol .equal]
  | .notEqual => [.symbol .notEqual]
  | .less => [.symbol .less]
  | .lessEqual => [.symbol .lessEqual]
  | .greater => [.symbol .greater]
  | .greaterEqual => [.symbol .greaterEqual]
  | .isIn => [.word "in"]
  | .notIn => [.word "not", .word "in"]
  | .is => [.word "is"]
  | .isNot => [.word "is", .word "not"]

/-- The words that name nothing because they mean something else. -/
def reservedWords : List String :=
  ["True", "true", "False", "false", "None", "null", "and", "or", "not", "in", "is"]

/-- What a word means where an operand is expected. -/
inductive Means : String → Expr → Prop
  | true {w : String} (h : w = "True" ∨ w = "true") : Means w (.literal (.bool true))
  | false {w : String} (h : w = "False" ∨ w = "false") : Means w (.literal (.bool false))
  | none {w : String} (h : w = "None" ∨ w = "null") : Means w (.literal .none)
  | name {w : String} (h : w ∉ reservedWords) : Means w (.name w)

/-! ## Phrases -/

/-- What tokens can be derived to be. -/
inductive Phrase where
  /-- An expression of a level. -/
  | expr (level : Level) (e : Expr)
  /-- The operators of a comparison, each with the operand behind it. -/
  | chain (rest : List (CompareOp × Expr))
  /-- The items of a list with the commas between them. -/
  | items (es : List Expr)

/-- The tokens are the phrase. Operands of a level are joined from the left, a comparison is one chain, and a list may have
a comma behind its last item. -/
inductive Derives : List Token → Phrase → Prop
  | operand {level inner : Level} {ts : List Token} {e : Expr} :
      Operand level inner → Derives ts (.expr inner e) → Derives ts (.expr level e)
  | joined {level inner : Level} {ts us : List Token} {t : Token} {join : Expr → Expr → Expr} {a b : Expr} :
      Operand level inner → Derives ts (.expr level a) → Joins level t join → Derives us (.expr inner b) →
        Derives (ts ++ t :: us) (.expr level (join a b))
  | led {level : Level} {t : Token} {make : Expr → Expr} {ts : List Token} {e : Expr} :
      Leads level t make → Derives ts (.expr level e) → Derives (t :: ts) (.expr level (make e))
  | comparison {ts us : List Token} {first : Expr} {rest : List (CompareOp × Expr)} :
      Derives ts (.expr .additive first) → rest ≠ [] → Derives us (.chain rest) →
        Derives (ts ++ us) (.expr .comparison (.compare first rest))
  | number (x : Float) : Derives [.number x] (.expr .primary (.literal (.number x)))
  | str (s : String) : Derives [.str s] (.expr .primary (.literal (.str s)))
  | word {w : String} {e : Expr} : Means w e → Derives [.word w] (.expr .primary e)
  | parens {ts : List Token} {e : Expr} :
      Derives ts (.expr .or e) → Derives (.symbol .openParen :: (ts ++ [.symbol .closeParen])) (.expr .primary e)
  | list {ts : List Token} {es : List Expr} :
      Derives ts (.items es) → Derives (.symbol .openBracket :: (ts ++ [.symbol .closeBracket])) (.expr .primary (.list es))
  | noLink : Derives [] (.chain [])
  | link {op : CompareOp} {ts us : List Token} {e : Expr} {rest : List (CompareOp × Expr)} :
      Derives ts (.expr .additive e) → Derives us (.chain rest) → Derives (op.tokens ++ (ts ++ us)) (.chain ((op, e) :: rest))
  | noItem : Derives [] (.items [])
  | lastItem {ts : List Token} {e : Expr} : Derives ts (.expr .or e) → Derives ts (.items [e])
  | item {ts us : List Token} {e : Expr} {es : List Expr} :
      Derives ts (.expr .or e) → Derives us (.items es) → Derives (ts ++ .symbol .comma :: us) (.items (e :: es))

/-! ## The tables of the reader -/

/-- The reader looks for the operands of a level where the grammar has them. -/
theorem operand_iff {level inner : Level} : Operand level inner ↔ level ≠ .primary ∧ level.next = inner := by
  constructor
  · rintro ⟨⟩ <;> exact ⟨by decide, rfl⟩
  · rintro ⟨h, rfl⟩
    cases level <;> first | constructor | exact absurd rfl h

/-- The reader knows the tokens between operands. -/
theorem operator?_eq_some_iff {level : Level} {t : Token} {join : Expr → Expr → Expr} :
    level.operator? t = some join ↔ Joins level t join := by
  constructor
  · intro h
    unfold Level.operator? at h
    split at h <;> cases h <;> constructor
  · rintro ⟨⟩ <;> rfl

/-- The reader knows the tokens before operands. -/
theorem leading?_eq_some_iff {level : Level} {t : Token} {make : Expr → Expr} :
    level.leading? t = some make ↔ Leads level t make := by
  constructor
  · intro h
    unfold Level.leading? at h
    split at h <;> cases h <;> constructor
  · rintro ⟨⟩ <;> rfl

/-- The reader knows what words mean. -/
theorem wordExpr_eq_ok_iff {w : String} {e : Expr} : wordExpr w = .ok e ↔ Means w e := by
  constructor
  · intro h
    unfold wordExpr at h
    split at h
    · rename_i hw
      cases h
      exact .true hw
    split at h
    · rename_i hw
      cases h
      exact .false hw
    split at h
    · rename_i hw
      cases h
      exact .none hw
    split at h
    · nomatch h
    · rename_i htrue hfalse hnone hkey
      cases h
      refine .name ?_
      simp only [isKeyword, List.contains_eq_mem, List.mem_cons, List.not_mem_nil, or_false, decide_eq_true_eq] at hkey
      simp only [reservedWords, List.mem_cons, List.not_mem_nil, or_false]
      grind
  · rintro (hw | hw | hw | hw)
    · simp only [wordExpr, if_pos hw]
    · rcases hw with rfl | rfl <;> rfl
    · rcases hw with rfl | rfl <;> rfl
    · simp only [reservedWords, List.mem_cons, List.not_mem_nil, or_false, not_or] at hw
      simp [wordExpr, isKeyword, hw]

/-- What is read as a comparison operator are its tokens. -/
theorem eq_tokens_of_compareOp? {ts rest : List Token} {op : CompareOp} (h : compareOp? ts = some (op, rest)) :
    ts = op.tokens ++ rest := by
  unfold compareOp? at h
  split at h <;> cases h <;> rfl

/-- The tokens of a comparison operator are read as that operator, if what is compared does not start with `not`. -/
theorem compareOp?_tokens (op : CompareOp) {rest : List Token} (h : rest.head? ≠ some (.word "not")) :
    compareOp? (op.tokens ++ rest) = some (op, rest) := by
  cases op with
  | is =>
    cases rest with
    | nil => rfl
    | cons t rest =>
      have ht : t ≠ .word "not" := fun he => h (by rw [he]; rfl)
      simp [CompareOp.tokens, compareOp?, ht]
  | _ => rfl

/-! ## First tokens -/

/-- A phrase of the level may start with the token: it neither ends a list nor stands before operands of a weaker level. -/
def Starts (level : Level) (t : Token) : Prop :=
  t ≠ .symbol .closeBracket ∧ ∀ weaker : Level, level.weakness < weaker.weakness → weaker.leading? t = none

/-- An expression starts with a token of its level. -/
def Phrase.Begins : Phrase → List Token → Prop
  | .expr level _, ts => ∃ t us, ts = t :: us ∧ Starts level t
  | _, _ => True

/-- The operands of a level bind stronger. -/
theorem Operand.weakness_lt {level inner : Level} (h : Operand level inner) : inner.weakness < level.weakness := by
  cases h <;> decide

/-- A token before operands starts a phrase of their level. -/
theorem Leads.starts {level : Level} {t : Token} {make : Expr → Expr} (h : Leads level t make) : Starts level t := by
  refine ⟨by cases h <;> simp, fun weaker hw => ?_⟩
  cases h <;> cases weaker <;> first | rfl | exact absurd hw (by decide)

/-- A token that stands before no operand starts a phrase of every level. -/
theorem starts_of_leading? {level : Level} {t : Token} (hb : t ≠ .symbol .closeBracket)
    (h : ∀ l : Level, l.leading? t = none) : Starts level t :=
  ⟨hb, fun weaker _ => h weaker⟩

/-- A word with a meaning starts a phrase of every level. -/
theorem Means.starts {w : String} {e : Expr} (h : Means w e) (level : Level) : Starts level (.word w) := by
  have hw : w ≠ "not" := by
    rcases h with (rfl | rfl) | (rfl | rfl) | (rfl | rfl) | h
    · decide
    · decide
    · decide
    · decide
    · decide
    · decide
    · rintro rfl
      exact h (by decide)
  exact starts_of_leading? (by simp) fun l => by cases l <;> simp [Level.leading?, hw]

/-- Every phrase that is an expression starts with a token of its level. -/
theorem Derives.begins {ts : List Token} {p : Phrase} (h : Derives ts p) : p.Begins ts := by
  induction h with
  | operand ho _ ih =>
    obtain ⟨t, us, rfl, hb, hlead⟩ := ih
    exact ⟨t, us, rfl, hb, fun weaker hw => hlead weaker (Nat.lt_trans ho.weakness_lt hw)⟩
  | joined _ _ _ _ iha _ =>
    obtain ⟨t, us, rfl, hstarts⟩ := iha
    exact ⟨t, _, rfl, hstarts⟩
  | led hl _ _ => exact ⟨_, _, rfl, hl.starts⟩
  | comparison _ _ _ ih _ =>
    obtain ⟨t, us, rfl, hb, hlead⟩ := ih
    exact ⟨t, _, rfl, hb, fun weaker hw => hlead weaker (Nat.lt_trans (by decide) hw)⟩
  | number x => exact ⟨_, _, rfl, starts_of_leading? (by simp) fun l => by cases l <;> rfl⟩
  | str s => exact ⟨_, _, rfl, starts_of_leading? (by simp) fun l => by cases l <;> rfl⟩
  | word hm => exact ⟨_, _, rfl, hm.starts _⟩
  | parens _ _ => exact ⟨_, _, rfl, starts_of_leading? (by simp) fun l => by cases l <;> rfl⟩
  | list _ _ => exact ⟨_, _, rfl, starts_of_leading? (by simp) fun l => by cases l <;> rfl⟩
  | noLink => trivial
  | link _ _ _ _ => trivial
  | noItem => trivial
  | lastItem _ _ => trivial
  | item _ _ _ _ => trivial

end SceneMarkup.Rule
