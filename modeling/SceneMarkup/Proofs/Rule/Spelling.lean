import SceneMarkup.Proofs.Rule.Parse

/-!
# Literals

A value without numbers can be spelled: `None`, `True` and `False` by their words, a text between quotes of either kind with
a backslash before each such quote and each backslash, and a list between brackets with commas behind its items
(`Spells`). Every spelling of a value is read as an expression that has this value in every context
(`Value.parseSource_spelling`).
-/

namespace SceneMarkup.Rule

/-! ## Spellings -/

/-- The characters of a text between quotes of a kind. -/
def escaped (quote : Char) (text : List Char) : List Char :=
  text.flatMap fun c => if c = quote ∨ c = '\\' then ['\\', c] else [c]

/-- All of the characters are blank. -/
abbrev AllBlank (cs : List Char) : Prop :=
  cs.all isBlank = true

/-- What can be spelled. -/
inductive Spelled where
  | value (v : Value)
  /-- The items of a list. -/
  | items (vs : List Value)

/-- The characters spell a value, or the items of a list with the commas behind them. There may be blanks around every item,
and a comma behind the last one. -/
inductive Spells : List Char → Spelled → Prop
  | none : Spells ['N', 'o', 'n', 'e'] (.value .none)
  | true : Spells ['T', 'r', 'u', 'e'] (.value (.bool true))
  | false : Spells ['F', 'a', 'l', 's', 'e'] (.value (.bool false))
  | str {quote : Char} (hquote : quote = '\'' ∨ quote = '"') (s : String) :
      Spells (quote :: (escaped quote s.toList ++ [quote])) (.value (.str s))
  | list {text : List Char} {vs : List Value} : Spells text (.items vs) → Spells ('[' :: (text ++ [']'])) (.value (.list vs))
  | noItem {blanks : List Char} : AllBlank blanks → Spells blanks (.items [])
  | lastItem {before text after : List Char} {v : Value} :
      AllBlank before → Spells text (.value v) → AllBlank after → Spells (before ++ (text ++ after)) (.items [v])
  | item {before text after rest : List Char} {v : Value} {vs : List Value} :
      AllBlank before → Spells text (.value v) → AllBlank after → Spells rest (.items vs) →
        Spells (before ++ (text ++ (after ++ ',' :: rest))) (.items (v :: vs))

namespace Value

mutual
/-- There is no number in the value. -/
def isNumberFree : Value → Bool
  | .number _ => false
  | .list items => areNumberFree items
  | _ => true

/-- There is no number in the items. -/
def areNumberFree : List Value → Bool
  | [] => true
  | v :: rest => v.isNumberFree && areNumberFree rest
end

mutual
/-- A value without numbers can be spelled. -/
theorem exists_spells : (v : Value) → v.isNumberFree = true → ∃ text, Spells text (.value v)
  | .none, _ => ⟨_, .none⟩
  | .bool true, _ => ⟨_, .true⟩
  | .bool false, _ => ⟨_, .false⟩
  | .str s, _ => ⟨_, .str (.inl rfl) s⟩
  | .list items, h => by
    rw [isNumberFree] at h
    obtain ⟨text, htext⟩ := exists_spells_items items h
    exact ⟨_, .list htext⟩

/-- Values without numbers can be spelled as the items of a list. -/
theorem exists_spells_items : (vs : List Value) → areNumberFree vs = true → ∃ text, Spells text (.items vs)
  | [], _ => ⟨[], .noItem rfl⟩
  | v :: vs, h => by
    rw [areNumberFree, Bool.and_eq_true] at h
    obtain ⟨text, htext⟩ := exists_spells v h.1
    obtain ⟨rest, hrest⟩ := exists_spells_items vs h.2
    have hnone : AllBlank [] := rfl
    exact ⟨_, .item hnone htext hnone hrest⟩
end

/-! ## Expressions -/

mutual
/-- The expression that a spelling of the value is read as. -/
def expr : Value → Expr
  | .list items => .list (exprs items)
  | v => .literal v

/-- The expressions that spellings of the values are read as. -/
def exprs : List Value → List Expr
  | [] => []
  | v :: rest => v.expr :: exprs rest
end

mutual
/-- The expression of a value has this value. -/
theorem evaluate_expr (c : Context) : (v : Value) → v.expr.evaluate c = .ok v
  | .none | .bool _ | .number _ | .str _ => by
    rw [expr, Expr.evaluate]
    simp
  | .list items => by
    rw [expr, Expr.evaluate, evaluate_exprs c items]
    rfl

/-- The expressions of values have these values. -/
theorem evaluate_exprs (c : Context) : (vs : List Value) → Expr.evaluateItems c (exprs vs) = .ok vs
  | [] => by rw [exprs, Expr.evaluateItems]
  | v :: vs => by
    rw [exprs, Expr.evaluateItems, evaluate_expr c v, evaluate_exprs c vs]
    rfl
end

end Value

/-! ## Tokens -/

/-- A character in one set of ranges is not in another set that is apart from it. -/
theorem holds_eq_false_of_apart {ranges others : CodeRanges} {c : Char}
    (hapart : (ranges.all fun r => others.all fun s => r.2 < s.1 || s.2 < r.1) = true) (h : ranges.holds c = true) :
    others.holds c = false := by
  simp only [CodeRanges.holds, List.any_eq_true, List.any_eq_false, List.all_eq_true, Bool.and_eq_true, Bool.or_eq_true,
    decide_eq_true_eq] at hapart h ⊢
  obtain ⟨r, hr, hfrom, hto⟩ := h
  intro s hs
  have := hapart r hr s hs
  omega

/-- Letters and digits of the ASCII characters lie in this range. -/
theorem toNat_of_isAlphanum {c : Char} (h : c.isAlphanum = true) : 48 ≤ c.toNat ∧ c.toNat ≤ 122 := by
  have hranges : ((decide (65 ≤ c.toNat ∧ c.toNat ≤ 90) || decide (97 ≤ c.toNat) && decide (c.toNat ≤ 122)) ||
      decide (48 ≤ c.toNat) && decide (c.toNat ≤ 57)) = true := h
  simp only [Bool.or_eq_true, Bool.and_eq_true, decide_eq_true_eq] at hranges
  omega

/-- No blank goes on with a word. -/
theorem isWordChar_of_isBlank {c : Char} (h : isBlank c = true) : Token.isWordChar c = false := by
  have halphabetic : alphabeticRanges.holds c = false := holds_eq_false_of_apart (by decide +kernel) h
  have hnumeric : numericRanges.holds c = false := holds_eq_false_of_apart (by decide +kernel) h
  have hascii : c.toNat < 128 → c.isAlphanum = false := by
    simp only [isBlank, CodeRanges.holds, blankRanges, List.any_cons, List.any_nil, Bool.or_false, Bool.or_eq_true,
      Bool.and_eq_true, decide_eq_true_eq] at h
    intro hc
    rw [Bool.eq_false_iff]
    intro halphanum
    have := toNat_of_isAlphanum halphanum
    omega
  have hletter : isLetterOrDigit c = false := by
    unfold isLetterOrDigit
    split
    · exact hascii ‹_›
    · rw [halphabetic, hnumeric, Bool.or_false]
  have hunder : c ≠ '_' := by
    rintro rfl
    exact absurd h (by decide)
  simp [Token.isWordChar, hletter, hunder]

/-- A blank is passed over. -/
theorem tokens_blank {c : Char} {rest : List Char} (h : isBlank c = true) : tokens (c :: rest) = tokens rest := by
  rw [tokens, if_pos h]

/-- A token is read before those behind it. -/
theorem tokens_next {c : Char} {rest after : List Char} {t : Token} {ts : List Token} (hc : isBlank c = false)
    (ht : Token.next c rest = .ok (t, after)) (hts : tokens after = .ok ts) : tokens (c :: rest) = .ok (t :: ts) := by
  rw [tokens, if_neg (by simp [hc])]
  split
  · rename_i t' after' hnext
    obtain ⟨rfl, rfl⟩ := Prod.mk.inj (Except.ok.inj (ht.symm.trans hnext))
    rw [hts]
    rfl
  · rename_i err hnext
    cases ht.symm.trans hnext

/-- Only a digit or a point starts a number. -/
theorem startsNumber_cons {c : Char} (hdigit : c.isDigit = false) (hpoint : c ≠ '.') (rest : List Char) :
    Token.startsNumber (c :: rest) = false := by
  unfold Token.startsNumber
  split
  · rename_i he
    exact absurd (List.cons.inj he).1 hpoint
  · rename_i he
    rw [← (List.cons.inj he).1, hdigit]
  · rfl

/-- A quoted text is read up to its closing quote. -/
theorem readQuoted_escaped {quote : Char} (hquote : quote ≠ '\\') (text rest : List Char) :
    Token.readQuoted quote (escaped quote text ++ quote :: rest) = some (text, rest) := by
  induction text with
  | nil => simp [escaped, Token.readQuoted, hquote]
  | cons c text ih =>
    unfold escaped at ih ⊢
    rw [List.flatMap_cons, List.append_assoc]
    split
    · simp [Token.readQuoted, ih]
    · rename_i hc
      rw [not_or] at hc
      simp [Token.readQuoted, hc.1, hc.2, ih]

/-- A word that stands before the characters ends there. -/
def EndsWord (rest : List Char) : Prop :=
  ∀ c ∈ rest.head?, Token.isWordChar c = false

/-- A word ends at the end of the characters. -/
theorem endsWord_nil : EndsWord [] :=
  fun _ hc => nomatch hc

/-- A word ends at a comma or a closing bracket. -/
theorem endsWord_cons {c : Char} (hc : c = ',' ∨ c = ']') (rest : List Char) : EndsWord (c :: rest) := by
  rintro d hd
  obtain rfl := Option.some.inj hd
  rcases hc with rfl | rfl <;> decide

/-- A word ends at blanks before what ends a word. -/
theorem EndsWord.blanks {blanks rest : List Char} (hb : AllBlank blanks) (h : EndsWord rest) : EndsWord (blanks ++ rest) := by
  cases blanks with
  | nil => exact h
  | cons b blanks =>
    rintro d hd
    obtain rfl := Option.some.inj hd
    exact isWordChar_of_isBlank (List.all_eq_true.1 hb b List.mem_cons_self)

/-- The characters are read as the tokens before all that ends a word. -/
def ReadAs (text : List Char) (ts : List Token) : Prop :=
  ∀ rest us, EndsWord rest → tokens rest = .ok us → tokens (text ++ rest) = .ok (ts ++ us)

namespace ReadAs

variable {text other : List Char} {ts us : List Token}

/-- No characters are no tokens. -/
theorem nil : ReadAs [] [] :=
  fun _ _ _ h => h

/-- Characters are read one after the other, where no word goes on from the first ones into the others. -/
theorem append (h : ReadAs text ts) (h' : ReadAs other us) (hend : EndsWord other) : ReadAs (text ++ other) (ts ++ us) := by
  intro rest vs hrest hvs
  rw [List.append_assoc, List.append_assoc]
  refine h _ _ ?_ (h' rest vs hrest hvs)
  cases other with
  | nil => exact hrest
  | cons c other => exact hend

/-- Blanks are passed over. -/
theorem blanks {blanks : List Char} (hb : AllBlank blanks) (h : ReadAs text ts) : ReadAs (blanks ++ text) ts := by
  intro rest us hrest hus
  induction blanks with
  | nil => exact h rest us hrest hus
  | cons c blanks ih =>
    rw [AllBlank, List.all_cons, Bool.and_eq_true] at hb
    obtain ⟨hc, hblanks⟩ := hb
    rw [List.cons_append, List.cons_append, tokens_blank hc]
    exact ih hblanks

/-- A bracket or a comma is read before what follows it. -/
theorem symbol {c : Char} {s : Symbol} (hc : (c, s) ∈ [('[', .openBracket), (']', .closeBracket), (',', Symbol.comma)])
    (h : ReadAs text ts) : ReadAs (c :: text) (.symbol s :: ts) := by
  intro rest us hrest hus
  have hts := h rest us hrest hus
  simp only [List.mem_cons, Prod.mk.injEq, List.not_mem_nil, or_false] at hc
  rcases hc with ⟨rfl, rfl⟩ | ⟨rfl, rfl⟩ | ⟨rfl, rfl⟩ <;>
    exact tokens_next (by decide) rfl hts

/-- A word is read up to its end. -/
theorem word {c : Char} {cs : List Char} (hstart : Token.isWordStart c = true) (hc : isBlank c = false)
    (hnumber : c.isDigit = false ∧ c ≠ '.') (hquote : ¬(c = '\'' ∨ c = '"')) (hcs : cs.all Token.isWordChar = true) :
    ReadAs (c :: cs) [.word (String.ofList (c :: cs))] := by
  intro rest us hrest hus
  have hchars : ∀ d ∈ cs, Token.isWordChar d = true := List.all_eq_true.1 hcs
  have hstop : rest.takeWhile Token.isWordChar = [] ∧ rest.dropWhile Token.isWordChar = rest := by
    cases rest with
    | nil => exact ⟨rfl, rfl⟩
    | cons d rest => simp [hrest d rfl]
  rw [List.cons_append]
  refine tokens_next hc ?_ hus
  rw [Token.next, startsNumber_cons hnumber.1 hnumber.2, if_neg (by decide), if_neg hquote, if_pos hstart,
    List.takeWhile_append_of_pos hchars, List.dropWhile_append_of_pos hchars, hstop.1, hstop.2, List.append_nil]

/-- A quoted text is read. -/
theorem quoted {quote : Char} (hquote : quote = '\'' ∨ quote = '"') (s : String) :
    ReadAs (quote :: (escaped quote s.toList ++ [quote])) [.str s] := by
  intro rest us _ hus
  have hread : Token.readQuoted quote (escaped quote s.toList ++ [quote] ++ rest) = some (s.toList, rest) := by
    rw [List.append_assoc]
    exact readQuoted_escaped (by rcases hquote with rfl | rfl <;> decide) s.toList rest
  have hnumber : Token.startsNumber (quote :: (escaped quote s.toList ++ [quote] ++ rest)) = false := by
    rcases hquote with rfl | rfl <;> exact startsNumber_cons (by decide) (by decide) _
  rw [List.cons_append]
  refine tokens_next (by rcases hquote with rfl | rfl <;> decide) ?_ hus
  rw [Token.next, hnumber, if_neg (by decide), if_pos hquote, hread]
  simp only [String.ofList_toList]

end ReadAs

/-! ## What is read -/

/-- A phrase of the strongest level is an expression. -/
theorem Derives.weaken {ts : List Token} {e : Expr} (h : Derives ts (.expr .primary e)) : Derives ts (.expr .or e) :=
  .operand .or (.operand .and (.operand .not (.operand .comparison (.operand .additive (.operand .term (.operand .unary h))))))

/-- The phrase that a spelling is read as. -/
def Spelled.phrase : Spelled → Phrase
  | .value v => .expr .primary v.expr
  | .items vs => .items (Value.exprs vs)

/-- A spelling is read as tokens that the grammar derives. -/
theorem Spells.exists_readAs {text : List Char} {s : Spelled} (h : Spells text s) :
    ∃ ts, ReadAs text ts ∧ Derives ts s.phrase := by
  induction h with
  | none =>
    exact ⟨_, .word (by decide) (by decide) (by decide) (by decide) (by decide), .word (.none (.inl rfl))⟩
  | true =>
    exact ⟨_, .word (by decide) (by decide) (by decide) (by decide) (by decide), .word (.true (.inl rfl))⟩
  | false =>
    exact ⟨_, .word (by decide) (by decide) (by decide) (by decide) (by decide), .word (.false (.inl rfl))⟩
  | str hquote s => exact ⟨_, .quoted hquote s, .str s⟩
  | list _ ih =>
    obtain ⟨ts, hread, hd⟩ := ih
    have hclose : ReadAs [']'] [.symbol .closeBracket] := .symbol (by simp) .nil
    exact ⟨_, .symbol (by simp) (hread.append hclose (endsWord_cons (.inr rfl) [])), .list hd⟩
  | @noItem blanks hb =>
    refine ⟨[], ?_, .noItem⟩
    rw [← List.append_nil blanks]
    exact .blanks hb .nil
  | @lastItem before text after v hb _ ha ih =>
    obtain ⟨ts, hread, hd⟩ := ih
    have hafter : ReadAs (after ++ []) [] := .blanks ha .nil
    have hitem : ReadAs (text ++ (after ++ [])) (ts ++ []) := hread.append hafter (.blanks ha endsWord_nil)
    rw [List.append_nil, List.append_nil] at hitem
    exact ⟨ts, .blanks hb hitem, .lastItem hd.weaken⟩
  | item hb _ ha _ ih ihrest =>
    obtain ⟨ts, hread, hd⟩ := ih
    obtain ⟨us, hrest, hds⟩ := ihrest
    have hcomma := ReadAs.blanks ha (.symbol (c := ',') (s := .comma) (by simp) hrest)
    exact ⟨_, .blanks hb (hread.append hcomma (.blanks ha (endsWord_cons (.inl rfl) _))), .item hd.weaken hds⟩

/-- A value without numbers can be spelled, and each of its spellings is an expression that has this value in every context. -/
theorem Value.parseSource_spelling {v : Value} (hv : v.isNumberFree = true) :
    (∃ text, Spells text (.value v)) ∧
      ∀ text, Spells text (.value v) →
        ∃ e, parseSource (String.ofList text) = .ok e ∧ ∀ c, evaluateExpr e c = .ok v := by
  refine ⟨v.exists_spells hv, ?_⟩
  intro text htext
  obtain ⟨ts, hread, hd⟩ := htext.exists_readAs
  have htokens : tokens (text ++ []) = .ok (ts ++ []) := hread [] [] endsWord_nil (by rw [tokens])
  rw [List.append_nil, List.append_nil] at htokens
  refine ⟨v.expr, ?_, fun c => ?_⟩
  · rw [parseSource_eq_ok_iff, String.toList_ofList]
    exact ⟨ts, htokens, Expr.ofTokens_eq_ok_iff.2 hd.weaken⟩
  · rw [evaluateExpr, evaluate_expr]
    rfl

/-- A list of a text in single quotes, of a list with a text in double quotes, and of words. -/
def mixedValue : Value :=
  .list [.str "it's", .list [.str "say \"\\", .none, .list []], .bool true]

/-- A spelling of it, with a blank here and there. -/
def mixedSpelling : List Char :=
  "['it\\'s', [\"say \\\"\\\\\",None ,[]],True]".toList

/-- It is a spelling of the value, and read as an expression that has the value in every context. -/
theorem Value.parseSource_spelling_mixed :
    mixedValue.isNumberFree = true ∧ Spells mixedSpelling (.value mixedValue) ∧
      ∃ e, parseSource (String.ofList mixedSpelling) = .ok e ∧ ∀ c, evaluateExpr e c = .ok mixedValue := by
  have hv : mixedValue.isNumberFree = true := rfl
  have hnone : AllBlank [] := rfl
  have hblank : AllBlank [' '] := rfl
  have hinner : Spells _ (.value (.list [.str "say \"\\", .none, .list []])) :=
    .list (.item hnone (.str (.inr rfl) _) hnone (.item hnone .none hblank (.lastItem hnone (.list (.noItem hnone)) hnone)))
  have hspells : Spells mixedSpelling (.value mixedValue) :=
    .list (.item hnone (.str (.inl rfl) "it's") hnone (.item hblank hinner hnone (.lastItem hnone .true hnone)))
  exact ⟨hv, hspells, (parseSource_spelling hv).2 mixedSpelling hspells⟩

end SceneMarkup.Rule
