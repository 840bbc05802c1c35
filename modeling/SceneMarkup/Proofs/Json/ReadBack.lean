import Mathlib.Data.Option.Basic
import Mathlib.Tactic.SplitIfs
import SceneMarkup.Json.Printer
import SceneMarkup.Json.Reader
import SceneMarkup.Proofs.Json.Basic
import SceneMarkup.Proofs.Json.Distinct

/-!
# Reading what is written

A value is read back from its compact text (`Json.read?_compact`) if no object in it names a field twice, all its numbers are
whole numbers of 64 bits, and it is not nested too deep.
-/

namespace SceneMarkup

namespace Json

/-! ## Texts -/

/-- The four digits that the printer writes of a control character are read back. -/
theorem exists_unit?_of_lt {n : Nat} (h : n < 32) :
    ∃ a b c d, fourHexDigits n = [a, b, c, d] ∧ unit? a b c d = some n := by
  have hall : ∀ n < 32, unit? (n / 4096 % 16).digitChar (n / 256 % 16).digitChar (n / 16 % 16).digitChar
      (n % 16).digitChar = some n := by
    decide
  exact ⟨_, _, _, _, rfl, hall n h⟩

/-- An escape of one letter is read as the character that it stands for. -/
theorem readString_shortEscape {e c : Char} (he : shortEscape? e = some c) (done rest : List Char) :
    readString none done ('\\' :: e :: rest) = readString none (c :: done) rest := by
  have hu : e ≠ 'u' := by
    rintro rfl
    nomatch he
  rw [readString, he]
  · rfl
  · intro _ _ _ _ _ h _
    exact hu h

/-- A character that the printer writes between quotes is read back. -/
theorem readString_jsonChar (c : Char) (done rest : List Char) :
    readString none done (jsonChar c ++ rest) = readString none (c :: done) rest := by
  unfold jsonChar
  split_ifs with hquote hslash hb hf hn hr ht hcontrol
  · exact readString_shortEscape (by rw [hquote]; rfl) done rest
  · exact readString_shortEscape (by rw [hslash]; rfl) done rest
  · exact readString_shortEscape (by rw [hb]; rfl) done rest
  · exact readString_shortEscape (by rw [hf]; rfl) done rest
  · exact readString_shortEscape (by rw [hn]; rfl) done rest
  · exact readString_shortEscape (by rw [hr]; rfl) done rest
  · exact readString_shortEscape (by rw [ht]; rfl) done rest
  · obtain ⟨x, y, z, w, hd, hu⟩ := exists_unit?_of_lt hcontrol
    have hhigh : isHighHalf c.toNat = false := by simp [isHighHalf]; omega
    have hlow : isLowHalf c.toNat = false := by simp [isLowHalf]; omega
    rw [hd]
    simp only [List.cons_append, List.nil_append]
    rw [readString, hu]
    simp [hhigh, hlow]
  · simp [readString, hquote, hslash, hcontrol]

/-- A text that the printer writes is read back after its opening quote. -/
theorem readString_jsonChars (cs done rest : List Char) :
    readString none done (cs.flatMap jsonChar ++ '"' :: rest) = some (String.ofList (done.reverse ++ cs), rest) := by
  induction cs generalizing done with
  | nil => simp [readString]
  | cons c cs ih => simp [readString_jsonChar, ih]

/-- A text is read back after its opening quote. -/
theorem readString_text (s : String) (rest : List Char) :
    readString none [] (s.toList.flatMap jsonChar ++ '"' :: rest) = some (s, rest) := by
  simp [readString_jsonChars]

/-! ## Numbers -/

/-- A run of digits does not begin with a zero, unless it is the zero. -/
theorem head?_toDigits {n : Nat} (h : 0 < n) : (Nat.toDigits 10 n).head? ≠ some '0' := by
  induction n using Nat.base_induction 10 (by decide) with
  | single m hm =>
    rw [Nat.toDigits_of_lt_base hm]
    simpa using Nat.ne_of_gt h
  | digit m k hk hm ih =>
    rw [← Nat.toDigits_append_toDigits (by decide) hm hk, List.head?_append]
    simpa [Nat.toDigits_ne_nil] using ih hm

/-- What follows a value in the text of a larger one, or nothing. -/
def Follows (rest : List Char) : Prop :=
  ∀ c, rest.head? = some c → c = ',' ∨ c = ']' ∨ c = '\x7d'

/-- The digits of a number are read up to their end. -/
theorem readNumberParts_toDigits (n : Nat) {rest : List Char} (h : Follows rest) :
    readNumberParts (Nat.toDigits 10 n ++ rest) = some (⟨Nat.toDigits 10 n, none, none⟩, rest) := by
  have hdigits : ∀ c ∈ Nat.toDigits 10 n, c.isDigit = true :=
    fun c hc => Nat.isDigit_of_mem_toDigits (by decide) (by decide) hc
  have hend : rest.takeWhile Char.isDigit = [] ∧ rest.dropWhile Char.isDigit = rest := by
    cases rest with
    | nil => exact ⟨rfl, rfl⟩
    | cons c rest =>
      have hc : c.isDigit = false := by
        rcases h c rfl with rfl | rfl | rfl <;> rfl
      simp [hc]
  have htake : (Nat.toDigits 10 n ++ rest).takeWhile Char.isDigit = Nat.toDigits 10 n := by
    rw [List.takeWhile_append_of_pos hdigits, hend.1, List.append_nil]
  have hdrop : (Nat.toDigits 10 n ++ rest).dropWhile Char.isDigit = rest := by
    rw [List.dropWhile_append_of_pos hdigits, hend.2]
  have hzero : ((Nat.toDigits 10 n).length == 1 || (Nat.toDigits 10 n).head? != some '0') = true := by
    by_cases hn : n = 0
    · subst hn; rfl
    · simp [head?_toDigits (Nat.pos_of_ne_zero hn)]
  have hguard : (guard ((!(Nat.toDigits 10 n).isEmpty &&
      ((Nat.toDigits 10 n).length == 1 || (Nat.toDigits 10 n).head? != some '0')) = true) : Option Unit) = some () :=
    (Option.guard_eq_some' ()).2 (by simp only [hzero, List.isEmpty_eq_false_iff.2 Nat.toDigits_ne_nil]; rfl)
  unfold readNumberParts
  rw [htake, hdrop]
  dsimp only
  rw [hguard]
  cases rest with
  | nil => rfl
  | cons c rest =>
    rcases h c rfl with rfl | rfl | rfl <;> rfl

/-- The digits of a number have its value. -/
theorem digitsValue_toDigits (n : Nat) : digitsValue (Nat.toDigits 10 n) = n := by
  have h := Nat.ofDigitChars_toDigits (b := 10) (n := n) (by decide) (by decide)
  rwa [Nat.ofDigitChars_eq_foldl] at h

/-- No blank is skipped where there is none. -/
theorem skipSpace_cons {c : Char} (h : isSpace c = false) (cs : List Char) : skipSpace (c :: cs) = c :: cs := by
  simp [skipSpace, h]

/-- A digit is no blank. -/
theorem isSpace_of_isDigit {c : Char} (h : c.isDigit = true) : isSpace c = false := by
  cases hs : isSpace c with
  | false => rfl
  | true =>
    simp only [isSpace, Bool.or_eq_true, beq_iff_eq] at hs
    rcases hs with ((rfl | rfl) | rfl) | rfl <;> nomatch h

/-- A digit begins a number. -/
theorem readValue_of_isDigit {c : Char} (h : c.isDigit = true) (fuel depth : Nat) (cs : List Char) :
    readValue (fuel + 1) depth (c :: cs) = (do
      let (parts, rest) ← readNumberParts (c :: cs)
      return (← parts.value? false, rest)) := by
  rw [readValue.eq_def]
  simp only [skipSpace_cons (isSpace_of_isDigit h)]
  split
  all_goals first
    | rfl
    | (rename_i he
       obtain ⟨rfl, -⟩ := List.cons.inj he
       nomatch h)

/-- The text of a whole number. -/
theorem text_whole (n : Int) :
    (JsonNumber.whole n).text = if 0 ≤ n then Nat.toDigits 10 n.toNat else '-' :: Nat.toDigits 10 (-n).toNat := by
  rw [JsonNumber.text, Int.toString_eq_repr, Int.repr_eq_if]
  split <;> simp

/-- A whole number of 64 bits is read back. -/
theorem readValue_whole {n : Int} (h : -(twoTo 63 : Int) ≤ n ∧ n < twoTo 64) {rest : List Char} (hrest : Follows rest)
    (fuel depth : Nat) :
    readValue (fuel + 1) depth ((JsonNumber.whole n).text ++ rest) = some (.num (.whole n), rest) := by
  rw [text_whole]
  split
  · rename_i hn
    obtain ⟨c, cs, hc⟩ := List.exists_cons_of_ne_nil (Nat.toDigits_ne_nil (n := n.toNat) (b := 10))
    have hdigit : c.isDigit = true := Nat.isDigit_of_mem_toDigits (by decide) (by decide) (hc ▸ List.mem_cons_self)
    have hlt : n.toNat < twoTo 64 := by omega
    have hparts := readNumberParts_toDigits n.toNat hrest
    have hvalue : NumberParts.value? false ⟨Nat.toDigits 10 n.toNat, none, none⟩ = some (.num (.whole n)) := by
      simp [NumberParts.value?, digitsValue_toDigits, hlt, Json.int, Int.toNat_of_nonneg hn]
    rw [hc, List.cons_append] at hparts ⊢
    rw [readValue_of_isDigit hdigit, hparts]
    simp [← hc, hvalue]
  · rename_i hn
    have hpos : 0 < (-n).toNat ∧ (-n).toNat ≤ twoTo 63 := by omega
    have hvalue : NumberParts.value? true ⟨Nat.toDigits 10 (-n).toNat, none, none⟩ = some (.num (.whole n)) := by
      have hneg : -((-n).toNat : Int) = n := by omega
      simp only [NumberParts.value?, digitsValue_toDigits, Option.isSome_none, Bool.or_false, if_true, if_pos hpos, hneg]
      rfl
    rw [List.cons_append, readValue]
    simp [skipSpace_cons (c := '-') rfl, readNumberParts_toDigits _ hrest, hvalue]


/-! ## Values -/

/-- A word is read up to its end. -/
theorem readWord_append (word : String) (v : Json) (rest : List Char) :
    readWord word v (word.toList ++ rest) = some (v, rest) := by
  unfold readWord
  rw [if_pos (by simp), ← String.length_toList, List.drop_left]

mutual
/-- A value that is read back whatever binary64 numbers are: it is nested at most so deep, and its numbers are whole numbers
of 64 bits. -/
def isPlain : (depth : Nat) → Json → Bool
  | _, .num (.whole n) => -(twoTo 63 : Int) ≤ n && n < twoTo 64
  | _, .num (.real _ _) => false
  | depth + 1, .arr items => arePlain depth items
  | depth + 1, .obj fields => arePlainFields depth fields
  | 0, .arr _ => false
  | 0, .obj _ => false
  | _, _ => true

/-- `isPlain` of every item. -/
def arePlain (depth : Nat) : List Json → Bool
  | [] => true
  | v :: rest => isPlain depth v && arePlain depth rest

/-- `isPlain` of every field's value. -/
def arePlainFields (depth : Nat) : List (String × Json) → Bool
  | [] => true
  | (_, v) :: rest => isPlain depth v && arePlainFields depth rest
end

/-- A value begins with a character that is neither a blank nor closes anything. -/
theorem exists_compactChars_eq_cons {v : Json} {depth : Nat} (h : v.isPlain depth = true) :
    ∃ c cs, v.compactChars = c :: cs ∧ isSpace c = false ∧ c ≠ ']' := by
  cases v with
  | null => exact ⟨_, _, rfl, rfl, by decide⟩
  | bool b => cases b <;> exact ⟨_, _, rfl, rfl, by decide⟩
  | num n =>
    cases n with
    | whole n =>
      rw [compactChars, text_whole]
      split
      · obtain ⟨c, cs, hc⟩ := List.exists_cons_of_ne_nil (Nat.toDigits_ne_nil (n := n.toNat) (b := 10))
        have hdigit : c.isDigit = true := Nat.isDigit_of_mem_toDigits (by decide) (by decide) (hc ▸ List.mem_cons_self)
        refine ⟨c, cs, hc, isSpace_of_isDigit hdigit, ?_⟩
        rintro rfl
        nomatch hdigit
      · exact ⟨_, _, rfl, rfl, by decide⟩
    | real x hx => simp [isPlain] at h
  | str s =>
    rw [compactChars, jsonString]
    exact ⟨_, _, rfl, rfl, by decide⟩
  | arr items => cases items <;> (rw [compactChars]; exact ⟨_, _, rfl, rfl, by decide⟩)
  | obj fields => cases fields <;> (rw [compactChars]; exact ⟨_, _, rfl, rfl, by decide⟩)

/-- Plain items are plain. -/
theorem arePlain_iff {depth : Nat} {items : List Json} :
    arePlain depth items = true ↔ ∀ v ∈ items, v.isPlain depth = true := by
  induction items with
  | nil => simp [arePlain]
  | cons v rest ih => simp [arePlain, ih]

/-- Plain fields have plain values. -/
theorem arePlainFields_iff {depth : Nat} {fields : Fields} :
    arePlainFields depth fields = true ↔ ∀ p ∈ fields, p.2.isPlain depth = true := by
  induction fields with
  | nil => simp [arePlainFields]
  | cons p rest ih => simp [arePlainFields, ih]

/-- The reader gets the value from its text, wherever the text ends. -/
def ReadsBack (depth : Nat) (v : Json) : Prop :=
  ∀ (fuel : Nat) (rest : List Char), 2 * v.compactChars.length ≤ fuel → Follows rest →
    readValue fuel depth (v.compactChars ++ rest) = some (v, rest)

/-- The items of an array are read back if each of them is. -/
theorem readItems_compactItems {depth : Nat} {v : Json} {items : List Json} (hv : v.ReadsBack depth)
    (hitems : ∀ w ∈ items, w.ReadsBack depth) (done : List Json) (rest : List Char) (fuel : Nat)
    (hf : 2 * (v.compactChars ++ compactItems items).length < fuel) :
    readItems fuel depth done (v.compactChars ++ (compactItems items ++ ']' :: rest)) =
      some (.arr (done.reverse ++ v :: items), rest) := by
  induction items generalizing v done fuel with
  | nil =>
    obtain ⟨fuel, rfl⟩ : ∃ k, fuel = k + 1 := ⟨fuel - 1, by omega⟩
    have hread := hv fuel (']' :: rest) (by simp [compactItems] at hf; omega) (by simp [Follows])
    simp [readItems, compactItems, hread, skipSpace_cons (c := ']') rfl]
  | cons w items ih =>
    obtain ⟨fuel, rfl⟩ : ∃ k, fuel = k + 1 := ⟨fuel - 1, by omega⟩
    rw [List.forall_mem_cons] at hitems
    simp only [compactItems, List.length_append, List.length_cons] at hf
    have hread := hv fuel (compactItems (w :: items) ++ ']' :: rest) (by omega) (by simp [compactItems, Follows])
    have hrest := ih hitems.1 hitems.2 (v :: done) fuel (by simp only [List.length_append]; omega)
    rw [readItems, hread]
    simpa [compactItems, skipSpace_cons (c := ',') rfl] using hrest

/-- The fields of an object are read back if each of their values is. -/
theorem readFields_compactFields {depth : Nat} (name : String) {v : Json} {fields : Fields} (hv : v.ReadsBack depth)
    (hfields : ∀ p ∈ fields, p.2.ReadsBack depth) (done : Fields) (rest : List Char) (fuel : Nat)
    (hf : 2 * (jsonString name ++ ':' :: v.compactChars ++ compactFields fields).length < fuel) :
    readFields fuel depth done (jsonString name ++ ':' :: (v.compactChars ++ (compactFields fields ++ '\x7d' :: rest))) =
      some (.obj (done.reverse ++ (name, v) :: fields), rest) := by
  induction fields generalizing name v done fuel with
  | nil =>
    obtain ⟨fuel, rfl⟩ : ∃ k, fuel = k + 1 := ⟨fuel - 1, by omega⟩
    have hread := hv fuel ('\x7d' :: rest) (by simp [compactFields] at hf; omega) (by simp [Follows])
    simp [readFields, jsonString, compactFields, readString_text, hread, skipSpace_cons (c := '"') rfl,
      skipSpace_cons (c := ':') rfl, skipSpace_cons (c := '\x7d') rfl]
  | cons p fields ih =>
    obtain ⟨other, w⟩ := p
    obtain ⟨fuel, rfl⟩ : ∃ k, fuel = k + 1 := ⟨fuel - 1, by omega⟩
    rw [List.forall_mem_cons] at hfields
    simp only [compactFields, List.length_append, List.length_cons] at hf
    have hread := hv fuel (compactFields ((other, w) :: fields) ++ '\x7d' :: rest) (by omega)
      (by simp [compactFields, Follows])
    have hrest := ih other hfields.1 hfields.2 ((name, v) :: done) fuel
      (by simp only [List.length_append, List.length_cons]; omega)
    simp only [readFields, jsonString, List.cons_append, List.append_assoc, List.nil_append,
      skipSpace_cons (c := '"') rfl, readString_text, Option.bind_eq_bind, Option.bind_some,
      skipSpace_cons (c := ':') rfl, hread]
    simpa [compactFields, jsonString, skipSpace_cons (c := ',') rfl] using hrest

/-- An array is read back if its items are. -/
theorem readsBack_arr {depth : Nat} {items : List Json} (hp : ∀ v ∈ items, v.isPlain depth = true)
    (hitems : ∀ v ∈ items, v.ReadsBack depth) : (Json.arr items).ReadsBack (depth + 1) := by
  intro fuel rest hf _
  cases items with
  | nil =>
    obtain ⟨fuel, rfl⟩ : ∃ k, fuel = k + 1 := ⟨fuel - 1, by simp [compactChars] at hf; omega⟩
    simp [compactChars, readValue, skipSpace_cons (c := '[') rfl, skipSpace_cons (c := ']') rfl]
  | cons v items =>
    rw [List.forall_mem_cons] at hp hitems
    simp only [compactChars, List.length_cons, List.length_append] at hf
    obtain ⟨fuel, rfl⟩ : ∃ k, fuel = k + 1 := ⟨fuel - 1, by omega⟩
    have hread := readItems_compactItems hitems.1 hitems.2 [] rest fuel (by simp only [List.length_append]; omega)
    -- An array that is not empty is told from an empty one by the first character of its first item.
    obtain ⟨c, cs, hc, hspace, hclose⟩ := exists_compactChars_eq_cons hp.1
    rw [hc, List.cons_append] at hread
    simpa [compactChars, readValue, hc, skipSpace_cons (c := '[') rfl, skipSpace_cons hspace, hclose] using hread

/-- An object is read back if the values of its fields are. -/
theorem readsBack_obj {depth : Nat} {fields : Fields} (hfields : ∀ p ∈ fields, p.2.ReadsBack depth) :
    (Json.obj fields).ReadsBack (depth + 1) := by
  intro fuel rest hf _
  cases fields with
  | nil =>
    obtain ⟨fuel, rfl⟩ : ∃ k, fuel = k + 1 := ⟨fuel - 1, by simp [compactChars] at hf; omega⟩
    simp [compactChars, readValue, skipSpace_cons (c := '\x7b') rfl, skipSpace_cons (c := '\x7d') rfl]
  | cons p fields =>
    obtain ⟨name, v⟩ := p
    rw [List.forall_mem_cons] at hfields
    simp only [compactChars, List.length_cons, List.length_append] at hf
    obtain ⟨fuel, rfl⟩ : ∃ k, fuel = k + 1 := ⟨fuel - 1, by omega⟩
    have hread := readFields_compactFields name hfields.1 hfields.2 [] rest fuel
      (by simp only [List.length_append, List.length_cons]; omega)
    simpa [compactChars, jsonString, readValue, skipSpace_cons (c := '\x7b') rfl, skipSpace_cons (c := '"') rfl]
      using hread

/-- A plain value is read back. -/
theorem readsBack_of_isPlain (v : Json) : ∀ depth, v.isPlain depth = true → v.ReadsBack depth := by
  induction v using Json.byParts with
  | leaf v ha ho =>
    intro depth hp fuel rest hf hrest
    obtain ⟨c, cs, hc, -, -⟩ := exists_compactChars_eq_cons hp
    obtain ⟨fuel, rfl⟩ : ∃ k, fuel = k + 1 := ⟨fuel - 1, by simp [hc] at hf; omega⟩
    cases v with
    | null => simpa [compactChars, readValue, skipSpace_cons (c := 'n') rfl] using readWord_append "ull" .null rest
    | bool b =>
      cases b with
      | true =>
        simpa [compactChars, readValue, skipSpace_cons (c := 't') rfl] using readWord_append "rue" (.bool true) rest
      | false =>
        simpa [compactChars, readValue, skipSpace_cons (c := 'f') rfl] using readWord_append "alse" (.bool false) rest
    | num n =>
      cases n with
      | whole n => exact readValue_whole (by simpa [isPlain] using hp) hrest fuel depth
      | real x hx => simp [isPlain] at hp
    | str s => simp [compactChars, jsonString, readValue, skipSpace_cons (c := '"') rfl, readString_text]
    | arr items => nomatch ha
    | obj fields => nomatch ho
  | arr items ih =>
    intro depth hp
    cases depth with
    | zero => simp [isPlain] at hp
    | succ depth =>
      rw [isPlain, arePlain_iff] at hp
      exact readsBack_arr hp fun v hv => ih v hv depth (hp v hv)
  | obj fields ih =>
    intro depth hp
    cases depth with
    | zero => simp [isPlain] at hp
    | succ depth =>
      rw [isPlain, arePlainFields_iff] at hp
      exact readsBack_obj fun p hm => ih p hm depth (hp p hm)

/-! ## Settled values -/

/-- Settling fields whose names are distinct puts one behind the other. -/
theorem settleFields_eq_append {done fields : Fields} (hd : (Named.names (done ++ fields)).Nodup)
    (hv : ∀ p ∈ fields, p.2.settle = p.2) : settleFields done fields = done ++ fields := by
  induction fields generalizing done with
  | nil => simp [settleFields]
  | cons p rest ih =>
    obtain ⟨name, v⟩ := p
    rw [List.forall_mem_cons] at hv
    have hn : name ∉ done.names := by
      intro hm
      rw [Named.names, List.map_append, List.nodup_append] at hd
      exact hd.2.2 name hm name (by simp) rfl
    rw [settleFields, hv.1, Named.put_of_notMem v hn, ih (by simpa using hd) hv.2]
    simp

/-- A value without repeated names is settled. -/
theorem settle_of_distinct (v : Json) : v.Distinct → v.settle = v := by
  induction v using Json.byParts with
  | leaf v ha ho =>
    intro _
    cases v with
    | arr items => nomatch ha
    | obj fields => nomatch ho
    | _ => simp [settle]
  | arr items ih =>
    intro hd
    rw [distinct_arr] at hd
    have hitems : settleItems items = items := by
      induction items with
      | nil => simp [settleItems]
      | cons v rest ihr =>
        rw [List.forall_mem_cons] at ih hd
        rw [settleItems, ih.1 hd.1, ihr ih.2 hd.2]
    rw [settle, hitems]
  | obj fields ih =>
    intro hd
    rw [distinct_obj] at hd
    have hfields : settleFields [] fields = fields :=
      settleFields_eq_append hd.1 fun p hp => ih p hp (hd.2 p hp)
    rw [settle, hfields]

/-- A plain value without repeated names is read back from its text. -/
theorem read?_compact {v : Json} (hp : v.isPlain maxDepth = true) (hd : v.Distinct) : read? v.compact = some v := by
  have hread := readsBack_of_isPlain v maxDepth hp (2 * v.compactChars.length + 2) [] (by omega) (by simp [Follows])
  rw [List.append_nil] at hread
  simp [read?, readRaw?, compact, hread, skipSpace, settle_of_distinct v hd]

end Json

end SceneMarkup
