import Mathlib.Data.List.Infix
import SceneMarkup.Markup.Escape

/-!
# The dashes of a comment

Spreading the dashes of a comment ends after at most two rounds (`exists_spreads`): a round leaves no three dashes in a row,
and the next one takes the pairs that are left apart. What comes out is the text with one blank between each two dashes that
were in a row (`spaced`), and nothing else is changed (`commentChars_spaced`).
-/

namespace SceneMarkup

/-- A text with one blank between each two dashes in a row. -/
def spaced : List Char → List Char
  | [] => []
  | c :: rest => c :: if c = '-' ∧ startsDash rest then ' ' :: spaced rest else spaced rest

/-- A text becomes another one in so many rounds: as long as there are two dashes in a row, every such pair gets a blank
between. -/
inductive Spreads : Nat → List Char → List Char → Prop where
  | done {cs : List Char} (apart : ¬['-', '-'] <:+: cs) : Spreads 0 cs cs
  | round {rounds : Nat} {cs ds : List Char} (together : ['-', '-'] <:+: cs) (rest : Spreads rounds (splitPairs cs) ds) :
      Spreads (rounds + 1) cs ds

/-! ## Texts without two dashes in a row -/

/-- A text that starts with a dash. -/
theorem startsDash_iff {cs : List Char} : startsDash cs = true ↔ ∃ rest, cs = '-' :: rest := by
  cases cs with
  | nil => simp [startsDash]
  | cons c rest => by_cases h : c = '-' <;> simp [startsDash, h]

/-- Where no two dashes are in a row there is no place to count. -/
theorem dashPairs_eq_zero_iff {cs : List Char} : dashPairs cs = 0 ↔ ¬['-', '-'] <:+: cs := by
  induction cs with
  | nil => simp [dashPairs]
  | cons c rest ih =>
    have hstart : ['-', '-'] <+: c :: rest ↔ c = '-' ∧ startsDash rest = true := by
      rw [List.cons_prefix_cons, startsDash_iff, eq_comm]
      simp [List.IsPrefix, eq_comm]
    rw [List.infix_cons_iff, hstart, not_or, ← ih]
    by_cases h : c = '-'
    · subst h
      rw [dashPairs_dash]
      cases startsDash rest <;> simp
    · rw [dashPairs_cons h]
      simp [h]

/-- A text without two dashes in a row is not changed by a round. -/
theorem splitPairs_of_dashPairs {cs : List Char} (h : dashPairs cs = 0) : splitPairs cs = cs := by
  fun_induction splitPairs cs with
  | case1 rest ih =>
    rw [dashPairs_dash] at h
    simp [startsDash] at h
  | case2 c rest hc ih =>
    have hrest : dashPairs rest = 0 := by
      by_cases hd : c = '-'
      · subst hd
        rw [dashPairs_dash] at h
        omega
      · rwa [dashPairs_cons hd] at h
    rw [ih hrest]
  | case3 => rfl

/-! ## Rounds -/

section

variable {c : Char} {cs ds : List Char}

/-- A dash that no dash follows stays by itself. -/
theorem splitPairs_dash (h : startsDash cs = false) : splitPairs ('-' :: cs) = '-' :: splitPairs cs := by
  cases cs with
  | nil => rfl
  | cons d rest =>
    have hd : d ≠ '-' := by
      rintro rfl
      nomatch h
    simp [splitPairs, hd]

/-- Any other character stays as it is. -/
theorem splitPairs_cons (h : c ≠ '-') (cs : List Char) : splitPairs (c :: cs) = c :: splitPairs cs := by
  simp [splitPairs, h]

/-- A dash gets a blank behind it if a dash follows. -/
theorem spaced_dash (cs : List Char) :
    spaced ('-' :: cs) = '-' :: if startsDash cs then ' ' :: spaced cs else spaced cs := by
  simp [spaced]

/-- Any other character stays as it is. -/
theorem spaced_cons (h : c ≠ '-') (cs : List Char) : spaced (c :: cs) = c :: spaced cs := by
  simp [spaced, h]

/-- Two rounds put a blank between each two dashes in a row, also where the second round takes in a dash before the text: a
round leaves no two dashes at the start. -/
theorem splitPairs_twice (cs : List Char) :
    splitPairs (splitPairs cs) = spaced cs ∧ splitPairs ('-' :: splitPairs cs) = spaced ('-' :: cs) := by
  fun_induction splitPairs cs with
  | case1 rest ih =>
    have htwo : ∀ cs, spaced ('-' :: '-' :: cs) = '-' :: ' ' :: spaced ('-' :: cs) := by
      intro cs
      rw [spaced_dash]
      rfl
    constructor
    · rw [splitPairs_dash rfl, splitPairs_cons (by decide), ih.2, htwo]
    · rw [splitPairs, splitPairs_cons (by decide), ih.2, htwo, htwo]
  | case2 c rest hc ih =>
    by_cases hd : c = '-'
    · subst hd
      have hrest : startsDash rest = false := by
        refine Bool.eq_false_iff.2 fun hs => ?_
        obtain ⟨tail, rfl⟩ := startsDash_iff.1 hs
        exact hc tail rfl rfl
      constructor
      · exact ih.2
      · rw [splitPairs, ih.1, spaced_dash, spaced_dash, hrest]
        rfl
    · constructor
      · rw [splitPairs_cons hd, spaced_cons hd, ih.1]
      · rw [splitPairs_dash (by simp [startsDash, hd]), splitPairs_cons hd, ih.1, spaced_dash, spaced_cons hd]
        simp [startsDash, hd]
  | case3 => exact ⟨rfl, rfl⟩

/-- No two dashes are left in a row. -/
theorem dashPairs_spaced (cs : List Char) : dashPairs (spaced cs) = 0 := by
  have hstart : ∀ cs, startsDash (spaced cs) = startsDash cs := by
    intro cs
    cases cs with
    | nil => rfl
    | cons c rest => by_cases h : c = '-' <;> simp [spaced, startsDash, h]
  induction cs with
  | nil => rfl
  | cons c rest ih =>
    by_cases h : c = '-'
    · subst h
      rw [spaced_dash]
      cases hs : startsDash rest with
      | false =>
        rw [if_neg (by decide), dashPairs_dash, hstart, hs, ih]
        rfl
      | true =>
        rw [if_pos rfl, dashPairs_dash, dashPairs_cons (by decide), ih]
        rfl
    · rw [spaced_cons h, dashPairs_cons h, ih]

/-- A text without two dashes in a row gets no blank. -/
theorem spaced_of_dashPairs (h : dashPairs cs = 0) : spaced cs = cs := by
  have htwice := (splitPairs_twice cs).1
  rwa [splitPairs_of_dashPairs h, splitPairs_of_dashPairs h, eq_comm] at htwice

/-- The rounds end, after at most two of them. -/
theorem exists_spreads (cs : List Char) : ∃ rounds ≤ 2, Spreads rounds cs (spaced cs) := by
  by_cases h : dashPairs cs = 0
  · refine ⟨0, by decide, ?_⟩
    rw [spaced_of_dashPairs h]
    exact .done (dashPairs_eq_zero_iff.1 h)
  · have htogether : ['-', '-'] <:+: cs := not_not.1 (mt dashPairs_eq_zero_iff.2 h)
    by_cases h' : dashPairs (splitPairs cs) = 0
    · refine ⟨1, by decide, .round htogether ?_⟩
      rw [← (splitPairs_twice cs).1, splitPairs_of_dashPairs h']
      exact .done (dashPairs_eq_zero_iff.1 h')
    · have htogether' : ['-', '-'] <:+: splitPairs cs := not_not.1 (mt dashPairs_eq_zero_iff.2 h')
      refine ⟨2, by decide, .round htogether (.round htogether' ?_)⟩
      rw [(splitPairs_twice cs).1]
      exact .done (dashPairs_eq_zero_iff.1 (dashPairs_spaced cs))

/-- What the rounds end with is what is computed. -/
theorem Spreads.eq_spreadDashes {rounds : Nat} (h : Spreads rounds cs ds) : spreadDashes cs = ds := by
  induction h with
  | done hapart => rw [spreadDashes, if_pos (dashPairs_eq_zero_iff.2 hapart)]
  | round htogether _ ih => rw [spreadDashes, if_neg (mt dashPairs_eq_zero_iff.1 (not_not.2 htogether)), ih]

end

/-- The characters of a comment are those of the escaped text, spread in at most two rounds. They have no two dashes in a
row, and they are the escaped text with one blank between each two dashes that were. -/
theorem commentChars_spaced (s : String) :
    (∃ rounds ≤ 2, Spreads rounds (escape s).toList (commentChars s)) ∧ ¬['-', '-'] <:+: commentChars s ∧
      commentChars s = spaced (escape s).toList := by
  have hchars : commentChars s = spreadDashes (escape s).toList := by
    rw [escape, String.toList_ofList]
    rfl
  obtain ⟨rounds, hle, hspreads⟩ := exists_spreads (escape s).toList
  have heq : commentChars s = spaced (escape s).toList := hchars.trans hspreads.eq_spreadDashes
  refine ⟨⟨rounds, hle, ?_⟩, ?_, heq⟩
  · rwa [heq]
  · rw [heq]
    exact dashPairs_eq_zero_iff.1 (dashPairs_spaced _)

example : spaced "a---b--".toList = "a- - -b- -".toList := by
  decide

end SceneMarkup
