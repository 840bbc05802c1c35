/-!
# Escaping markup

Texts in attribute values have the five characters with a meaning in markup replaced by entities. A comment must not hold two
dashes in a row, so they are spread: as long as there are two in a row, every such pair gets a blank between. This ends
because every round leaves fewer places with two dashes in a row than there were (`dashPairs_splitPairs_lt`).
-/

namespace SceneMarkup

/-- One character of an attribute value. -/
def escapeChar (c : Char) : List Char :=
  if c = '&' then "&amp;".toList
  else if c = '<' then "&lt;".toList
  else if c = '>' then "&gt;".toList
  else if c = '"' then "&quot;".toList
  else if c = '\'' then "&apos;".toList
  else [c]

/-- The characters of an attribute value. -/
def escapeChars (cs : List Char) : List Char :=
  cs.flatMap escapeChar

/-- The text of an attribute value. -/
def escape (s : String) : String :=
  String.ofList (escapeChars s.toList)

/-- The number of places where two dashes are in a row. -/
def dashPairs : List Char → Nat
  | '-' :: '-' :: rest => dashPairs ('-' :: rest) + 1
  | _ :: rest => dashPairs rest
  | [] => 0

/-- The text with a blank inside each pair of dashes, where pairs are taken from the start and do not overlap. -/
def splitPairs : List Char → List Char
  | '-' :: '-' :: rest => '-' :: ' ' :: '-' :: splitPairs rest
  | c :: rest => c :: splitPairs rest
  | [] => []

/-- The text starts with a dash. -/
def startsDash : List Char → Bool
  | '-' :: _ => true
  | _ => false

/-- A dash before a text makes one more pair if the text starts with a dash. -/
theorem dashPairs_dash (cs : List Char) :
    dashPairs ('-' :: cs) = dashPairs cs + if startsDash cs then 1 else 0 := by
  cases cs with
  | nil => rfl
  | cons c rest => by_cases h : c = '-' <;> simp [dashPairs, startsDash, h]

/-- Another character before a text makes no pair. -/
theorem dashPairs_cons {c : Char} (h : c ≠ '-') (cs : List Char) : dashPairs (c :: cs) = dashPairs cs := by
  simp [dashPairs, h]

/-- Splitting pairs keeps the first character. -/
theorem startsDash_splitPairs (cs : List Char) : startsDash (splitPairs cs) = startsDash cs := by
  fun_cases splitPairs cs with
  | case1 => rfl
  | case2 c rest => by_cases h : c = '-' <;> simp [startsDash, h]
  | case3 => rfl

/-- Splitting pairs leaves no more pairs than there were. -/
theorem dashPairs_splitPairs_le (cs : List Char) : dashPairs (splitPairs cs) ≤ dashPairs cs := by
  fun_induction splitPairs cs with
  | case1 rest ih =>
    rw [dashPairs_dash, dashPairs_cons (by decide), dashPairs_dash, dashPairs_dash, dashPairs_dash, startsDash_splitPairs]
    simp [startsDash]
    omega
  | case2 c rest hc ih =>
    by_cases h : c = '-'
    · subst h
      rw [dashPairs_dash, dashPairs_dash, startsDash_splitPairs]
      omega
    · rw [dashPairs_cons h, dashPairs_cons h]
      exact ih
  | case3 => simp [dashPairs]

/-- Splitting pairs leaves fewer pairs if there were any. -/
theorem dashPairs_splitPairs_lt {cs : List Char} (h : dashPairs cs ≠ 0) : dashPairs (splitPairs cs) < dashPairs cs := by
  fun_induction splitPairs cs with
  | case1 rest ih =>
    rw [dashPairs_dash, dashPairs_cons (by decide), dashPairs_dash, dashPairs_dash, dashPairs_dash, startsDash_splitPairs]
    have := dashPairs_splitPairs_le rest
    simp [startsDash]
    omega
  | case2 c rest hc ih =>
    by_cases hd : c = '-'
    · subst hd
      rw [dashPairs_dash] at h ⊢
      have hs : startsDash rest = false := by
        cases rest with
        | nil => rfl
        | cons d rest =>
          by_cases hd : d = '-'
          · subst hd
            exact absurd rfl (hc rest rfl)
          · simp [startsDash, hd]
      simp only [hs, Bool.false_eq_true, if_false, Nat.add_zero] at h
      rw [dashPairs_dash, startsDash_splitPairs, hs]
      have := ih h
      omega
    · rw [dashPairs_cons hd] at h ⊢
      rw [dashPairs_cons hd]
      exact ih h
  | case3 => simp [dashPairs] at h

/-- The text without two dashes in a row. -/
def spreadDashes (cs : List Char) : List Char :=
  if dashPairs cs = 0 then cs else spreadDashes (splitPairs cs)
termination_by dashPairs cs
decreasing_by exact dashPairs_splitPairs_lt ‹_›

/-- The characters of a comment. -/
def commentChars (s : String) : List Char :=
  spreadDashes (escapeChars s.toList)

end SceneMarkup
