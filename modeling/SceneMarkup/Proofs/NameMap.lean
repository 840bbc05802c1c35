import Mathlib
import SceneMarkup.Named

/-!
# What is in a map from names

Setting a value changes the value of its name only (`NameMap.get?_put`), keeps the names in order (`NameMap.Sorted.put`), and
changes the sum of numbers by what the name's number changes (`NameMap.sum_put`). A name that is set comes before, at or
behind the first name of the map, and each proof below has these three cases.
-/

namespace SceneMarkup.NameMap

open Named (names names_cons)

variable {α : Type} {m : NameMap α} {name other n : String} {value v : α}

/-! ## Setting a value -/

/-- A name before the first one becomes the first. -/
theorem put_cons_of_lt (h : name < n) : put name value ((n, v) :: m) = (name, value) :: (n, v) :: m := by
  rw [put, if_neg h.ne', if_pos h]

/-- The first name gets the value. -/
theorem put_cons_self : put n value ((n, v) :: m) = (n, value) :: m := by
  rw [put, if_pos rfl]

/-- A name behind the first one is set in what follows. -/
theorem put_cons_of_gt (h : n < name) : put name value ((n, v) :: m) = (n, v) :: put name value m := by
  rw [put, if_neg h.ne, if_neg h.not_gt]

/-! ## Values -/

/-- The first entry of a map is the value of its name. -/
theorem get?_cons (n : String) (v : α) (m : NameMap α) (name : String) :
    get? ((n, v) :: m) name = if name = n then some v else get? m name := by
  unfold get?
  rw [List.lookup_cons]
  by_cases h : name = n
  · simp [h]
  · rw [beq_eq_false_iff_ne.2 h, if_neg h]

/-- Setting the value of a name changes its value and no other. -/
theorem get?_put (name : String) (value : α) (m : NameMap α) (other : String) :
    (put name value m).get? other = if other = name then some value else m.get? other := by
  induction m with
  | nil => exact get?_cons name value [] other
  | cons p rest ih =>
    obtain ⟨n, v⟩ := p
    rcases lt_trichotomy name n with hlt | rfl | hgt
    · rw [put_cons_of_lt hlt, get?_cons]
    · rw [put_cons_self, get?_cons, get?_cons]
      split <;> rfl
    · rw [put_cons_of_gt hgt, get?_cons, get?_cons, ih]
      by_cases h : other = n
      · subst h
        rw [if_pos rfl, if_neg hgt.ne, if_pos rfl]
      · rw [if_neg h, if_neg h]

/-! ## Order -/

/-- Setting a value adds its name if it is new. -/
theorem mem_names_put : other ∈ (put name value m).names ↔ other = name ∨ other ∈ m.names := by
  induction m with
  | nil => simp [put]
  | cons p rest ih =>
    obtain ⟨n, v⟩ := p
    rcases lt_trichotomy name n with hlt | rfl | hgt
    · simp [put_cons_of_lt hlt]
    · simp [put_cons_self]
    · rw [put_cons_of_gt hgt]
      rw [names_cons, names_cons, List.mem_cons, List.mem_cons, ih, or_left_comm]

/-- The names of the map are in order. -/
def Sorted (m : NameMap α) : Prop :=
  m.names.Pairwise (· < ·)

/-- Setting a value keeps the names in order. -/
theorem Sorted.put (h : m.Sorted) (name : String) (value : α) : (NameMap.put name value m).Sorted := by
  induction m with
  | nil => simp [NameMap.put, Sorted]
  | cons p rest ih =>
    obtain ⟨n, v⟩ := p
    obtain ⟨hn, hrest⟩ := List.pairwise_cons.1 h
    rcases lt_trichotomy name n with hlt | rfl | hgt
    · rw [put_cons_of_lt hlt]
      refine List.pairwise_cons.2 ⟨?_, h⟩
      intro other hother
      rcases List.mem_cons.1 hother with rfl | hmem
      · exact hlt
      · exact hlt.trans (hn other hmem)
    · rw [put_cons_self]
      exact h
    · rw [put_cons_of_gt hgt]
      refine List.pairwise_cons.2 ⟨?_, ih hrest⟩
      intro other hother
      rcases mem_names_put.1 hother with rfl | hmem
      · exact hgt
      · exact hn other hmem

/-! ## Sums -/

/-- Setting a number changes the sum of a map by what the name's number changes. -/
theorem sum_put {m : NameMap Nat} (h : m.Sorted) (name : String) (k : Nat) :
    ((put name k m).map Prod.snd).sum + (m.get? name).getD 0 = (m.map Prod.snd).sum + k := by
  induction m with
  | nil => exact (Nat.zero_add k).symm
  | cons p rest ih =>
    obtain ⟨n, v⟩ := p
    obtain ⟨hn, hrest⟩ := List.pairwise_cons.1 h
    rcases lt_trichotomy name n with hlt | rfl | hgt
    · -- the names behind are greater still, so the name is new
      have hnew : name ∉ names rest := fun hmem => lt_irrefl name (hlt.trans (hn name hmem))
      rw [put_cons_of_lt hlt, get?_cons, if_neg hlt.ne, get?, Named.lookup_eq_none_iff.2 hnew]
      simp only [List.map_cons, List.sum_cons, Option.getD_none]
      omega
    · rw [put_cons_self, get?_cons, if_pos rfl]
      simp only [List.map_cons, List.sum_cons, Option.getD_some]
      omega
    · have hsum := ih hrest
      rw [put_cons_of_gt hgt, get?_cons, if_neg hgt.ne']
      simp only [List.map_cons, List.sum_cons]
      omega

end SceneMarkup.NameMap
