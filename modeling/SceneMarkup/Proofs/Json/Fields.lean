import Mathlib.Data.List.Nodup
import Mathlib.Data.List.Perm.Subperm
import SceneMarkup.Json.Basic

/-!
# The fields of an object

What is left of the fields of an object when each is kept or left out by itself is told by the names (`Fields.lookup_keep`),
and nothing changes exactly if every field is kept as it is (`Fields.keep_eq_self_iff`).
-/

namespace SceneMarkup

namespace Fields

open Named

/-- An object all of whose names another one with as many fields has too has the same names. -/
theorem names_perm_of_lookup {fields others : Fields} (hd : fields.names.Nodup) (hlen : fields.length = others.length)
    (h : ∀ p ∈ fields, ∃ v, others.lookup p.1 = some v) : fields.names.Perm others.names := by
  have hsub : fields.names ⊆ others.names := by
    intro name hm
    obtain ⟨p, hp, rfl⟩ := List.mem_map.1 hm
    obtain ⟨v, hv⟩ := h p hp
    exact List.mem_map.2 ⟨_, mem_of_lookup hv, rfl⟩
  -- as many names, all of which are among the others, are the others
  exact (List.Nodup.subperm hd hsub).perm_of_length_le (by simp [hlen])

/-- The fields of which something is kept. -/
def keep (f : String → Json → Option Json) (fields : Fields) : Fields :=
  fields.filterMap fun p => (f p.1 p.2).map (p.1, ·)

section

variable {f : String → Json → Option Json} {fields : Fields} {name : String} {v w : Json}

/-- The fields are kept one by one. -/
theorem keep_cons (f : String → Json → Option Json) (name : String) (v : Json) (rest : Fields) :
    keep f ((name, v) :: rest) = ((f name v).map (name, ·)).toList ++ keep f rest := by
  unfold keep
  rw [List.filterMap_cons]
  cases f name v <;> rfl

/-- The fields of two lists are kept one list after the other. -/
theorem keep_append (f : String → Json → Option Json) (fields others : Fields) :
    keep f (fields ++ others) = keep f fields ++ keep f others :=
  List.filterMap_append

/-- A field that is there was there, and this is what is kept of it. -/
theorem mem_keep : (name, w) ∈ keep f fields ↔ ∃ v, (name, v) ∈ fields ∧ f name v = some w := by
  rw [keep, List.mem_filterMap]
  constructor
  · rintro ⟨⟨n, v⟩, hm, hk⟩
    obtain ⟨x, hx, he⟩ := Option.map_eq_some_iff.1 hk
    cases he
    exact ⟨v, hm, hx⟩
  · rintro ⟨v, hm, hk⟩
    exact ⟨(name, v), hm, by simp only [hk, Option.map_some]⟩

/-- No field gets another name. -/
theorem names_keep (f : String → Json → Option Json) (fields : Fields) : (keep f fields).names.Sublist fields.names := by
  induction fields with
  | nil => simp [keep]
  | cons p rest ih =>
    obtain ⟨n, v⟩ := p
    rw [keep_cons]
    cases f n v with
    | none => simpa using ih.cons n
    | some w => simpa using ih.cons_cons n

/-- What is kept of the field of a name. -/
theorem lookup_keep (hd : fields.names.Nodup) (name : String) :
    (keep f fields).lookup name = (fields.lookup name).bind (f name) := by
  have hd' := (names_keep f fields).nodup hd
  ext w
  rw [lookup_eq_some_iff hd', mem_keep, Option.bind_eq_some_iff]
  simp only [lookup_eq_some_iff hd]

/-- The first value of a name is found again, if something of it is kept. -/
theorem lookup_keep_of_some (hl : fields.lookup name = some v) (hk : f name v = some w) :
    (keep f fields).lookup name = some w := by
  induction fields with
  | nil => nomatch hl
  | cons p rest ih =>
    obtain ⟨n, x⟩ := p
    rw [keep_cons]
    by_cases hn : name = n
    · subst hn
      rw [List.lookup_cons_self] at hl
      obtain rfl := Option.some.inj hl
      rw [hk]
      exact List.lookup_cons_self
    · have hne : (name == n) = false := beq_eq_false_iff_ne.2 hn
      rw [List.lookup_cons, hne] at hl
      rw [List.lookup_append, ih hl]
      cases f n x with
      | none => rfl
      | some y => simp [List.lookup_cons, hne]

/-- Nothing changes exactly if every field is kept as it is. -/
theorem keep_eq_self_iff : keep f fields = fields ↔ ∀ p ∈ fields, f p.1 p.2 = some p.2 := by
  induction fields with
  | nil => simp [keep]
  | cons p rest ih =>
    obtain ⟨n, v⟩ := p
    rw [keep_cons, List.forall_mem_cons, ← ih]
    cases hv : f n v with
    | none =>
      -- One field less than before cannot be as many.
      have hlen : (keep f rest).length ≤ rest.length := by
        simpa using (names_keep f rest).length_le
      refine iff_of_false (fun he => ?_) (by simp)
      have := congrArg List.length he
      simp at this
      omega
    | some w => simp

end

end Fields

end SceneMarkup
