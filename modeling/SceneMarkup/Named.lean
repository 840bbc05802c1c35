/-!
# Lists of named values

The fields of an object, the attributes of a control and the entries of a map are lists of named values. A name leads to the
first value that stands under it. Setting a value either keeps the order in which names came (`Named.put`), or the names stay
sorted (`NameMap.put`), so that two maps with the same entries are equal and are written alike.
-/

namespace SceneMarkup

/-- Values with names, in order. -/
abbrev Named (α : Type) := List (String × α)

namespace Named

variable {α : Type} {entries : Named α} {name other : String} {v value : α}

/-- The names. -/
abbrev names (entries : Named α) : List String := entries.map Prod.fst

theorem names_cons (p : String × α) (rest : Named α) : names (p :: rest) = p.1 :: names rest := rfl

/-! ## What a name leads to -/

/-- A value that a name leads to stands under the name. -/
theorem mem_of_lookup (h : entries.lookup name = some v) : (name, v) ∈ entries := by
  obtain ⟨before, behind, rfl, -⟩ := List.lookup_eq_some_iff.1 h
  simp

/-- A name leads to no value exactly if it is missing. -/
theorem lookup_eq_none_iff : entries.lookup name = none ↔ name ∉ entries.names := by
  rw [List.lookup_eq_none_iff, List.mem_map]
  constructor
  · rintro h ⟨p, hp, rfl⟩
    exact absurd (h p hp) (by simp)
  · intro h p hp
    exact bne_iff_ne.2 fun he => h ⟨p, hp, he.symm⟩

/-- A name leads to a value exactly if it is there. -/
theorem isSome_lookup_iff : (entries.lookup name).isSome = true ↔ name ∈ entries.names := by
  rw [← Option.ne_none_iff_isSome, ne_eq, lookup_eq_none_iff, Classical.not_not]

/-- Where names are distinct, the entries are the pairs that names lead to. -/
theorem lookup_eq_some_iff (hd : entries.names.Nodup) : entries.lookup name = some v ↔ (name, v) ∈ entries := by
  refine ⟨mem_of_lookup, fun h => ?_⟩
  induction entries with
  | nil => nomatch h
  | cons p rest ih =>
    obtain ⟨n, w⟩ := p
    rw [names_cons, List.nodup_cons] at hd
    rcases List.mem_cons.1 h with he | hm
    · cases he
      exact List.lookup_cons_self
    · have hn : name ≠ n := by
        rintro rfl
        exact hd.1 (List.mem_map.2 ⟨_, hm, rfl⟩)
      rw [List.lookup_cons, beq_eq_false_iff_ne.2 hn]
      exact ih hd.2 hm

/-- What the name of the last entry leads to. -/
theorem lookup_concat (v : α) (h : name ∉ entries.names) : (entries ++ [(name, v)]).lookup name = some v := by
  rw [List.lookup_append, lookup_eq_none_iff.2 h, Option.none_or, List.lookup_cons_self]

/-- If a name is missing, every entry has another one. -/
theorem ne_of_notMem (h : name ∉ entries.names) {p : String × α} (hp : p ∈ entries) : p.1 ≠ name := by
  rintro rfl
  exact h (List.mem_map_of_mem hp)

/-! ## Setting a value -/

/-- Sets a value: a name already present keeps its place, a new one goes to the end. -/
def put (name : String) (value : α) : Named α → Named α
  | [] => [(name, value)]
  | (n, v) :: rest => if n = name then (name, value) :: rest else (n, v) :: put name value rest

/-- Setting a value changes what its name leads to, and nothing else. -/
theorem lookup_put (name : String) (value : α) (other : String) (entries : Named α) :
    (put name value entries).lookup other = if other = name then some value else entries.lookup other := by
  induction entries with
  | nil => by_cases h : other = name <;> simp [put, List.lookup_cons, h, beq_eq_false_iff_ne.2]
  | cons p rest ih =>
    obtain ⟨n, v⟩ := p
    by_cases hn : n = name
    · by_cases h : other = name <;> simp [put, List.lookup_cons, hn, h, beq_eq_false_iff_ne.2]
    · by_cases h : other = n
      · simp [put, hn, h]
      · simp [put, List.lookup_cons, hn, h, ih, beq_eq_false_iff_ne.2]

/-- A new name goes to the end. -/
theorem put_of_notMem (value : α) (h : name ∉ entries.names) : put name value entries = entries ++ [(name, value)] := by
  induction entries with
  | nil => rfl
  | cons p rest ih =>
    rw [names_cons, List.mem_cons, not_or] at h
    rw [put, if_neg (Ne.symm h.1), ih h.2, List.cons_append]

/-- A name that is there keeps its place and takes the value. -/
theorem put_of_mem (hd : entries.names.Nodup) (h : name ∈ entries.names) :
    put name value entries = entries.map fun p => if p.1 = name then (name, value) else p := by
  induction entries with
  | nil => nomatch h
  | cons p rest ih =>
    rw [names_cons, List.nodup_cons] at hd
    rw [names_cons, List.mem_cons] at h
    rw [List.map_cons, put]
    by_cases hp : p.1 = name
    · have hrest : rest.map (fun q => if q.1 = name then (name, value) else q) = rest :=
        (List.map_congr_left fun q hq => if_neg (ne_of_notMem (hp ▸ hd.1) hq)).trans (List.map_id' rest)
      rw [if_pos hp, if_pos hp, hrest]
    · rw [if_neg hp, if_neg hp, ih hd.2 (h.resolve_left (Ne.symm hp))]

/-- Setting a value adds its name behind the others if it is new. -/
theorem names_put (name : String) (value : α) (entries : Named α) :
    names (put name value entries) = if name ∈ entries.names then entries.names else entries.names ++ [name] := by
  induction entries with
  | nil => rfl
  | cons p rest ih =>
    rw [put]
    by_cases hp : p.1 = name
    · subst hp
      simp
    · have hname : name ≠ p.1 := Ne.symm hp
      rw [if_neg hp, names_cons, names_cons, ih]
      by_cases hrest : name ∈ names rest <;> simp [hrest, hname]

/-- Setting a value keeps names distinct. -/
theorem nodup_put (hd : entries.names.Nodup) : (put name value entries).names.Nodup := by
  rw [names_put]
  split
  · exact hd
  · rename_i h
    refine List.nodup_append.2 ⟨hd, by simp, ?_⟩
    rintro n hn m hm rfl
    exact h (List.mem_singleton.1 hm ▸ hn)

end Named

/-- Values by name, sorted by name. -/
abbrev NameMap (α : Type) := Named α

namespace NameMap

variable {α : Type}

/-- Sets the value of a name. -/
def put (name : String) (value : α) : NameMap α → NameMap α
  | [] => [(name, value)]
  | (n, v) :: rest =>
    if n = name then (name, value) :: rest
    else if name < n then (name, value) :: (n, v) :: rest
    else (n, v) :: put name value rest

/-- The map of some entries, of which a later one counts more. -/
def ofEntries (entries : List (String × α)) : NameMap α :=
  entries.foldl (fun m e => put e.1 e.2 m) []

/-- The value of a name. -/
def get? (m : NameMap α) (name : String) : Option α :=
  m.lookup name

end NameMap

end SceneMarkup
