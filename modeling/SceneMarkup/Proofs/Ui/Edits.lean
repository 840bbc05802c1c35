import Mathlib.Data.List.Induction
import Mathlib.Data.List.Nodup
import SceneMarkup.Proofs.Ui.Additions

/-!
# Attributes over runs of edits

The attributes of a control are a map in the order of insertion. After any run of edits on a fresh control its names are
distinct, each has the value that was set last and not removed since, and they stand in the order in which they entered
(`UiNode.remembers_run`). All that the builder does to attributes is to edit them, so the attributes of each control that it
returns are what such a run leaves (`SceneNode.edited_buildIn`), and none is there twice.
-/

namespace SceneMarkup

open Rule (Engine)

/-! ## One edit -/

namespace UiAttributes

open Named

variable {attributes : UiAttributes} {name other value : String}

/-- Removing an attribute leaves the others in their order. -/
theorem remove_eq_filter (hd : attributes.names.Nodup) (name : String) :
    attributes.remove name = attributes.filter fun p => p.1 != name := by
  induction attributes with
  | nil => rfl
  | cons p rest ih =>
    rw [names_cons, List.nodup_cons] at hd
    rw [remove]
    by_cases hp : p.1 = name
    · have hrest : rest.filter (fun q => q.1 != name) = rest :=
        List.filter_eq_self.2 fun q hq => bne_iff_ne.2 (ne_of_notMem (hp ▸ hd.1) hq)
      rw [if_pos hp, List.filter_cons_of_neg (by simp [hp]), hrest]
    · rw [if_neg hp, List.filter_cons_of_pos (by simp [hp]), ih hd.2]

/-- Removing an attribute takes its name away and leaves the others in their order. -/
theorem names_remove (hd : attributes.names.Nodup) (name : String) :
    (attributes.remove name).names = attributes.names.filter (· != name) := by
  rw [remove_eq_filter hd, names, names, List.filter_map]
  rfl

/-- Removing an attribute takes its value away and no other. -/
theorem lookup_remove (hd : attributes.names.Nodup) (name other : String) :
    (attributes.remove name).lookup other = if other = name then none else attributes.lookup other := by
  induction attributes with
  | nil => simp [remove]
  | cons p rest ih =>
    rw [names_cons, List.nodup_cons] at hd
    rw [remove, List.lookup_cons]
    by_cases hp : p.1 = name
    · subst hp
      rw [if_pos rfl]
      by_cases h : other = p.1
      · rw [if_pos h, h, lookup_eq_none_iff.2 hd.1]
      · rw [if_neg h, beq_eq_false_iff_ne.2 h]
    · rw [if_neg hp, List.lookup_cons, ih hd.2]
      by_cases h : other = p.1
      · simp [h, hp]
      · rw [beq_eq_false_iff_ne.2 h]

end UiAttributes

/-- An edit of the attributes of a control. -/
inductive AttributeEdit where
  | set (name value : String)
  | setSome (name : String) (value? : Option String)
  | remove (name : String)

namespace AttributeEdit

variable {e : AttributeEdit} {edits : List AttributeEdit} {name other value : String} {k : Nat}

/-- The control after an edit. -/
def apply : AttributeEdit → UiNode → UiNode
  | set name value, n => n.set name value
  | setSome name value?, n => n.setSome name value?
  | remove name, n => n.remove name

/-- The edit sets an attribute to a value. -/
def Sets (e : AttributeEdit) (name value : String) : Prop :=
  e = set name value ∨ e = setSome name (some value)

/-- The edit sets or removes an attribute. -/
def Touches (e : AttributeEdit) (name : String) : Prop :=
  (∃ value, e.Sets name value) ∨ e = remove name

/-- An edit sets one attribute. -/
theorem Sets.iff (h : e.Sets name value) (v : String) : e.Sets other v ↔ other = name ∧ v = value := by
  rcases h with rfl | rfl <;> simp [Sets, eq_comm]

/-- An edit that sets an attribute removes none. -/
theorem Sets.ne_remove (h : e.Sets name value) (other : String) : e ≠ remove other := by
  rcases h with rfl | rfl <;> nofun

/-- An edit that sets an attribute touches this one. -/
theorem Sets.touches_iff (h : e.Sets name value) : e.Touches other ↔ other = name := by
  simp [Touches, h.iff, h.ne_remove]

/-- An edit sets an attribute, or touches none, or removes one. -/
theorem sets_or_keeps_or_remove (e : AttributeEdit) (n : UiNode) :
    (∃ name value, e.Sets name value ∧ e.apply n = n.set name value) ∨
      ((∀ name, ¬e.Touches name) ∧ e.apply n = n) ∨ ∃ name, e = remove name := by
  cases e with
  | set name value => exact .inl ⟨name, value, .inl rfl, rfl⟩
  | setSome name value? =>
    cases value? with
    | some value => exact .inl ⟨name, value, .inr rfl, rfl⟩
    | none => exact .inr (.inl ⟨fun other => by simp [Touches, Sets], rfl⟩)
  | remove name => exact .inr (.inr ⟨name, rfl⟩)

/-! ## What a run of edits has done -/

/-- The value is the last one that the edits set for the attribute, and they did not remove it since. -/
def LastSet (edits : List AttributeEdit) (name value : String) : Prop :=
  ∃ before e after, edits = before ++ e :: after ∧ e.Sets name value ∧ ∀ later ∈ after, ¬later.Touches name

/-- The attribute entered with edit number `k`: it was not there before, this edit sets it, and none removes it since. -/
def Enters (edits : List AttributeEdit) (name : String) (k : Nat) : Prop :=
  ∃ before e after, edits = before ++ e :: after ∧ before.length = k ∧ (∀ value, ¬LastSet before name value) ∧
    (∃ value, e.Sets name value) ∧ remove name ∉ after

/-- An edit in a run is the last one, or is in the run before the last one. -/
theorem eq_last_or_before {e x : AttributeEdit} {before after : List AttributeEdit}
    (h : edits ++ [e] = before ++ x :: after) :
    (edits = before ∧ e = x ∧ after = []) ∨ ∃ between, after = between ++ [e] ∧ edits = before ++ x :: between := by
  obtain rfl | ⟨between, y, rfl⟩ := List.eq_nil_or_concat' after
  · obtain ⟨hbefore, hx⟩ := List.append_inj' h rfl
    exact .inl ⟨hbefore, List.head_eq_of_cons_eq hx, rfl⟩
  · rw [← List.cons_append, ← List.append_assoc] at h
    obtain ⟨hedits, hy⟩ := List.append_inj' h rfl
    exact .inr ⟨between, by rw [hy], hedits⟩

/-- A value was set last by the last edit, or before it and the last edit does not touch the attribute. -/
theorem lastSet_concat :
    LastSet (edits ++ [e]) name value ↔ e.Sets name value ∨ ¬e.Touches name ∧ LastSet edits name value := by
  constructor
  · rintro ⟨before, x, after, hedits, hsets, hafter⟩
    obtain ⟨rfl, rfl, rfl⟩ | ⟨between, rfl, rfl⟩ := eq_last_or_before hedits
    · exact .inl hsets
    · rw [List.forall_mem_append, List.forall_mem_singleton] at hafter
      exact .inr ⟨hafter.2, before, x, between, rfl, hsets, hafter.1⟩
  · rintro (hsets | ⟨htouches, before, x, after, rfl, hsets, hafter⟩)
    · exact ⟨edits, e, [], rfl, hsets, nofun⟩
    · refine ⟨before, x, after ++ [e], by simp, hsets, ?_⟩
      rw [List.forall_mem_append, List.forall_mem_singleton]
      exact ⟨hafter, htouches⟩

/-- An attribute entered with the last edit, or before it and the last edit does not remove it. -/
theorem enters_concat :
    Enters (edits ++ [e]) name k ↔
      (k = edits.length ∧ (∀ value, ¬LastSet edits name value) ∧ ∃ value, e.Sets name value) ∨
        e ≠ remove name ∧ Enters edits name k := by
  constructor
  · rintro ⟨before, x, after, hedits, rfl, hbefore, hsets, hafter⟩
    obtain ⟨rfl, rfl, rfl⟩ | ⟨between, rfl, rfl⟩ := eq_last_or_before hedits
    · exact .inl ⟨rfl, hbefore, hsets⟩
    · rw [List.mem_append, List.mem_singleton, not_or] at hafter
      exact .inr ⟨Ne.symm hafter.2, before, x, between, rfl, rfl, hbefore, hsets, hafter.1⟩
  · rintro (⟨rfl, hbefore, hsets⟩ | ⟨hremove, before, x, after, rfl, rfl, hbefore, hsets, hafter⟩)
    · exact ⟨edits, e, [], rfl, rfl, hbefore, hsets, List.not_mem_nil⟩
    · refine ⟨before, x, after ++ [e], by simp, rfl, hbefore, hsets, ?_⟩
      rw [List.mem_append, List.mem_singleton, not_or]
      exact ⟨hafter, Ne.symm hremove⟩

/-- The edit with which an attribute entered is one of the run. -/
theorem Enters.lt_length (h : Enters edits name k) : k < edits.length := by
  obtain ⟨before, e, after, rfl, rfl, -⟩ := h
  simp

/-- An attribute that entered has been set to a value. -/
theorem Enters.exists_lastSet (h : Enters edits name k) : ∃ value, LastSet edits name value := by
  induction edits using List.reverseRecOn with
  | nil => nomatch h.lt_length
  | append_singleton edits e ih =>
    simp only [lastSet_concat]
    obtain ⟨-, -, value, hsets⟩ | ⟨hremove, h⟩ := enters_concat.1 h
    · exact ⟨value, .inl hsets⟩
    · by_cases htouches : e.Touches name
      · obtain ⟨value, hsets⟩ := htouches.resolve_right hremove
        exact ⟨value, .inl hsets⟩
      · obtain ⟨value, hlast⟩ := ih h
        exact ⟨value, .inr ⟨htouches, hlast⟩⟩

/-- An attribute enters once. -/
theorem Enters.unique {i j : Nat} (hi : Enters edits name i) (hj : Enters edits name j) : i = j := by
  induction edits using List.reverseRecOn with
  | nil => nomatch hi.lt_length
  | append_singleton edits e ih =>
    -- An attribute that entered before does not enter with the last edit, as it has a value.
    have habsurd : ∀ {k : Nat}, Enters edits name k → ¬∀ value, ¬LastSet edits name value := fun h =>
      not_forall_not.2 h.exists_lastSet
    obtain ⟨rfl, hnone, -⟩ | ⟨-, hi⟩ := enters_concat.1 hi
    · obtain ⟨rfl, -⟩ | ⟨-, hj⟩ := enters_concat.1 hj
      · rfl
      · exact absurd hnone (habsurd hj)
    · obtain ⟨-, hnone, -⟩ | ⟨-, hj⟩ := enters_concat.1 hj
      · exact absurd hnone (habsurd hi)
      · exact ih hi hj

/-- Names that are distinct, and stand in the order in which they entered with edits of a run. -/
structure InOrder (edits : List AttributeEdit) (names : List String) : Prop where
  distinct : names.Nodup
  entered : ∀ name ∈ names, ∃! k, Enters edits name k
  order : names.Pairwise fun a b => ∃ i j, Enters edits a i ∧ Enters edits b j ∧ i < j

variable {names kept : List String}

/-- Names that an edit does not remove stay in their order. -/
theorem InOrder.concat (h : InOrder edits names) (hkept : kept.Sublist names) (he : ∀ name ∈ kept, e ≠ remove name) :
    InOrder (edits ++ [e]) kept where
  distinct := h.distinct.sublist hkept
  entered := by
    intro name hname
    obtain ⟨k, hk, -⟩ := h.entered name (hkept.subset hname)
    have hstill : Enters (edits ++ [e]) name k := enters_concat.2 (.inr ⟨he name hname, hk⟩)
    exact ⟨k, hstill, fun j hj => hj.unique hstill⟩
  order := by
    refine (h.order.sublist hkept).imp_of_mem ?_
    rintro a b ha hb ⟨i, j, hi, hj, hij⟩
    exact ⟨i, j, enters_concat.2 (.inr ⟨he a ha, hi⟩), enters_concat.2 (.inr ⟨he b hb, hj⟩), hij⟩

/-- A name that has no value enters behind the others with the edit that sets it. -/
theorem InOrder.enter (h : InOrder edits names) (hnew : name ∉ names) (hnone : ∀ value, ¬LastSet edits name value)
    (he : e.Sets name value) : InOrder (edits ++ [e]) (names ++ [name]) := by
  have hstay : InOrder (edits ++ [e]) names := h.concat (List.Sublist.refl _) fun other _ => he.ne_remove other
  have hlast : Enters (edits ++ [e]) name edits.length := enters_concat.2 (.inl ⟨rfl, hnone, value, he⟩)
  refine ⟨?_, ?_, ?_⟩
  · exact List.nodup_append'.2 ⟨h.distinct, List.nodup_singleton name, List.disjoint_singleton.2 hnew⟩
  · rw [List.forall_mem_append, List.forall_mem_singleton]
    exact ⟨hstay.entered, edits.length, hlast, fun j hj => hj.unique hlast⟩
  · refine List.pairwise_append.2 ⟨hstay.order, List.pairwise_singleton _ _, ?_⟩
    intro a ha b hb
    obtain rfl := List.mem_singleton.1 hb
    obtain ⟨i, hi, -⟩ := h.entered a ha
    exact ⟨i, edits.length, enters_concat.2 (.inr ⟨he.ne_remove a, hi⟩), hlast, hi.lt_length⟩

end AttributeEdit

/-! ## Runs of edits -/

namespace UiNode

open AttributeEdit

variable {n : UiNode} {e : AttributeEdit} {edits : List AttributeEdit} {name value : String}

/-- The names of the attributes of a control. -/
abbrev names (n : UiNode) : List String :=
  Named.names n.attributes

/-- The control after a run of edits. -/
def run (n : UiNode) (edits : List AttributeEdit) : UiNode :=
  edits.foldl (fun n e => e.apply n) n

/-- A run ends with its last edit. -/
theorem run_concat (n : UiNode) (edits : List AttributeEdit) (e : AttributeEdit) :
    n.run (edits ++ [e]) = e.apply (n.run edits) :=
  List.foldl_concat ..

/-- The attributes are what a run of edits leaves: names in the order in which they entered, and the values set last. -/
structure Remembers (n : UiNode) (edits : List AttributeEdit) : Prop where
  names : InOrder edits n.names
  values : ∀ name value, n.get? name = some value ↔ LastSet edits name value

namespace Remembers

/-- A name that is not there has no value that was set last. -/
theorem not_lastSet (h : n.Remembers edits) (hnew : name ∉ n.names) (value : String) : ¬LastSet edits name value := by
  rw [← h.values, get?, Named.lookup_eq_none_iff.2 hnew]
  nofun

/-- A further edit sets an attribute. -/
theorem set (h : n.Remembers edits) (he : e.Sets name value) : (n.set name value).Remembers (edits ++ [e]) where
  names := by
    have hnames : (n.set name value).names = if name ∈ n.names then n.names else n.names ++ [name] :=
      Named.names_put name value n.attributes
    rw [hnames]
    split
    · exact h.names.concat (List.Sublist.refl _) fun other _ => he.ne_remove other
    · exact h.names.enter ‹_› (h.not_lastSet ‹_›) he
  values := by
    intro other v
    rw [get?_set, lastSet_concat, he.iff, he.touches_iff, ← h.values]
    by_cases hother : other = name <;> simp [hother, eq_comm]

/-- A further edit touches nothing. -/
theorem keep (h : n.Remembers edits) (he : ∀ name, ¬e.Touches name) : n.Remembers (edits ++ [e]) where
  names := h.names.concat (List.Sublist.refl _) fun name _ hremove => he name (.inr hremove)
  values := by
    intro name value
    have hsets : ¬e.Sets name value := fun hsets => he name (.inl ⟨value, hsets⟩)
    rw [lastSet_concat, h.values]
    simp [hsets, he name]

/-- A further edit removes an attribute. -/
theorem remove (h : n.Remembers edits) (name : String) : (n.remove name).Remembers (edits ++ [.remove name]) where
  names := by
    have hnames : (n.remove name).names = n.names.filter (· != name) := UiAttributes.names_remove h.names.distinct name
    rw [hnames]
    refine h.names.concat List.filter_sublist ?_
    rintro other hother ⟨⟩
    simp at hother
  values := by
    intro other value
    have hget : (n.remove name).get? other = if other = name then none else n.get? other :=
      UiAttributes.lookup_remove h.names.distinct name other
    rw [hget, lastSet_concat, ← h.values]
    by_cases hother : other = name
    · simp [hother, Touches, Sets]
    · simp [hother, Ne.symm hother, Touches, Sets]

/-- Attributes that a run has left are, after a further edit, what the longer run has left. -/
theorem apply (h : n.Remembers edits) (e : AttributeEdit) : (e.apply n).Remembers (edits ++ [e]) := by
  obtain ⟨name, value, hsets, happly⟩ | ⟨hkeeps, happly⟩ | ⟨name, rfl⟩ := e.sets_or_keeps_or_remove n
  · rw [happly]
    exact h.set hsets
  · rw [happly]
    exact h.keep hkeeps
  · exact h.remove name

end Remembers

/-- The attributes of a fresh control are what no edit has left. -/
theorem remembers_ofKind (kind : UiKind) : (ofKind kind).Remembers [] where
  names := ⟨List.nodup_nil, nofun, List.Pairwise.nil⟩
  values := by
    intro name value
    have hnone : (ofKind kind).get? name = none := rfl
    simp [hnone, LastSet]

/-- The attributes of a fresh control after a run of edits are what the run has left. -/
theorem remembers_run (kind : UiKind) (edits : List AttributeEdit) : ((ofKind kind).run edits).Remembers edits := by
  induction edits using List.reverseRecOn with
  | nil => exact remembers_ofKind kind
  | append_singleton edits e ih =>
    -- What the run before the last edit has left is all that the last edit depends on.
    rw [run_concat]
    exact ih.apply e

/-- Each edit of a control leaves the other attributes where they are: an attribute that is there is overwritten in its
place, a new one goes to the end, without a value nothing changes, and what is behind a removed one moves up. -/
structure KeepsOrder (n : UiNode) : Prop where
  overwrite : ∀ name value, n.has name = true →
    (n.set name value).attributes = n.attributes.map fun p => if p.1 = name then (name, value) else p
  append : ∀ name value, n.has name = false → (n.set name value).attributes = n.attributes ++ [(name, value)]
  present : ∀ name value, n.setSome name (some value) = n.set name value
  absent : ∀ name, n.setSome name none = n
  remove : ∀ name, (n.remove name).attributes = n.attributes.filter fun p => p.1 != name

/-- A control whose names are distinct keeps its attributes where they are. -/
theorem keepsOrder (hd : n.names.Nodup) : n.KeepsOrder where
  overwrite _ _ h := Named.put_of_mem hd (Named.isSome_lookup_iff.1 h)
  append _ _ h := Named.put_of_notMem _ fun hmem => by
    rw [has, get?, Named.isSome_lookup_iff.2 hmem] at h
    cases h
  present _ _ := rfl
  absent _ := rfl
  remove name := UiAttributes.remove_eq_filter hd name

end UiNode

end SceneMarkup
