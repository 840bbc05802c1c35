import Mathlib
import SceneMarkup.Proofs.Decimal.Order
import SceneMarkup.Rule.Expr.Evaluation

/-!
# Equality and order of values

What equality and order look at in a value is its standing: numbers and truth values stand for their place among the numbers.
Values without NaN are equal exactly if they have the same standing (`Value.looseEqual_iff`), and they are ordered as their
standings are (`Value.ordering_iff`), so equality and order fit together (`Value.looseEqual_ordering_coherent`).
-/

namespace SceneMarkup.Rule

/-- What equality and order look at in a value. -/
inductive Standing where
  | none
  | number (place : ℤ ×ₗ ℤ ×ₗ ℤ)
  | text (s : String)
  | list (items : List Standing)

namespace Standing

variable {r s t : Standing}

/-- The first standing comes before the second: of two lists, by the first items that differ, or where the first list ends. -/
inductive Below : Standing → Standing → Prop where
  | number {x y : ℤ ×ₗ ℤ ×ₗ ℤ} (h : x < y) : Below (.number x) (.number y)
  | text {a b : String} (h : a < b) : Below (.text a) (.text b)
  | shorter (t : Standing) (ts : List Standing) : Below (.list []) (.list (t :: ts))
  | first {s t : Standing} (ss ts : List Standing) (h : Below s t) : Below (.list (s :: ss)) (.list (t :: ts))
  | later {ss ts : List Standing} (s : Standing) (h : Below (.list ss) (.list ts)) :
      Below (.list (s :: ss)) (.list (s :: ts))

/-- What comes before a third standing by way of a second one comes before it. -/
theorem Below.trans (h : Below r s) (h' : Below s t) : Below r t := by
  induction h generalizing t with
  | number h =>
    cases h' with
    | number h' => exact .number (h.trans h')
  | text h =>
    cases h' with
    | text h' => exact .text (String.lt_trans h h')
  | shorter s ss =>
    cases h' with
    | first _ _ _ => exact .shorter _ _
    | later _ _ => exact .shorter _ _
  | first ss ts h ih =>
    cases h' with
    | first _ _ h' => exact .first _ _ (ih h')
    | later _ _ => exact .first _ _ h
  | later s h ih =>
    cases h' with
    | first _ _ h' => exact .first _ _ h'
    | later _ h' => exact .later s (ih h')

/-- No standing comes before itself. -/
theorem Below.ne (h : Below s t) : s ≠ t := by
  induction h with
  | number h => simpa using h.ne
  | text h => simpa using String.ne_of_lt h
  | shorter t ts => simp
  | first ss ts h ih => simp [ih]
  | later s h ih => simpa using ih

/-- How the first standing stands to the second one. Nothing stands in no order to anything. -/
def Compares : Ordering → Standing → Standing → Prop
  | .lt, s, t => Below s t
  | .eq, s, t => s = t ∧ s ≠ .none
  | .gt, s, t => Below t s

/-- Two numbers, two texts or two lists. -/
def SameKind : Standing → Standing → Prop
  | .number _, .number _ => True
  | .text _, .text _ => True
  | .list _, .list _ => True
  | _, _ => False

/-- Only standings of the same kind are in an order. -/
theorem Compares.sameKind {o : Ordering} (h : Compares o s t) : SameKind s t := by
  have hbelow : ∀ {s t : Standing}, Below s t → SameKind s t ∧ SameKind t s := by
    intro s t h
    cases h <;> exact ⟨trivial, trivial⟩
  cases o with
  | lt => exact (hbelow h).1
  | eq =>
    obtain ⟨rfl, hs⟩ := h
    cases s with
    | none => exact absurd rfl hs
    | _ => trivial
  | gt => exact (hbelow h).2

/-- Standings in an order are the same exactly if neither comes before the other. -/
theorem Compares.eq_iff {o : Ordering} (h : Compares o s t) : o = .eq ↔ s = t := by
  cases o with
  | lt => exact iff_of_false (by decide) (Below.ne h)
  | eq => exact iff_of_true rfl h.1
  | gt => exact iff_of_false (by decide) (Below.ne h).symm

/-- The second standing stands to the first one the other way round. -/
theorem compares_swap {o : Ordering} : Compares o t s ↔ Compares o.swap s t := by
  cases o with
  | lt => exact Iff.rfl
  | gt => exact Iff.rfl
  | eq =>
    constructor
    · rintro ⟨rfl, h⟩
      exact ⟨rfl, h⟩
    · rintro ⟨rfl, h⟩
      exact ⟨rfl, h⟩

/-- Standings of one kind stand to each other as what they are made of, if they come before each other as that does. -/
theorem compares_of_linearOrder {α : Type} [LinearOrder α] {f : α → Standing} (hnone : ∀ x, f x ≠ .none)
    (hbelow : ∀ x y, Below (f x) (f y) ↔ x < y) {o : Ordering} (x y : α) :
    Compares o (f x) (f y) ↔ compare x y = o := by
  cases o with
  | lt => exact (hbelow x y).trans compare_lt_iff_lt.symm
  | gt => exact (hbelow y x).trans compare_gt_iff_gt.symm
  | eq =>
    rw [compare_eq_iff_eq]
    constructor
    · rintro ⟨he, -⟩
      rcases lt_trichotomy x y with h | h | h
      · exact absurd he ((hbelow x y).2 h).ne
      · exact h
      · exact absurd he.symm ((hbelow y x).2 h).ne
    · rintro rfl
      exact ⟨rfl, hnone x⟩

/-- Numbers stand to each other as their places. -/
theorem compares_number {o : Ordering} (x y : ℤ ×ₗ ℤ ×ₗ ℤ) :
    Compares o (.number x) (.number y) ↔ compare x y = o := by
  refine compares_of_linearOrder (fun x he => by cases he) (fun x y => ⟨fun h => ?_, .number⟩) x y
  cases h with
  | number h => exact h

/-- Texts stand to each other as they are ordered. -/
theorem compares_text {o : Ordering} (a b : String) : Compares o (.text a) (.text b) ↔ compare a b = o := by
  refine compares_of_linearOrder (fun a he => by cases he) (fun a b => ⟨fun h => ?_, .text⟩) a b
  cases h with
  | text h => exact h

/-- Empty lists stand to each other as equals. -/
theorem compares_nil {o : Ordering} : Compares o (.list []) (.list []) ↔ o = .eq := by
  cases o with
  | lt => exact iff_of_false (fun h => h.ne rfl) (by decide)
  | eq => simp [Compares]
  | gt => exact iff_of_false (fun h => h.ne rfl) (by decide)

/-- A list that goes on comes behind one that ends. -/
theorem compares_nil_cons {o : Ordering} (t : Standing) (ts : List Standing) :
    Compares o (.list []) (.list (t :: ts)) ↔ o = .lt := by
  cases o with
  | lt => exact iff_of_true (.shorter t ts) rfl
  | eq => simp [Compares]
  | gt => exact iff_of_false (fun h => by cases h) (by decide)

/-- Lists with the same first item stand to each other as what follows it. -/
theorem compares_cons_self {o : Ordering} (s : Standing) (ss ts : List Standing) :
    Compares o (.list (s :: ss)) (.list (s :: ts)) ↔ Compares o (.list ss) (.list ts) := by
  have hbelow : ∀ {ss ts}, Below (.list (s :: ss)) (.list (s :: ts)) ↔ Below (.list ss) (.list ts) := by
    intro ss ts
    constructor
    · intro h
      cases h with
      | first _ _ h => exact absurd rfl h.ne
      | later _ h => exact h
    · exact .later s
  cases o with
  | lt => exact hbelow
  | eq => simp [Compares]
  | gt => exact hbelow

/-- Lists with different first items stand to each other as these do. -/
theorem compares_cons_of_ne {o : Ordering} (h : s ≠ t) (ss ts : List Standing) :
    Compares o (.list (s :: ss)) (.list (t :: ts)) ↔ Compares o s t := by
  have hbelow : ∀ {s t : Standing} {ss ts}, s ≠ t → (Below (.list (s :: ss)) (.list (t :: ts)) ↔ Below s t) := by
    intro s t ss ts hne
    constructor
    · intro hb
      cases hb with
      | first _ _ hb => exact hb
      | later _ _ => exact absurd rfl hne
    · exact .first ss ts
  cases o with
  | lt => exact hbelow h
  | eq => simp [Compares, h]
  | gt => exact hbelow h.symm

end Standing

namespace Value

mutual
/-- No number in the value is a NaN. -/
def isNaNFree : Value → Bool
  | .number x => !x.isNaN
  | .list items => areNaNFree items
  | _ => true

/-- No number in the items is a NaN. -/
def areNaNFree : List Value → Bool
  | [] => true
  | v :: rest => v.isNaNFree && areNaNFree rest
end

mutual
/-- What equality and order look at in a value. -/
def standing : Value → Standing
  | .none => .none
  | .bool b => .number (placeOf (if b then 1 else 0))
  | .number x => .number (placeOf x)
  | .str s => .text s
  | .list items => .list (standings items)

/-- The standings of the items. -/
def standings : List Value → List Standing
  | [] => []
  | v :: rest => v.standing :: standings rest
end

variable {a b v : Value} {x y : Float}

/-! ## Numbers -/

/-- A value with a number is the number, or a truth value that counts as it. -/
theorem eq_of_number?_eq_some (h : v.number? = some x) : v = .number x ∨ ∃ p, v = .bool p ∧ x = if p then 1 else 0 := by
  cases v with
  | bool p =>
    cases h
    exact .inr ⟨p, rfl, rfl⟩
  | number y =>
    cases h
    exact .inl rfl
  | _ => cases h

/-- A value without a number is nothing, a text or a list. -/
theorem eq_of_number?_eq_none (h : v.number? = Option.none) :
    v = .none ∨ (∃ s, v = .str s) ∨ ∃ items, v = .list items := by
  cases v with
  | none => exact .inl rfl
  | str s => exact .inr (.inl ⟨s, rfl⟩)
  | list items => exact .inr (.inr ⟨items, rfl⟩)
  | _ => cases h

/-- A value with a number stands for the place of the number. -/
theorem standing_of_number? (h : v.number? = some x) : v.standing = .number (placeOf x) := by
  rcases eq_of_number?_eq_some h with rfl | ⟨p, rfl, rfl⟩ <;> rfl

/-- The number of a value without NaN is not NaN. -/
theorem isNaN_of_number? (hv : v.isNaNFree = true) (h : v.number? = some x) : x.isNaN = false := by
  rcases eq_of_number?_eq_some h with rfl | ⟨p, rfl, rfl⟩
  · simpa [isNaNFree] using hv
  · cases p <;> rfl

/-- The order of two numbers is that of their places. -/
theorem orderNumbers?_eq (hx : x.isNaN = false) (hy : y.isNaN = false) :
    orderNumbers? x y = some (compare (placeOf x) (placeOf y)) := by
  have hlt := lt_iff_place hx hy
  have heq := beq_iff_place hx hy
  have hgt := lt_iff_place hy hx
  unfold orderNumbers?
  rcases lt_trichotomy (placeOf x) (placeOf y) with h | h | h
  · rw [if_pos (hlt.2 h), compare_lt_iff_lt.2 h]
  · rw [if_neg (mt hlt.1 h.not_lt), if_pos (heq.2 h), compare_eq_iff_eq.2 h]
  · rw [if_neg (mt hlt.1 h.not_gt), if_neg (mt heq.1 h.ne'), if_pos (hgt.2 h), compare_gt_iff_gt.2 h]

/-- A value with a number is equal to the values with the same place. -/
theorem looseEqual_iff_of_number? (ha : a.isNaNFree = true) (hb : b.isNaNFree = true) (h : a.number? = some x) :
    a.looseEqual b = true ↔ a.standing = b.standing := by
  cases hy : b.number? with
  | some y =>
    have hloose : a.looseEqual b = (x == y) := by
      rcases eq_of_number?_eq_some h with rfl | ⟨p, rfl, rfl⟩ <;>
        rcases eq_of_number?_eq_some hy with rfl | ⟨q, rfl, rfl⟩ <;> rfl
    rw [hloose, standing_of_number? h, standing_of_number? hy, Standing.number.injEq]
    exact beq_iff_place (isNaN_of_number? ha h) (isNaN_of_number? hb hy)
  | none =>
    have hloose : a.looseEqual b = false := by
      rcases eq_of_number?_eq_some h with rfl | ⟨p, rfl, rfl⟩ <;>
        rcases eq_of_number?_eq_none hy with rfl | ⟨s, rfl⟩ | ⟨items, rfl⟩ <;> rfl
    rw [hloose, standing_of_number? h]
    rcases eq_of_number?_eq_none hy with rfl | ⟨s, rfl⟩ | ⟨items, rfl⟩ <;> simp [standing]

/-- A value with a number is ordered with the values that have one, by their places. -/
theorem ordering_iff_of_number? {o : Ordering} (ha : a.isNaNFree = true) (hb : b.isNaNFree = true)
    (h : a.number? = some x) : ordering a b = .ok o ↔ Standing.Compares o a.standing b.standing := by
  cases hy : b.number? with
  | some y =>
    have hplaces := orderNumbers?_eq (isNaN_of_number? ha h) (isNaN_of_number? hb hy)
    have hordering : ordering a b = .ok (compare (placeOf x) (placeOf y)) := by
      rcases eq_of_number?_eq_some h with rfl | ⟨p, rfl, rfl⟩ <;>
        rcases eq_of_number?_eq_some hy with rfl | ⟨q, rfl, rfl⟩ <;>
          simp [ordering, numbers?, number?, hplaces]
    rw [hordering, standing_of_number? h, standing_of_number? hy, Standing.compares_number, Except.ok.injEq]
  | none =>
    have hordering : ordering a b = .error (.notOrdered a.typeName b.typeName) := by
      rcases eq_of_number?_eq_some h with rfl | ⟨p, rfl, rfl⟩ <;>
        rcases eq_of_number?_eq_none hy with rfl | ⟨s, rfl⟩ | ⟨items, rfl⟩ <;> rfl
    rw [hordering, standing_of_number? h]
    refine iff_of_false (fun he => by cases he) fun hc => ?_
    rcases eq_of_number?_eq_none hy with rfl | ⟨s, rfl⟩ | ⟨items, rfl⟩ <;> exact hc.sameKind

/-! ## All values -/

mutual
/-- Values are equal exactly if they have the same standing. -/
theorem looseEqual_iff : (a b : Value) → a.isNaNFree = true → b.isNaNFree = true →
    (a.looseEqual b = true ↔ a.standing = b.standing)
  | .none, b, _, _ => by
    cases b <;> simp [looseEqual, numbers?, number?, standing]
  | .bool p, b, ha, hb => looseEqual_iff_of_number? ha hb rfl
  | .number x, b, ha, hb => looseEqual_iff_of_number? ha hb rfl
  | .str s, b, _, _ => by
    cases b <;> simp [looseEqual, numbers?, number?, standing]
  | .list as, b, ha, hb => by
    cases b with
    | list bs =>
      rw [looseEqual, standing, standing, Standing.list.injEq]
      exact looseEqualItems_iff as bs ha hb
    | _ => simp [looseEqual, numbers?, number?, standing]

/-- Items are equal one by one exactly if they have the same standings. -/
theorem looseEqualItems_iff : (as bs : List Value) → areNaNFree as = true → areNaNFree bs = true →
    (looseEqualItems as bs = true ↔ standings as = standings bs)
  | [], bs, _, _ => by
    cases bs <;> simp [looseEqualItems, standings]
  | a :: as, [], _, _ => by
    simp [looseEqualItems, standings]
  | a :: as, b :: bs, ha, hb => by
    rw [areNaNFree, Bool.and_eq_true] at ha hb
    rw [looseEqualItems, standings, standings, Bool.and_eq_true, List.cons.injEq, looseEqual_iff a b ha.1 hb.1,
      looseEqualItems_iff as bs ha.2 hb.2]
end

mutual
/-- Values are ordered as their standings are. -/
theorem ordering_iff {o : Ordering} : (a b : Value) → a.isNaNFree = true → b.isNaNFree = true →
    (ordering a b = .ok o ↔ Standing.Compares o a.standing b.standing)
  | .none, b, _, _ => by
    refine iff_of_false ?_ fun hc => ?_
    · cases b <;> simp [ordering, numbers?, number?]
    · cases b <;> exact hc.sameKind
  | .bool p, b, ha, hb => ordering_iff_of_number? ha hb rfl
  | .number x, b, ha, hb => ordering_iff_of_number? ha hb rfl
  | .str s, b, _, _ => by
    cases b with
    | str t => rw [ordering, standing, standing, Standing.compares_text, Except.ok.injEq]
    | _ => exact iff_of_false (by simp [ordering, numbers?, number?]) fun hc => hc.sameKind
  | .list as, b, ha, hb => by
    cases b with
    | list bs =>
      rw [ordering, standing, standing]
      exact orderingItems_iff as bs ha hb
    | _ => exact iff_of_false (by simp [ordering, numbers?, number?]) fun hc => hc.sameKind

/-- Lists are ordered as their standings are. -/
theorem orderingItems_iff {o : Ordering} : (as bs : List Value) → areNaNFree as = true → areNaNFree bs = true →
    (orderingItems as bs = .ok o ↔ Standing.Compares o (.list (standings as)) (.list (standings bs)))
  | [], [], _, _ => by
    rw [orderingItems, standings, Except.ok.injEq, Standing.compares_nil, eq_comm]
  | [], b :: bs, _, _ => by
    rw [orderingItems, standings, standings, Standing.compares_nil_cons, Except.ok.injEq, eq_comm]
  | a :: as, [], _, _ => by
    rw [orderingItems, standings, standings, Standing.compares_swap, Standing.compares_nil_cons, Except.ok.injEq]
    cases o <;> simp
  | a :: as, b :: bs, ha, hb => by
    rw [areNaNFree, Bool.and_eq_true] at ha hb
    rw [orderingItems, standings, standings]
    by_cases h : a.standing = b.standing
    · rw [if_pos ((looseEqual_iff a b ha.1 hb.1).2 h), h, Standing.compares_cons_self]
      exact orderingItems_iff as bs ha.2 hb.2
    · rw [if_neg (mt (looseEqual_iff a b ha.1 hb.1).1 h), Standing.compares_cons_of_ne h]
      exact ordering_iff a b ha.1 hb.1
end

/-- The order of two values in one direction is the order in the other one reversed, or there is none in both. -/
theorem ordering_swap {a b : Value} (ha : a.isNaNFree = true) (hb : b.isNaNFree = true) :
    (ordering b a).toOption = (ordering a b).toOption.map Ordering.swap := by
  have hswap : ∀ o, ordering b a = .ok o ↔ ordering a b = .ok o.swap := by
    intro o
    rw [ordering_iff b a hb ha, ordering_iff a b ha hb, Standing.compares_swap]
  cases hab : ordering a b with
  | ok o =>
    have hba : ordering b a = .ok o.swap := by
      rw [hswap, hab, Ordering.swap_swap]
    rw [hba]
    rfl
  | error e =>
    cases hba : ordering b a with
    | error e' => rfl
    | ok o =>
      rw [hswap, hab] at hba
      cases hba

/-- Equality and order of values without NaN are coherent: equality is an equivalence; two values are ordered in both directions
or in neither, and then one order is the other one reversed; ordered values are equal exactly if neither is less; and what is
less than a value that is less than a third one is less than the third one. -/
theorem looseEqual_ordering_coherent {a b c : Value} (ha : a.isNaNFree = true) (hb : b.isNaNFree = true)
    (hc : c.isNaNFree = true) :
    a.looseEqual a = true ∧ (a.looseEqual b = true → b.looseEqual a = true) ∧
      (a.looseEqual b = true → b.looseEqual c = true → a.looseEqual c = true) ∧
      (ordering b a).toOption = (ordering a b).toOption.map Ordering.swap ∧
      (∀ o, ordering a b = .ok o → (o = .eq ↔ a.looseEqual b = true)) ∧
      (ordering a b = .ok .lt → ordering b c = .ok .lt → ordering a c = .ok .lt) := by
  rw [looseEqual_iff a a ha ha, looseEqual_iff a b ha hb, looseEqual_iff b a hb ha, looseEqual_iff b c hb hc,
    looseEqual_iff a c ha hc]
  refine ⟨rfl, Eq.symm, Eq.trans, ordering_swap ha hb, ?_, ?_⟩
  · intro o ho
    exact ((ordering_iff a b ha hb).1 ho).eq_iff
  · intro hab hbc
    have hlt : Standing.Below a.standing b.standing := (ordering_iff a b ha hb).1 hab
    have hlt' : Standing.Below b.standing c.standing := (ordering_iff b c hb hc).1 hbc
    exact (ordering_iff a c ha hc).2 (hlt.trans hlt')

/-- A list with a truth value, a zero, nothing and a list. -/
def draft : Value :=
  .list [.bool true, .number (-0), .none, .list [.str "a", .number 2]]

/-- A list that starts like it, with a number for the truth value and the other zero. -/
def beta : Value :=
  .list [.number 1, .number 0, .none, .list [.str "b", .none]]

/-- A list that goes on where that one ends, with a truth value for the zero. -/
def release : Value :=
  .list [.number 1, .bool false, .none, .list [.str "b", .none], .bool true]

/-- The three lists are in order, although nothing has no order with nothing. -/
theorem looseEqual_ordering_coherent_versions :
    draft.isNaNFree = true ∧ beta.isNaNFree = true ∧ release.isNaNFree = true ∧
      ordering draft beta = .ok .lt ∧ ordering beta release = .ok .lt ∧ ordering draft release = .ok .lt ∧
      (ordering beta draft).toOption = some .gt ∧ draft.looseEqual beta = false ∧ draft.looseEqual draft = true := by
  have hdraft : draft.isNaNFree = true := rfl
  have hbeta : beta.isNaNFree = true := rfl
  have hrelease : release.isNaNFree = true := rfl
  have hlt : ordering draft beta = .ok .lt := rfl
  have hlt' : ordering beta release = .ok .lt := rfl
  obtain ⟨hself, -, -, hswap, heq, htrans⟩ := looseEqual_ordering_coherent hdraft hbeta hrelease
  rw [hlt] at hswap
  have hne : ¬draft.looseEqual beta = true := mt (heq _ hlt).2 (by decide)
  exact ⟨hdraft, hbeta, hrelease, hlt, hlt', htrans hlt hlt', hswap, Bool.eq_false_iff.2 hne, hself⟩

end Value

end SceneMarkup.Rule
