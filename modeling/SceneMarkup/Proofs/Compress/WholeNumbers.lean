import SceneMarkup.Proofs.Compress.Effective
import SceneMarkup.Proofs.Decimal.Conversion

/-!
# Whole numbers among equal values

Numbers are compared as binary64 numbers. So values that are equal but for one whole number, at any depth, are equal exactly
if this number is rounded alike in both (`Json.EqualBut.sameValue_iff`), and compression takes a whole number for its default
under the same condition (`wholeNumbers_equal_iff`). Up to 53 bits this means that the numbers are the same.
-/

namespace SceneMarkup

/-- A whole number of 64 bits, with or without one for the sign. -/
def FitsWord (n : Int) : Prop :=
  -2 ^ 63 ≤ n ∧ n < 2 ^ 64

/-- Its magnitude has at most 64 bits. -/
theorem FitsWord.natAbs_lt {n : Int} (h : FitsWord n) : n.natAbs < 2 ^ 64 := by
  obtain ⟨hlow, hhigh⟩ := h
  omega

/-- Lists that are related but for one place are related exactly if they are there. -/
theorem forall₂_append_cons_iff {α β : Type} {R : α → β → Prop} {before behind : List α} {before' behind' : List β} {a : α}
    {b : β} (hbefore : List.Forall₂ R before before') (hbehind : List.Forall₂ R behind behind') :
    List.Forall₂ R (before ++ a :: behind) (before' ++ b :: behind') ↔ R a b := by
  induction hbefore with
  | nil => exact List.forall₂_cons.trans (and_iff_left hbehind)
  | cons hxy _ ih => exact List.forall₂_cons.trans ((and_iff_right hxy).trans ih)

namespace Json

variable {x y v w : Json} {a b : Int}

/-- Values that are equal but for one place, at which the one holds `x` and the other `y`. -/
inductive EqualBut (x y : Json) : Json → Json → Prop where
  /-- Here is the place. -/
  | here : EqualBut x y x y
  /-- The place is in an item, and the items before and behind it are equal. -/
  | item {before before' behind behind' : List Json} {v w : Json}
      (hbefore : List.Forall₂ (fun v w => sameValue v w = true) before before')
      (hbehind : List.Forall₂ (fun v w => sameValue v w = true) behind behind') (h : EqualBut x y v w) :
      EqualBut x y (.arr (before ++ v :: behind)) (.arr (before' ++ w :: behind'))
  /-- The place is in the value of a name, and the other names lead to equal values. -/
  | field {fields others : Fields} {name : String} {v w : Json} (hlen : fields.length = others.length)
      (hv : (name, v) ∈ fields) (hw : (name, w) ∈ others)
      (hothers : ∀ p ∈ fields, p.1 ≠ name → ∃ u, (p.1, u) ∈ others ∧ sameValue p.2 u = true) (h : EqualBut x y v w) :
      EqualBut x y (.obj fields) (.obj others)

/-- Values that are equal but for one place are equal exactly if they are there. -/
theorem EqualBut.sameValue_iff (h : EqualBut x y v w) (hv : v.Distinct) (hw : w.Distinct) :
    sameValue v w = true ↔ sameValue x y = true := by
  induction h with
  | here => exact Iff.rfl
  | item hbefore hbehind _ ih =>
    rw [distinct_arr] at hv hw
    have hplace := ih (hv _ (by simp)) (hw _ (by simp))
    exact sameBy_arr_iff.trans ((forall₂_append_cons_iff hbefore hbehind).trans hplace)
  | @field fields others name v w hlen hmem hmem' hothers _ ih =>
    rw [distinct_obj] at hv hw
    rw [← ih (hv.2 _ hmem) (hw.2 _ hmem')]
    have hvalue : fields.lookup name = some v := (Named.lookup_eq_some_iff hv.1).2 hmem
    have hvalue' : others.lookup name = some w := (Named.lookup_eq_some_iff hw.1).2 hmem'
    refine sameBy_obj_iff.trans ⟨?_, fun hsame => ⟨hlen, fun p hp => ?_⟩⟩
    · rintro ⟨-, hall⟩
      obtain ⟨u, hu, hsame⟩ := hall _ hmem
      rwa [← Option.some.inj (hvalue'.symm.trans hu)] at hsame
    · -- the field of the name itself, or another one
      by_cases hname : p.1 = name
      · have hp' : fields.lookup p.1 = some p.2 := (Named.lookup_eq_some_iff hv.1).2 hp
        rw [hname] at hp' ⊢
        obtain rfl := Option.some.inj (hvalue.symm.trans hp')
        exact ⟨w, hvalue', hsame⟩
      · obtain ⟨u, hu, hsame'⟩ := hothers p hp hname
        exact ⟨u, (Named.lookup_eq_some_iff hw.1).2 hu, hsame'⟩

/-- Whole numbers are equal exactly if they are rounded alike. -/
theorem sameValue_int_iff (ha : FitsWord a) (hb : FitsWord b) :
    sameValue (.int a) (.int b) = true ↔ roundWhole a = roundWhole b :=
  beq_ofInt_iff ha.natAbs_lt hb.natAbs_lt

end Json

variable {a b : Int} {t : DefaultTable} {type key : String}

/-- A whole number is left out exactly where it is rounded as its default is, unless it is critical. -/
theorem DefaultTable.kept_int (ha : FitsWord a) (hb : FitsWord b) (hkey : key ∉ conditionalAttributes) (htype : type ≠ "")
    (hdefault : t.resolve? type key = some (.int a)) (scope : GridScope) :
    t.kept type scope key (.int b) =
      if key ∉ criticalAttributes ∧ roundWhole a = roundWhole b then none else some (.int b) := by
  have hisDefault : t.isDefault type key (.int b) = true ↔ roundWhole a = roundWhole b := by
    rw [← Json.sameValue_int_iff ha hb, isDefault, hdefault, bne_iff_ne.2 htype, Bool.true_and]
  have hcritical : criticalAttributes.contains key = false ↔ key ∉ criticalAttributes := by simp
  rw [kept_of_isScalar hkey rfl]
  simp only [hisDefault, hcritical]

/-- Values that are equal but for two whole numbers of 64 bits are equal exactly if both numbers are rounded to the same 53
bits, and up to 53 bits exactly if both are the same. Compression leaves out a whole number under this condition and no other,
among the attributes of a node in a tree and among the fields of an object in them, if the attribute is not critical. -/
theorem wholeNumbers_equal_iff (ha : FitsWord a) (hb : FitsWord b) :
    (∀ v w : Json, v.Distinct → w.Distinct → Json.EqualBut (.int a) (.int b) v w →
      (v.sameValue w = true ↔ roundWhole a = roundWhole b) ∧
      (a.natAbs ≤ 2 ^ 53 → b.natAbs ≤ 2 ^ 53 → (v.sameValue w = true ↔ a = b))) ∧
    (∀ (t : DefaultTable) (type key : String) (scope : GridScope) (fields : Fields), fields.names.Nodup →
      key ∉ conditionalAttributes → type ≠ "" → t.resolve? type key = some (.int a) → fields.lookup key = some (.int b) →
        (t.compressFields type scope fields).lookup key =
          if key ∉ criticalAttributes ∧ roundWhole a = roundWhole b then none else some (.int b)) ∧
    ∀ (t : DefaultTable) (n m : SceneNode) (path : List Nat) (key : String), n.Distinct → n.at? path = some m →
      key ∉ conditionalAttributes → m.tag ≠ "" → t.resolve? m.tag key = some (.int a) → m.get? key = some (.int b) →
        ∃ m', (n.compress t).at? path = some m' ∧
          m'.get? key = if key ∉ criticalAttributes ∧ roundWhole a = roundWhole b then none else some (.int b) := by
  refine ⟨?_, ?_, ?_⟩
  · intro v w hv hw h
    have hround : v.sameValue w = true ↔ roundWhole a = roundWhole b :=
      (h.sameValue_iff hv hw).trans (Json.sameValue_int_iff ha hb)
    refine ⟨hround, fun hsmall hsmall' => ?_⟩
    rw [hround, roundWhole_of_natAbs_le hsmall, roundWhole_of_natAbs_le hsmall']
  · intro t type key scope fields hn hkey htype hdefault hvalue
    rw [DefaultTable.lookup_compressFields hn, hvalue, Option.bind_some]
    exact DefaultTable.kept_int ha hb hkey htype hdefault scope
  · intro t n m path key hn hm hkey htype hdefault hvalue
    have hnames : m.attributes.names.Nodup := (Json.distinct_obj.1 (hn m (SceneNode.mem_nodes_of_at? hm))).1
    obtain ⟨inGrid, hm'⟩ := SceneNode.exists_at?_compressIn t false hm
    refine ⟨_, hm', ?_⟩
    rw [SceneNode.get?_compressIn hnames, hvalue, Option.bind_some]
    exact DefaultTable.kept_int ha hb hkey htype hdefault _

/-- A table with a default for the revision, the least number of 54 bits. -/
def revisionTable : DefaultTable :=
  ⟨[("GLOBAL", .obj [("revision", .int 9007199254740992)])]⟩

/-- A text of a revision. -/
def revisedText (revision : Int) : SceneNode :=
  .mk [("type", .str "TEXT"), ("revision", .int revision)] none

/-- A frame around the text. -/
def revisedCard (revision : Int) : SceneNode :=
  .mk [("type", .str "FRAME")] (some [revisedText revision])

/-- The history of a text: its name and its last revisions. -/
def history (revision : Int) : Json :=
  .obj [("of", .str "badge"), ("revisions", .arr [.int 1, .int revision])]

/-- Histories are equal but for their last revisions. -/
theorem equalBut_history (a b : Int) : Json.EqualBut (.int a) (.int b) (history a) (history b) := by
  have hrevisions : Json.EqualBut (.int a) (.int b) (.arr [.int 1, .int a]) (.arr [.int 1, .int b]) :=
    @Json.EqualBut.item _ _ [.int 1] [.int 1] [] [] _ _ (.cons (Json.sameValue_refl trivial) .nil) .nil .here
  refine .field rfl (List.mem_cons_of_mem _ (List.mem_singleton_self _)) (List.mem_cons_of_mem _ (List.mem_singleton_self _))
    ?_ hrevisions
  simp only [List.forall_mem_cons, List.not_mem_nil, false_imp_iff, implies_true, and_true]
  exact ⟨fun _ => ⟨_, List.mem_cons_self, rfl⟩, fun hne => absurd rfl hne⟩

/-- Two histories with different revisions differ, and the revision of a text is kept among its attributes if it is not the
default. -/
theorem wholeNumbers_equal_iff_revised :
    FitsWord 9007199254740992 ∧ FitsWord 9007199254740991 ∧
      Json.sameValue (history 9007199254740992) (history 9007199254740991) = false ∧
      (revisionTable.compressFields "TEXT" .outside [("revision", .int 9007199254740991)]).lookup "revision" =
        some (.int 9007199254740991) ∧
      ∃ m', ((revisedCard 9007199254740991).compress revisionTable).at? [0] = some m' ∧
        m'.get? "revision" = some (.int 9007199254740991) := by
  have ha : FitsWord 9007199254740992 := by constructor <;> decide
  have hb : FitsWord 9007199254740991 := by constructor <;> decide
  have hkey : "revision" ∉ conditionalAttributes := by decide
  have hne : ¬("revision" ∉ criticalAttributes ∧ roundWhole 9007199254740992 = roundWhole 9007199254740991) := by
    rintro ⟨-, hround⟩
    exact absurd hround (by decide)
  obtain ⟨hequal, hfields, htree⟩ := wholeNumbers_equal_iff ha hb
  refine ⟨ha, hb, ?_, ?_, ?_⟩
  · obtain ⟨-, hsmall⟩ := hequal _ _ (by decide) (by decide) (equalBut_history _ _)
    rw [← Bool.not_eq_true, hsmall (by decide) (by decide)]
    decide
  · rw [hfields revisionTable "TEXT" "revision" .outside [("revision", .int 9007199254740991)] (by decide) hkey (by decide)
      rfl rfl, if_neg hne]
  · obtain ⟨m', hm', hget⟩ := htree revisionTable (revisedCard 9007199254740991) (revisedText 9007199254740991) [0] "revision"
      (by decide) rfl hkey (by decide) rfl rfl
    rw [if_neg hne] at hget
    exact ⟨m', hm', hget⟩

/-- The default and the revision after it are different numbers of 64 bits that are equal, also in histories, and the revision
is left out of the text as if it was the default. -/
theorem wholeNumbers_equal_revision :
    FitsWord 9007199254740992 ∧ FitsWord 9007199254740993 ∧ (9007199254740992 : Int) ≠ 9007199254740993 ∧
      Json.sameValue (.int 9007199254740992) (.int 9007199254740993) = true ∧
      Json.sameValue (history 9007199254740992) (history 9007199254740993) = true ∧
      revisionTable.resolve? "TEXT" "revision" = some (.int 9007199254740992) ∧
      (revisedText 9007199254740993).get? "revision" = some (.int 9007199254740993) ∧
      ((revisedText 9007199254740993).compress revisionTable).get? "revision" = none := by
  refine ⟨by constructor <;> decide, by constructor <;> decide, by decide, rfl, rfl, rfl, rfl, ?_⟩
  rfl

end SceneMarkup
