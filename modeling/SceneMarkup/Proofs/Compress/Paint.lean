import SceneMarkup.Proofs.Decimal.Equality
import SceneMarkup.Proofs.Json.Distinct
import SceneMarkup.Ui.Style

/-!
# Compressed paints

A compressed paint stays as it is when it is compressed again (`compressPaint_idem`), and it has the colour and the opacity
of the paint that it was made of (`paintHex?_compressPaint`, `paintOpacity_compressPaint`).
-/

namespace SceneMarkup

variable {key : String} {v w : Json} {paint : Fields}

/-- What is kept of a field of a paint behind its type. -/
def keptOfPaint (key : String) (v : Json) : Option Json :=
  if key = "type" || v.isNull || isPaintDefault key v then none else some (paintValue key v)

/-- A compressed paint is its type with what is kept behind it. -/
theorem compressPaint_eq (paint : Fields) :
    compressPaint paint =
      ((paint.lookup "type").map (("type", ·))).toList ++ Fields.keep keptOfPaint paint := by
  unfold compressPaint Fields.keep keptOfPaint
  congr 2
  funext ⟨name, v⟩
  cases hn : (name = "type" || v.isNull || isPaintDefault name v) <;> simp [hn]

/-- No other field becomes the type. -/
theorem type_notMem_keep (paint : Fields) : "type" ∉ (Fields.keep keptOfPaint paint).names := by
  intro hm
  obtain ⟨⟨name, w⟩, hm, rfl⟩ := List.mem_map.1 hm
  obtain ⟨v, -, hk⟩ := Fields.mem_keep.1 hm
  nomatch hk

/-- The type of a paint stays. -/
theorem lookup_type_compressPaint (paint : Fields) : (compressPaint paint).lookup "type" = paint.lookup "type" := by
  rw [compressPaint_eq]
  cases paint.lookup "type" with
  | none => exact Named.lookup_eq_none_iff.2 (type_notMem_keep paint)
  | some v => simp

/-- The value of a field stays, or it is a colour that is written in hexadecimal. -/
theorem paintValue_cases (key : String) (v : Json) :
    paintValue key v = v ∨
      ∃ color hex, key = "color" ∧ v = .obj color ∧ colorHex? color = some hex ∧ paintValue key v = .str hex := by
  unfold paintValue
  split
  · rename_i color
    split
    · cases hc : colorHex? color with
      | none => exact .inl rfl
      | some hex => exact .inr ⟨color, hex, ‹_›, rfl, hc, rfl⟩
    · exact .inl rfl
  · exact .inl rfl

/-- What is kept of a field is kept again. -/
theorem keptOfPaint_again (h : keptOfPaint key v = some w) : keptOfPaint key w = some w := by
  unfold keptOfPaint at h
  split at h
  · nomatch h
  · rename_i hc
    obtain rfl := Option.some.inj h
    rcases paintValue_cases key v with hs | ⟨color, hex, rfl, -, -, hs⟩
    · rw [hs, keptOfPaint, if_neg hc, hs]
    · rw [hs]
      rfl

/-- Compressing a paint twice is compressing it once. -/
theorem compressPaint_idem (paint : Fields) : compressPaint (compressPaint paint) = compressPaint paint := by
  have hhead : Fields.keep keptOfPaint ((paint.lookup "type").map (("type", ·))).toList = [] := by
    cases paint.lookup "type" <;> rfl
  have hagain : Fields.keep keptOfPaint (Fields.keep keptOfPaint paint) = Fields.keep keptOfPaint paint := by
    rw [Fields.keep_eq_self_iff]
    intro p hp
    obtain ⟨v, -, hk⟩ := Fields.mem_keep.1 hp
    exact keptOfPaint_again hk
  have hrest : Fields.keep keptOfPaint (compressPaint paint) = Fields.keep keptOfPaint paint := by
    rw [compressPaint_eq, Fields.keep_append, hhead, hagain, List.nil_append]
  rw [compressPaint_eq (compressPaint paint), lookup_type_compressPaint, hrest, ← compressPaint_eq]

/-- The fields of a compressed paint are distinct if those of the paint are. -/
theorem distinct_compressPaint (h : (Json.obj paint).Distinct) : (Json.obj (compressPaint paint)).Distinct := by
  rw [Json.distinct_obj] at h ⊢
  have hnodup := (Fields.names_keep keptOfPaint paint).nodup h.1
  have hmem : ∀ p ∈ Fields.keep keptOfPaint paint, p.2.Distinct := by
    rintro ⟨key, w⟩ hp
    obtain ⟨v, hm, hk⟩ := Fields.mem_keep.1 hp
    unfold keptOfPaint at hk
    split at hk
    · nomatch hk
    · obtain rfl := Option.some.inj hk
      rcases paintValue_cases key v with hs | ⟨color, hex, -, -, -, hs⟩
      · rw [hs]
        exact h.2 _ hm
      · rw [hs]
        trivial
  rw [compressPaint_eq]
  cases ht : paint.lookup "type" with
  | none => exact ⟨hnodup, hmem⟩
  | some v =>
    exact ⟨List.nodup_cons.2 ⟨type_notMem_keep paint, hnodup⟩,
      List.forall_mem_cons.2 ⟨h.2 _ (Named.mem_of_lookup ht), hmem⟩⟩

/-- What a field other than the type is after compression. -/
theorem lookup_compressPaint (hd : paint.names.Nodup) (hk : key ≠ "type") :
    (compressPaint paint).lookup key = (paint.lookup key).bind (keptOfPaint key) := by
  rw [compressPaint_eq, ← Fields.lookup_keep hd]
  cases paint.lookup "type" with
  | none => rfl
  | some v => simp [List.lookup_cons, beq_eq_false_iff_ne.2 hk]

/-! ## What is painted -/

/-- The colour of a paint does not change. -/
theorem paintHex?_compressPaint (hd : paint.names.Nodup) : paintHex? (compressPaint paint) = paintHex? paint := by
  unfold paintHex?
  rw [lookup_compressPaint hd (by decide)]
  cases hl : paint.lookup "color" with
  | none => rfl
  | some v =>
    cases v with
    | obj color =>
      cases hc : colorHex? color with
      | none => simp [keptOfPaint, paintValue, Json.isNull, isPaintDefault, hc]
      | some hex => simp [keptOfPaint, paintValue, Json.isNull, isPaintDefault, hc]
    | _ => rfl

/-- The opacity of a paint, which is full unless it is given. -/
def paintOpacity (paint : Fields) : Float :=
  ((paint.lookup "opacity").bind Json.number?).getD 1

/-- The opacity of a paint does not change. -/
theorem paintOpacity_compressPaint (hd : paint.names.Nodup) : paintOpacity (compressPaint paint) = paintOpacity paint := by
  unfold paintOpacity
  rw [lookup_compressPaint hd (by decide)]
  cases hl : paint.lookup "opacity" with
  | none => rfl
  | some v =>
    cases v with
    | num n =>
      cases hn : n.toFloat == 1 with
      | true =>
        have hone : 1 = n.toFloat := (same_of_beq hn).symm.eq_of_not_isZero (by decide)
        have hnone : keptOfPaint "opacity" (.num n) = none := by simp [keptOfPaint, isPaintDefault, hn]
        simp [hnone, Json.number?, ← hone]
      | false => simp [keptOfPaint, paintValue, Json.isNull, isPaintDefault, hn]
    | _ => rfl

end SceneMarkup
