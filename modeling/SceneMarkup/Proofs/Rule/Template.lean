import Mathlib.Data.List.Forall2
import SceneMarkup.Rule.Template

/-!
# Templates by their parts

A template is a literal and then placeholders, each with the literal behind it (`TemplateParts`). Its text is split into just
these parts (`TemplateParts.split_chars`), whatever braces stand in them otherwise. So a template is rendered as a whole or
not at all (`TemplateParts.renderTemplate_text`): each placeholder gives way to its value, or nothing changes.
-/

namespace SceneMarkup.Rule

/-- A text without an opening brace. -/
structure Literal where
  chars : List Char
  plain : '\x7b' ∉ chars

/-- What stands between the braces of a placeholder: not nothing, and no closing brace. -/
structure Placeholder where
  chars : List Char
  ne_nil : chars ≠ []
  unclosed : '\x7d' ∉ chars

/-- A literal, and placeholders with the literals behind them. -/
structure TemplateParts where
  head : Literal
  rest : List (Placeholder × Literal)

/-- The source of a placeholder's expression. -/
def Placeholder.source (p : Placeholder) : String :=
  String.ofList (trimBlank p.chars)

/-- The placeholder has a value in a context. -/
def Placeholder.Shows (c : Context) (p : Placeholder) (v : Value) : Prop :=
  ∃ e, parseSource p.source = .ok e ∧ e.evaluate c = .ok v

namespace TemplateParts

/-- The characters of a template. -/
def chars (t : TemplateParts) : List Char :=
  t.head.chars ++ t.rest.flatMap fun part => '\x7b' :: part.1.chars ++ '\x7d' :: part.2.chars

/-- The text of a template. -/
def text (t : TemplateParts) : String :=
  String.ofList t.chars

/-- The characters with values in the places of the placeholders. -/
def filledChars (t : TemplateParts) (vs : List Value) : List Char :=
  t.head.chars ++ (t.rest.zip vs).flatMap fun p => p.2.chars ++ p.1.2.chars

end TemplateParts

namespace Segment

/-! ## Splitting -/

/-- Up to an opening brace every character is text. -/
theorem split_literal {cs : List Char} (h : '\x7b' ∉ cs) (rest : List Char) :
    split none (cs ++ rest) = cs.map (fun c => .text [c]) ++ split none rest := by
  induction cs with
  | nil => rfl
  | cons c cs ih =>
    rw [List.mem_cons, not_or] at h
    rw [List.cons_append, split, if_neg (Ne.symm h.1), ih h.2]
    rfl

/-- A placeholder that has begun goes on to the next closing brace. -/
theorem split_begun (d : Char) (ds : List Char) {cs : List Char} (h : '\x7d' ∉ cs) (rest : List Char) :
    split (some (d :: ds)) (cs ++ '\x7d' :: rest) = .placeholder ((d :: ds).reverse ++ cs) :: split none rest := by
  induction cs generalizing d ds with
  | nil =>
    rw [List.nil_append, split, if_pos rfl, List.append_nil]
    exact fun he => nomatch he
  | cons c cs ih =>
    rw [List.mem_cons, not_or] at h
    rw [List.cons_append, split, if_neg (Ne.symm h.1), ih c (d :: ds) h.2, List.reverse_cons, List.append_assoc,
      List.singleton_append]
    exact fun he => nomatch he

/-- Between an opening brace and the next closing one stands a placeholder, unless they stand side by side. -/
theorem split_placeholder (p : Placeholder) (rest : List Char) :
    split none ('\x7b' :: (p.chars ++ '\x7d' :: rest)) = .placeholder p.chars :: split none rest := by
  obtain ⟨cs, hne, hclose⟩ := p
  cases cs with
  | nil => exact absurd rfl hne
  | cons c cs =>
    rw [List.mem_cons, not_or] at hclose
    rw [List.cons_append, split, if_pos rfl, split, if_neg (Ne.symm hclose.1), split_begun c [] hclose.2]
    rfl

/-- The segments of a literal. -/
def ofLiteral (l : Literal) : List Segment :=
  l.chars.map fun c => .text [c]

end Segment

namespace TemplateParts

open Segment

/-- The segments of a template. -/
def segments (t : TemplateParts) : List Segment :=
  ofLiteral t.head ++ t.rest.flatMap fun part => .placeholder part.1.chars :: ofLiteral part.2

/-- A template is split into its parts. -/
theorem split_chars (t : TemplateParts) : split none t.chars = t.segments := by
  have hrest : ∀ parts : List (Placeholder × Literal),
      split none (parts.flatMap fun part => '\x7b' :: part.1.chars ++ '\x7d' :: part.2.chars) =
        parts.flatMap fun part => placeholder part.1.chars :: ofLiteral part.2 := by
    intro parts
    induction parts with
    | nil => rfl
    | cons part parts ih =>
      rw [List.flatMap_cons, List.flatMap_cons, List.append_assoc, List.cons_append, List.cons_append,
        split_placeholder, split_literal part.2.plain, ih]
      rfl
  unfold chars segments
  rw [split_literal t.head.plain, hrest]
  rfl

end TemplateParts

/-! ## Filling -/

section

variable {ε ε' α β : Type} {x : Except ε α}

/-- A computation has a result exactly if its first part has one and the rest has one from it. -/
theorem bind_eq_ok_iff {f : α → Except ε β} {b : β} : (x >>= f) = .ok b ↔ ∃ a, x = .ok a ∧ f a = .ok b := by
  cases x with
  | error err =>
    refine iff_of_false (fun h => ?_) ?_
    · cases h
    · rintro ⟨a, ha, -⟩
      cases ha
  | ok a =>
    constructor
    · intro h
      exact ⟨a, rfl, h⟩
    · rintro ⟨a', ha, h⟩
      cases ha
      exact h

/-- Another form of the error does not change the result. -/
theorem mapError_eq_ok_iff {f : ε → ε'} {a : α} : x.mapError f = .ok a ↔ x = .ok a := by
  cases x with
  | error err => exact iff_of_false (fun h => by cases h) (fun h => by cases h)
  | ok a' => exact ⟨fun h => by cases h; rfl, fun h => by cases h; rfl⟩

end

/-- The value of a text is that of the expression that the text is. -/
theorem evaluateSource_eq_ok_iff {source : String} {c : Context} {v : Value} :
    evaluateSource source c = .ok v ↔ ∃ e, parseSource source = .ok e ∧ e.evaluate c = .ok v := by
  rw [evaluateSource, bind_eq_ok_iff]
  simp only [evaluateExpr, mapError_eq_ok_iff]

namespace Segment

variable {c : Context}

/-- A placeholder is filled with the characters of its value, if it has one. -/
theorem fill_placeholder_iff {p : Placeholder} {cs : List Char} :
    (placeholder p.chars).fill c = .ok cs ↔ ∃ v, p.Shows c v ∧ cs = v.chars := by
  unfold Placeholder.Shows fill
  simp only [← evaluateSource_eq_ok_iff]
  unfold Placeholder.source
  cases evaluateSource (String.ofList (trimBlank p.chars)) c with
  | error err =>
    refine iff_of_false (fun h => ?_) ?_
    · cases h
    · rintro ⟨v, hv, -⟩
      cases hv
  | ok v =>
    constructor
    · intro h
      cases h
      exact ⟨v, rfl, rfl⟩
    · rintro ⟨w, hw, rfl⟩
      cases hw
      rfl

/-- A first segment and further ones are filled exactly if both are. -/
theorem fillAll_cons_iff {s : Segment} {ss : List Segment} {cs : List Char} :
    fillAll c (s :: ss) = .ok cs ↔ ∃ xs, s.fill c = .ok xs ∧ ∃ ys, fillAll c ss = .ok ys ∧ xs ++ ys = cs := by
  have hpure : ∀ xs ys : List Char, (pure (xs ++ ys) : Except SceneError (List Char)) = .ok cs ↔ xs ++ ys = cs :=
    fun xs ys => ⟨Except.ok.inj, congrArg Except.ok⟩
  rw [fillAll, bind_eq_ok_iff]
  simp only [bind_eq_ok_iff, hpure]

/-- Segments that are filled one list after the other. -/
theorem fillAll_append {ss ts : List Segment} {xs ys : List Char} (h : fillAll c ss = .ok xs)
    (h' : fillAll c ts = .ok ys) : fillAll c (ss ++ ts) = .ok (xs ++ ys) := by
  induction ss generalizing xs with
  | nil =>
    cases h
    exact h'
  | cons s ss ih =>
    obtain ⟨zs, hs, ws, hrest, rfl⟩ := fillAll_cons_iff.1 h
    exact fillAll_cons_iff.2 ⟨zs, hs, ws ++ ys, ih hrest, (List.append_assoc ..).symm⟩

/-- A literal is filled with itself. -/
theorem fillAll_ofLiteral (l : Literal) : fillAll c (ofLiteral l) = .ok l.chars := by
  unfold ofLiteral
  induction l.chars with
  | nil => rfl
  | cons d ds ih => exact fillAll_cons_iff.2 ⟨[d], rfl, ds, ih, rfl⟩

/-- Segments are filled only if each of them is. -/
theorem exists_fill_of_fillAll {ss : List Segment} {cs : List Char} (h : fillAll c ss = .ok cs) :
    ∀ s ∈ ss, ∃ xs, s.fill c = .ok xs := by
  induction ss generalizing cs with
  | nil => exact fun s hs => absurd hs List.not_mem_nil
  | cons s ss ih =>
    obtain ⟨xs, hs, ys, hrest, -⟩ := fillAll_cons_iff.1 h
    exact List.forall_mem_cons.2 ⟨⟨xs, hs⟩, ih hrest⟩

end Segment

/-! ## Rendering -/

namespace TemplateParts

open Segment

variable {c : Context} {t : TemplateParts} {vs : List Value}

/-- Where every placeholder has a value, the segments are filled with the values. -/
theorem fillAll_segments (h : List.Forall₂ (fun part v => part.1.Shows c v) t.rest vs) :
    fillAll c t.segments = .ok (t.filledChars vs) := by
  have hrest : ∀ {parts : List (Placeholder × Literal)} {vs : List Value},
      List.Forall₂ (fun part v => part.1.Shows c v) parts vs →
        fillAll c (parts.flatMap fun part => placeholder part.1.chars :: ofLiteral part.2) =
          .ok ((parts.zip vs).flatMap fun p => p.2.chars ++ p.1.2.chars) := by
    intro parts vs hparts
    induction hparts with
    | nil => rfl
    | cons hv hvs ih =>
      rw [List.flatMap_cons, List.zip_cons_cons, List.flatMap_cons]
      exact fillAll_append (fillAll_cons_iff.2 ⟨_, fill_placeholder_iff.2 ⟨_, hv, rfl⟩, _, fillAll_ofLiteral _, rfl⟩) ih
  exact fillAll_append (fillAll_ofLiteral t.head) (hrest h)

/-- Where a placeholder has no value, the segments are not filled. -/
theorem exists_error_of_not_shows {part : Placeholder × Literal} (hm : part ∈ t.rest) (h : ∀ v, ¬part.1.Shows c v) :
    ∃ err, fillAll c t.segments = .error err := by
  cases hfill : fillAll c t.segments with
  | error err => exact ⟨err, rfl⟩
  | ok cs =>
    have hs : placeholder part.1.chars ∈ t.segments :=
      List.mem_append_right _ (List.mem_flatMap.2 ⟨part, hm, List.mem_cons_self⟩)
    obtain ⟨xs, hxs⟩ := exists_fill_of_fillAll hfill _ hs
    obtain ⟨v, hv, -⟩ := fill_placeholder_iff.1 hxs
    exact absurd hv (h v)

/-- A template is rendered as a whole or not at all. Where every placeholder has a value, the values stand in the places of
the placeholders between the literals, and nothing is reported; where one has none, the template is left as it is. -/
theorem renderTemplate_text (t : TemplateParts) (c : Context) :
    (∀ vs, List.Forall₂ (fun part v => part.1.Shows c v) t.rest vs →
        renderTemplate t.text c = pure (String.ofList (t.filledChars vs))) ∧
      ((∃ part ∈ t.rest, ∀ v, ¬part.1.Shows c v) → (renderTemplate t.text c).value = t.text) := by
  unfold renderTemplate text
  rw [String.toList_ofList, split_chars]
  constructor
  · intro vs h
    rw [fillAll_segments h]
  · rintro ⟨part, hm, h⟩
    obtain ⟨err, hs⟩ := exists_error_of_not_shows hm h
    rw [hs]
    rfl

/-- The context of a labelled panel. -/
def labelContext : Context :=
  .ofList [("label", .str "Panel")]

/-- A placeholder whose value looks like the start of one. -/
def quotedLabel : Placeholder :=
  ⟨"'\x7blabel'".toList, by decide, by decide⟩

/-- A placeholder with blanks around its expression. -/
def spacedLabel : Placeholder :=
  ⟨" label ".toList, by decide, by decide⟩

/-- A placeholder that asks a name which the context lacks. -/
def missingWidth : Placeholder :=
  ⟨"width".toList, by decide, by decide⟩

/-- The template `}<{'{label'}}{ label }`. -/
def labelParts : TemplateParts :=
  ⟨⟨"\x7d<".toList, by decide⟩, [(quotedLabel, ⟨"\x7d".toList, by decide⟩), (spacedLabel, ⟨[], by decide⟩)]⟩

/-- The same template with a placeholder without value behind the others. -/
def widthParts : TemplateParts :=
  ⟨labelParts.head, labelParts.rest ++ [(missingWidth, ⟨[], by decide⟩)]⟩

/-- A value that looks like a placeholder stays as it is; with the placeholder that has no value nothing is put in. -/
theorem renderTemplate_text_label :
    List.Forall₂ (fun part v => part.1.Shows labelContext v) labelParts.rest [.str "\x7blabel", .str "Panel"] ∧
      labelParts.text = "\x7d<\x7b'\x7blabel'\x7d\x7d\x7b label \x7d" ∧
      (renderTemplate labelParts.text labelContext).value = "\x7d<\x7blabel\x7dPanel" ∧
      (renderTemplate widthParts.text labelContext).value = widthParts.text := by
  have hquoted : quotedLabel.Shows labelContext (.str "\x7blabel") :=
    ⟨.literal (.str "\x7blabel"), by with_unfolding_all rfl, rfl⟩
  have hspaced : spacedLabel.Shows labelContext (.str "Panel") :=
    ⟨.name "label", by with_unfolding_all rfl, rfl⟩
  have hshows : List.Forall₂ (fun part v => part.1.Shows labelContext v) labelParts.rest [.str "\x7blabel", .str "Panel"] :=
    .cons hquoted (.cons hspaced .nil)
  have hwidth : ∀ v, ¬missingWidth.Shows labelContext v := by
    rintro v ⟨e, he, hv⟩
    have hparse : parseSource missingWidth.source = .ok (.name "width") := by with_unfolding_all rfl
    rw [hparse] at he
    cases he
    cases hv
  refine ⟨hshows, rfl, ?_, ?_⟩
  · rw [(renderTemplate_text labelParts labelContext).1 _ hshows]
    simp only [filledChars, labelParts, List.zip_cons_cons, List.flatMap_cons, Value.chars]
    rfl
  · refine (renderTemplate_text widthParts labelContext).2 ⟨(missingWidth, ⟨[], by decide⟩), ?_, hwidth⟩
    exact List.mem_append_right _ (List.mem_singleton.2 rfl)

end TemplateParts

end SceneMarkup.Rule
