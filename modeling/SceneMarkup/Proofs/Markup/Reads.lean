import Mathlib.Tactic.SplitIfs
import SceneMarkup.Markup.Render
import SceneMarkup.Proofs.Markup.Reader

/-!
# What the reader does with pieces of markup

`Markup.Reads` says how the reader gets over a text. A comment leaves it where it is, attributes are collected with their
values, whatever characters these have, and what an element is written as adds the element, if what is written inside it adds
the elements inside it (`Markup.reads_element`).
-/

namespace SceneMarkup

/-- No two dashes in a row are left. -/
theorem dashPairs_spreadDashes (cs : List Char) : dashPairs (spreadDashes cs) = 0 := by
  fun_induction spreadDashes cs with
  | case1 cs h => exact h
  | case2 cs h ih => exact ih

namespace Markup

/-- A class of white space: the blank and the end of a line belong to it, and nothing but blank characters does. The largest one is
`isBlank` itself. -/
structure IsSpace (space : Char → Bool) : Prop where
  blank : space ' ' = true
  newline : space '\n' = true
  blanks : ∀ c, space c = true → isBlank c = true

/-- Blanks, tabs and ends of lines are a class of white space. -/
theorem isSpace_isWhitespace : IsSpace Char.isWhitespace :=
  ⟨by decide, by decide, fun _ h => isBlank_of_isWhitespace h⟩

/-- The reader gets from one state to another by taking the characters of a text. -/
def Reads (space : Char → Bool) (r : Reader) (cs : List Char) (r' : Reader) : Prop :=
  cs.foldlM (Reader.step space) r = some r'

section

variable {space : Char → Bool} {r r' r'' : Reader} {cs ds : List Char} {c : Char} {p : Place} {t : StartTag}

/-! ## Taking characters -/

/-- No elements are added. -/
theorem Reader.add_nil (r : Reader) : r.add [] = r.goTo .between := by
  rw [add, List.append_nil]
  rfl

/-- Elements are added behind others. -/
theorem Reader.add_add (r : Reader) (es fs : List Element) : (r.add es).add fs = r.add (es ++ fs) := by
  rw [add, add, add, List.append_assoc]

/-- An empty text changes nothing. -/
theorem Reads.nil : Reads space r [] r :=
  rfl

/-- A text is taken by its first character and then the others. -/
theorem Reads.cons (h : r.step space c = some r') (h' : Reads space r' cs r'') : Reads space r (c :: cs) r'' := by
  unfold Reads at h' ⊢
  rw [List.foldlM_cons, h]
  exact h'

/-- Two texts are taken one after the other. -/
theorem Reads.append (h : Reads space r cs r') (h' : Reads space r' ds r'') : Reads space r (cs ++ ds) r'' := by
  unfold Reads at h h' ⊢
  rw [List.foldlM_append, h]
  exact h'

/-- What is white space has no meaning in tags. -/
theorem IsSpace.eq_false (hs : IsSpace space) (h : isBlank c = false) : space c = false := by
  cases hc : space c with
  | false => rfl
  | true =>
    rw [hs.blanks c hc] at h
    nomatch h

/-- Between tags white space is passed over. -/
theorem reads_space (h : ∀ c ∈ cs, space c = true) : Reads space (r.goTo .between) cs (r.goTo .between) := by
  induction cs with
  | nil => exact .nil
  | cons c rest ih =>
    rw [List.forall_mem_cons] at h
    refine .cons ?_ (ih h.2)
    simp [Reader.step, Reader.goTo, h.1]

/-- Characters that are collected one by one are collected in reverse. -/
theorem reads_collect {p : List Char → Place} (hp : ∀ c ∈ cs, ∀ done, (r.goTo (p done)).step space c = some (r.goTo (p (c :: done))))
    (done : List Char) : Reads space (r.goTo (p done)) cs (r.goTo (p (cs.reverse ++ done))) := by
  induction cs generalizing done with
  | nil => exact .nil
  | cons c rest ih =>
    rw [List.forall_mem_cons] at hp
    have hrest := ih hp.2 (c :: done)
    rw [List.reverse_cons, List.append_assoc]
    exact .cons (hp.1 done) hrest

/-! ## Comments -/

/-- In a comment a text without two dashes in a row is passed over, up to a dash at its end. -/
theorem reads_comment_text (h : dashPairs cs = 0) (dashes : Nat) (hd : dashes = 0 ∨ dashes = 1 ∧ startsDash cs = false) :
    ∃ dashes', dashes' ≤ 1 ∧ Reads space (r.goTo (.comment dashes)) cs (r.goTo (.comment dashes')) := by
  induction cs generalizing dashes with
  | nil => exact ⟨dashes, by omega, .nil⟩
  | cons c rest ih =>
    have hstep : (r.goTo (.comment dashes)).step space c = some (r.goTo (.comment (if c = '-' then dashes + 1 else 0))) := by
      have hne : dashes ≠ 2 := by omega
      simp [Reader.step, Reader.goTo, hne]
    by_cases hc : c = '-'
    · subst hc
      rw [dashPairs_dash] at h
      have hzero : dashes = 0 := by
        rcases hd with hd | ⟨-, hd⟩
        · exact hd
        · nomatch hd
      have hstarts : startsDash rest = false := by
        cases hr : startsDash rest with
        | false => rfl
        | true => simp [hr] at h
      obtain ⟨dashes', hle, hrest⟩ := ih (by omega) 1 (.inr ⟨rfl, hstarts⟩)
      refine ⟨dashes', hle, .cons hstep ?_⟩
      rw [if_pos rfl, hzero]
      exact hrest
    · rw [dashPairs_cons hc] at h
      obtain ⟨dashes', hle, hrest⟩ := ih h 0 (.inl rfl)
      refine ⟨dashes', hle, .cons hstep ?_⟩
      rw [if_neg hc]
      exact hrest

/-- A comment is passed over. -/
theorem reads_comment (hs : IsSpace space) (comment : String) :
    Reads space (r.goTo .between) ("<!-- ".toList ++ commentChars comment ++ " -->\n".toList) (r.goTo .between) := by
  have hbracket : space '<' = false := hs.eq_false (by decide)
  have hopen : Reads space (r.goTo .between) ['<', '!', '-', '-', ' '] (r.goTo (.comment 0)) := by
    simp [Reads, Reader.step, Reader.goTo, hbracket]
  obtain ⟨dashes, hle, htext⟩ : ∃ dashes, dashes ≤ 1 ∧
      Reads space (r.goTo (.comment 0)) (commentChars comment) (r.goTo (.comment dashes)) :=
    reads_comment_text (dashPairs_spreadDashes (escapeChars comment.toList)) 0 (.inl rfl)
  have hclose : Reads space (r.goTo (.comment dashes)) [' ', '-', '-', '>', '\n'] (r.goTo .between) := by
    have hne : dashes ≠ 2 := by omega
    simp [Reads, Reader.step, Reader.goTo, hne, hs.newline]
  exact (hopen.append htext).append hclose

/-! ## Attributes -/

/-- A character of a value is read back, whether it is written as an entity or as itself. -/
theorem reads_escapeChar (c : Char) (name : String) (value : List Char) :
    Reads space (r.goTo (.value t name value)) (escapeChar c) (r.goTo (.value t name (c :: value))) := by
  unfold escapeChar
  split_ifs with hamp hlt hgt hquot hapos
  · rw [hamp]
    rfl
  · rw [hlt]
    rfl
  · rw [hgt]
    rfl
  · rw [hquot]
    rfl
  · rw [hapos]
    rfl
  · simp [Reads, Reader.step, Reader.goTo, hamp, hlt, hquot]

/-- The characters of a value are read back. -/
theorem reads_escapeChars (cs : List Char) (name : String) (value : List Char) :
    Reads space (r.goTo (.value t name value)) (escapeChars cs) (r.goTo (.value t name (cs.reverse ++ value))) := by
  induction cs generalizing value with
  | nil => exact .nil
  | cons c rest ih =>
    have hrest := ih (c :: value)
    rw [List.reverse_cons, List.append_assoc]
    rw [escapeChars, List.flatMap_cons]
    exact (reads_escapeChar c name value).append hrest

/-- Every character of a name is one for names. -/
theorem IsName.forall_mem {name : String} (h : IsName space name) : ∀ c ∈ name.toList, isNameChar space c = true :=
  List.all_eq_true.1 h.2

/-- A name has a first character. -/
theorem IsName.exists_cons {name : String} (h : IsName space name) :
    ∃ c rest, name.toList = c :: rest ∧ isNameChar space c = true ∧ ∀ d ∈ rest, isNameChar space d = true := by
  have hall := h.forall_mem
  cases hn : name.toList with
  | nil => exact absurd (String.toList_eq_nil_iff.1 hn) h.1
  | cons c rest =>
    rw [hn, List.forall_mem_cons] at hall
    exact ⟨c, rest, rfl, hall.1, hall.2⟩

/-- An attribute is read back with its value. -/
theorem reads_attribute (hs : IsSpace space) {name : String} (hn : IsName space name) (value : String) :
    Reads space (r.goTo (.behind t)) (' ' :: name.toList ++ '=' :: '"' :: escapeChars value.toList ++ ['"'])
      (r.goTo (.behind ⟨t.name, t.attributes ++ [(name, value)]⟩)) := by
  obtain ⟨c, rest, hname, hc, hrest⟩ := hn.exists_cons
  have hblank : Reads space (r.goTo (.behind t)) [' '] (r.goTo (.inside t)) := by
    simp [Reads, Reader.step, Reader.goTo, Reader.endPart, hs.blank]
  have hfirst : Reads space (r.goTo (.inside t)) [c] (r.goTo (.attribute t [c])) := by
    simp [Reads, Reader.step, Reader.goTo, hc]
  have hmore : Reads space (r.goTo (.attribute t [c])) rest (r.goTo (.attribute t name.toList.reverse)) := by
    have hcollected : name.toList.reverse = rest.reverse ++ [c] := by
      rw [hname, List.reverse_cons]
    rw [hcollected]
    refine reads_collect (p := .attribute t) ?_ [c]
    intro d hd done
    simp [Reader.step, Reader.goTo, hrest d hd]
  have hquote : Reads space (r.goTo (.attribute t name.toList.reverse)) ['=', '"'] (r.goTo (.value t name [])) := by
    simp [Reads, Reader.step, Reader.goTo, isNameChar]
  have hend : Reads space (r.goTo (.value t name (value.toList.reverse ++ []))) ['"']
      (r.goTo (.behind ⟨t.name, t.attributes ++ [(name, value)]⟩)) := by
    simp [Reads, Reader.step, Reader.goTo]
  have hvalue := ((hblank.append hfirst).append hmore).append hquote
  have hall := (hvalue.append (reads_escapeChars value.toList name [])).append hend
  rw [hname]
  simpa using hall

/-- The attributes of a tag are read back in their order. -/
theorem reads_attributes (hs : IsSpace space) {attributes : List (String × String)}
    (hn : ∀ p ∈ attributes, IsName space p.1) :
    Reads space (r.goTo (.behind t)) (UiNode.attributeChars attributes)
      (r.goTo (.behind ⟨t.name, t.attributes ++ attributes⟩)) := by
  induction attributes generalizing t with
  | nil =>
    rw [List.append_nil]
    exact .nil
  | cons p rest ih =>
    obtain ⟨name, value⟩ := p
    rw [List.forall_mem_cons] at hn
    have hrest := ih hn.2 (t := ⟨t.name, t.attributes ++ [(name, value)]⟩)
    have hall := (reads_attribute hs hn.1 value).append hrest
    simpa [UiNode.attributeChars] using hall

/-! ## Tags -/

/-- The text can be the name of a tag: it does not look like the mark of a comment. -/
structure IsTag (space : Char → Bool) (tag : String) : Prop where
  name : IsName space tag
  head : tag.toList.head? ≠ some '!'

/-- A name is one whatever white space is, if it has no blank character. -/
theorem IsTag.of_isBlank (hs : IsSpace space) {tag : String} (h : IsTag isBlank tag) : IsTag space tag := by
  refine ⟨⟨h.name.1, List.all_eq_true.2 ?_⟩, h.head⟩
  intro c hc
  have hname := h.name.forall_mem c hc
  simp only [isNameChar, Bool.and_eq_true, Bool.not_eq_true'] at hname ⊢
  exact ⟨hs.eq_false hname.1, hname.2⟩

/-- A tag is read from its start up to the character that follows its attributes. -/
theorem reads_startTag (hs : IsSpace space) {tag : String} (ht : IsTag space tag) {attributes : List (String × String)}
    (hn : ∀ p ∈ attributes, IsName space p.1) (hc : isNameChar space c = false)
    (h : Reads space (r.goTo (.behind ⟨tag, attributes⟩)) (c :: cs) r') :
    Reads space (r.goTo .between) ('<' :: tag.toList ++ (UiNode.attributeChars attributes ++ c :: cs)) r' := by
  obtain ⟨d, rest, htag, hd, hrest⟩ := ht.name.exists_cons
  have hbracket : space '<' = false := hs.eq_false (by decide)
  have hfirst : Reads space (r.goTo .between) ['<', d] (r.goTo (.startName [d])) := by
    have hmark : d ≠ '!' := by
      rintro rfl
      exact ht.head (by rw [htag]; rfl)
    have hslash : d ≠ '/' := by
      rintro rfl
      simp [isNameChar] at hd
    simp [Reads, Reader.step, Reader.goTo, hbracket, hmark, hslash, hd]
  have hname : Reads space (r.goTo (.startName [d])) rest (r.goTo (.startName tag.toList.reverse)) := by
    have hcollected : tag.toList.reverse = rest.reverse ++ [d] := by
      rw [htag, List.reverse_cons]
    rw [hcollected]
    refine reads_collect (p := .startName) ?_ [d]
    intro e he done
    simp [Reader.step, Reader.goTo, hrest e he]
  -- Behind the name the reader does what it does behind an attribute, since no name goes on there.
  have hsame : ∀ e es, isNameChar space e = false → Reads space (r.goTo (.behind ⟨tag, []⟩)) (e :: es) r' →
      Reads space (r.goTo (.startName tag.toList.reverse)) (e :: es) r' := by
    intro e es he hbehind
    have hstep : (r.goTo (.startName tag.toList.reverse)).step space e = (r.goTo (.behind ⟨tag, []⟩)).step space e := by
      simp [Reader.step, Reader.goTo, Reader.endPart, Reader.openElement, he]
    unfold Reads at hbehind ⊢
    rw [List.foldlM_cons] at hbehind ⊢
    rw [hstep]
    exact hbehind
  have hattributes : Reads space (r.goTo (.behind ⟨tag, []⟩)) (UiNode.attributeChars attributes ++ c :: cs) r' :=
    (reads_attributes hs hn (t := ⟨tag, []⟩)).append h
  have hall : Reads space (r.goTo (.startName tag.toList.reverse)) (UiNode.attributeChars attributes ++ c :: cs) r' := by
    cases attributes with
    | nil => exact hsame c cs hc hattributes
    | cons p more =>
      refine hsame ' ' _ ?_ hattributes
      simp [isNameChar, hs.blank]
  have htagged := (hfirst.append hname).append hall
  rw [htag]
  simpa using htagged

/-- The tag of an empty element is read as the element. -/
theorem reads_emptyTag (hs : IsSpace space) {tag : String} (ht : IsTag space tag) {attributes : List (String × String)}
    (hn : ∀ p ∈ attributes, IsName space p.1) :
    Reads space (r.goTo .between) ('<' :: tag.toList ++ UiNode.attributeChars attributes ++ " />\n".toList)
      (r.add [.mk tag attributes []]) := by
  have hslash : isNameChar space '/' = false := by simp [isNameChar]
  have hspace : space '/' = false := hs.eq_false (by decide)
  have hend : Reads space (r.goTo (.behind ⟨tag, attributes⟩)) [' ', '/', '>', '\n'] (r.add [.mk tag attributes []]) := by
    simp [Reads, Reader.step, Reader.goTo, Reader.endPart, Reader.add, hs.blank, hs.newline, hslash, hspace]
  have hblank : isNameChar space ' ' = false := by simp [isNameChar, hs.blank]
  rw [List.append_assoc]
  exact reads_startTag hs ht hn hblank hend

/-- What an element is written as, around what is written inside it, is read as the element. -/
theorem reads_element (hs : IsSpace space) {tag : String} (ht : IsTag space tag) {attributes : List (String × String)}
    (hn : ∀ p ∈ attributes, IsName space p.1) {es : List Element}
    (hinside : ∀ r : Reader, Reads space (r.goTo .between) cs (r.add es)) (hindent : ∀ c ∈ ds, space c = true) :
    Reads space (r.goTo .between)
      ('<' :: tag.toList ++ UiNode.attributeChars attributes ++ ">\n".toList ++ cs ++ ds ++ '<' :: '/' :: tag.toList ++
        ">\n".toList)
      (r.add [.mk tag attributes es]) := by
  have hbracket : space '<' = false := hs.eq_false (by decide)
  have hclosing : isNameChar space '>' = false := by simp [isNameChar]
  have hspace : space '>' = false := hs.eq_false (by decide)
  have hopen : Reads space (r.goTo .between) ('<' :: tag.toList ++ (UiNode.attributeChars attributes ++ ['>', '\n']))
      (r.openElement ⟨tag, attributes⟩) := by
    refine reads_startTag hs ht hn hclosing ?_
    simp [Reads, Reader.step, Reader.goTo, Reader.endPart, Reader.openElement, hs.newline, hspace]
  let inner := (r.openElement ⟨tag, attributes⟩).add es
  have hblank : Reads space inner ds inner := reads_space (r := inner) hindent
  have hend : Reads space inner ['<', '/'] (inner.goTo (.endName [])) := by
    simp [Reads, Reader.step, Reader.goTo, Reader.add, inner, hbracket]
  have hname : Reads space (inner.goTo (.endName [])) tag.toList (inner.goTo (.endName (tag.toList.reverse ++ []))) := by
    refine reads_collect (p := .endName) ?_ []
    intro c hc done
    simp [Reader.step, Reader.goTo, ht.name.forall_mem c hc]
  have hclose : Reads space (inner.goTo (.endName (tag.toList.reverse ++ []))) ['>', '\n'] (r.add [.mk tag attributes es]) := by
    simp [Reads, Reader.step, Reader.goTo, Reader.add, Reader.openElement, Reader.closeElement, inner, hclosing, hs.newline]
  have hcontents : Reads space (r.openElement ⟨tag, attributes⟩) cs inner := hinside (r.openElement ⟨tag, attributes⟩)
  have hall := ((((hopen.append hcontents).append hblank).append hend).append hname).append hclose
  simpa using hall

/-- Pieces that are read as elements are read as all of them. -/
theorem reads_flatMap {α : Type} {as : List α} {write : α → List Char} {elements : α → List Element}
    (h : ∀ a ∈ as, ∀ r : Reader, Reads space (r.goTo .between) (write a) (r.add (elements a))) :
    Reads space (r.goTo .between) (as.flatMap write) (r.add (as.flatMap elements)) := by
  induction as generalizing r with
  | nil =>
    rw [List.flatMap_nil, List.flatMap_nil, Reader.add_nil]
    exact .nil
  | cons a rest ih =>
    rw [List.forall_mem_cons] at h
    have hrest := ih h.2 (r := r.add (elements a))
    rw [Reader.add_add] at hrest
    exact (h.1 r).append hrest

end

end Markup

end SceneMarkup
