import Mathlib.Logic.Function.Basic
import CrudScaffold.Project.Manifest
import CrudScaffold.Proofs.Text.Replace

/-!
# Escaped texts

A text is escaped by three replacements in sequence. Because ampersands are replaced first, each
character has one text that stands for it (`toList_xmlEscape`). So what is written has no brackets,
all its ampersands begin entities (`IsEscaped`), and one pass over it reads the text that it was
written for, whatever looked like an entity in that (`xmlEscape_reversible`). All texts without
brackets whose ampersands begin entities are written for some text (`isEscaped_iff`).
-/

namespace CrudScaffold

/-! ### What is written for a character -/

/-- The text that stands for a character between two tags. -/
def xmlEntity (c : Char) : List Char :=
  if c = '&' then "&amp;".toList
  else if c = '<' then "&lt;".toList
  else if c = '>' then "&gt;".toList
  else [c]

/-- All but three characters stand for themselves. -/
lemma xmlEntity_eq_self {c : Char} (hand : c ≠ '&') (hopen : c ≠ '<') (hclose : c ≠ '>') :
    xmlEntity c = [c] := by
  rw [xmlEntity, if_neg hand, if_neg hopen, if_neg hclose]

/-- The characters that are replaced, in order, with the entities that are put in for them. -/
def xmlEntities : List (Char × String) := [('&', "&amp;"), ('<', "&lt;"), ('>', "&gt;")]

/-- No entity has a character in it that is replaced later. -/
lemma pairwise_xmlEntities :
    xmlEntities.Pairwise fun pair later => later.1 ∉ pair.2.toList := by
  decide

/-- The list of entities has what stands for each character. -/
lemma written_xmlEntities (c : Char) : Text.written xmlEntities c = xmlEntity c := by
  rw [xmlEntities, Text.written_cons, Text.written_cons, Text.written_cons]
  rfl

/-- An escaped text is written character by character. -/
lemma toList_xmlEscape (t : String) : (xmlEscape t).toList = t.toList.flatMap xmlEntity := by
  have hreplace : xmlEscape t = Text.replaceAll xmlEntities t := rfl
  rw [hreplace, Text.toList_replaceAll pairwise_xmlEntities]
  exact List.flatMap_congr fun c _ => written_xmlEntities c

/-! ### What is read of an escaped text -/

/-- Reads entities in one pass from left to right. What begins no entity stands for itself. -/
def unescapeChars : List Char → List Char
  | '&' :: 'a' :: 'm' :: 'p' :: ';' :: cs => '&' :: unescapeChars cs
  | '&' :: 'l' :: 't' :: ';' :: cs => '<' :: unescapeChars cs
  | '&' :: 'g' :: 't' :: ';' :: cs => '>' :: unescapeChars cs
  | c :: cs => c :: unescapeChars cs
  | [] => []

/-- The text that an escaped text stands for. -/
def xmlUnescape (text : String) : String := String.ofList (unescapeChars text.toList)

/-- A character that is no ampersand stands for itself. -/
lemma unescapeChars_cons {c : Char} (hc : c ≠ '&') (cs : List Char) :
    unescapeChars (c :: cs) = c :: unescapeChars cs :=
  unescapeChars.eq_4 c cs (fun _ h => absurd h hc) (fun _ h => absurd h hc) fun _ h => absurd h hc

@[simp] lemma unescapeChars_xmlEntity_append (c : Char) (cs : List Char) :
    unescapeChars (xmlEntity c ++ cs) = c :: unescapeChars cs := by
  unfold xmlEntity
  split_ifs with hand hopen hclose
  · rw [hand]
    rfl
  · rw [hopen]
    rfl
  · rw [hclose]
    rfl
  · exact unescapeChars_cons hand cs

/-- What is written for characters is read as the characters. -/
lemma unescapeChars_flatMap_xmlEntity (cs : List Char) :
    unescapeChars (cs.flatMap xmlEntity) = cs := by
  induction cs with
  | nil => rfl
  | cons c cs ih => rw [List.flatMap_cons, unescapeChars_xmlEntity_append, ih]

/-- One pass over an escaped text reads the text that it was written for. -/
lemma xmlUnescape_xmlEscape (t : String) : xmlUnescape (xmlEscape t) = t := by
  rw [xmlUnescape, toList_xmlEscape, unescapeChars_flatMap_xmlEntity, String.ofList_toList]

example : xmlUnescape "&amp;lt; &amp; &lt;" = "&lt; & <" := by decide +kernel

/-! ### Which texts are escaped -/

/-- Brackets stand nowhere among some characters, and ampersands only where entities begin. -/
structure IsEscaped (cs : List Char) : Prop where
  noOpening : '<' ∉ cs
  noClosing : '>' ∉ cs
  entities : ∀ ds, '&' :: ds <:+ cs →
    ∃ entity ∈ ["&amp;", "&lt;", "&gt;"], entity.toList <+: '&' :: ds

/-- The end of escaped characters is escaped. -/
lemma IsEscaped.of_suffix {cs ds : List Char} (h : IsEscaped cs) (hds : ds <:+ cs) :
    IsEscaped ds where
  noOpening hmem := h.noOpening (hds.subset hmem)
  noClosing hmem := h.noClosing (hds.subset hmem)
  entities es hes := h.entities es (hes.trans hds)

/-- What is written for a character has no brackets. -/
lemma notMem_xmlEntity (c : Char) : '<' ∉ xmlEntity c ∧ '>' ∉ xmlEntity c := by
  unfold xmlEntity
  split_ifs with hand hopen hclose
  · decide
  · decide
  · decide
  · exact ⟨List.mem_singleton.not.mpr (Ne.symm hopen), List.mem_singleton.not.mpr (Ne.symm hclose)⟩

/-- An ampersand in what is written for a character, and in what is behind that, either begins an
entity or is behind. -/
lemma exists_prefix_or_suffix {c : Char} {cs ds : List Char} (h : '&' :: ds <:+ xmlEntity c ++ cs) :
    (∃ entity ∈ ["&amp;", "&lt;", "&gt;"], entity.toList <+: '&' :: ds) ∨ '&' :: ds <:+ cs := by
  -- the only ampersand of an entity is its first character
  have hentity : ∀ body : List Char, '&' ∉ body → '&' :: ds <:+ '&' :: (body ++ cs) →
      '&' :: body <+: '&' :: ds ∨ '&' :: ds <:+ cs := by
    intro body hbody hsuffix
    rcases List.suffix_cons_iff.mp hsuffix with heq | hrest
    · exact .inl ⟨cs, heq.symm⟩
    · exact .inr (cons_suffix_of_suffix_append hbody hrest)
  unfold xmlEntity at h
  split_ifs at h with hand hopen hclose
  · exact (hentity "amp;".toList (by decide) h).imp_left fun hfront => ⟨"&amp;", by decide, hfront⟩
  · exact (hentity "lt;".toList (by decide) h).imp_left fun hfront => ⟨"&lt;", by decide, hfront⟩
  · exact (hentity "gt;".toList (by decide) h).imp_left fun hfront => ⟨"&gt;", by decide, hfront⟩
  · exact .inr (cons_suffix_of_suffix_append (List.mem_singleton.not.mpr (Ne.symm hand)) h)

/-- What is written for characters is escaped. -/
lemma isEscaped_flatMap_xmlEntity (cs : List Char) : IsEscaped (cs.flatMap xmlEntity) where
  noOpening h := by
    obtain ⟨c, -, hc⟩ := List.mem_flatMap.mp h
    exact (notMem_xmlEntity c).1 hc
  noClosing h := by
    obtain ⟨c, -, hc⟩ := List.mem_flatMap.mp h
    exact (notMem_xmlEntity c).2 hc
  entities ds h := by
    induction cs with
    | nil => cases List.eq_nil_of_suffix_nil h
    | cons c cs ih =>
      rw [List.flatMap_cons] at h
      exact (exists_prefix_or_suffix h).elim id ih

/-- Escaped characters are what is written for the characters that they are read as. -/
lemma IsEscaped.flatMap_unescapeChars {cs : List Char} (h : IsEscaped cs) :
    (unescapeChars cs).flatMap xmlEntity = cs := by
  induction cs using unescapeChars.induct with
  | case1 cs ih =>
    have hcs : cs <:+ '&' :: 'a' :: 'm' :: 'p' :: ';' :: cs := List.suffix_append "&amp;".toList cs
    rw [unescapeChars, List.flatMap_cons, ih (h.of_suffix hcs)]
    rfl
  | case2 cs ih =>
    have hcs : cs <:+ '&' :: 'l' :: 't' :: ';' :: cs := List.suffix_append "&lt;".toList cs
    rw [unescapeChars, List.flatMap_cons, ih (h.of_suffix hcs)]
    rfl
  | case3 cs ih =>
    have hcs : cs <:+ '&' :: 'g' :: 't' :: ';' :: cs := List.suffix_append "&gt;".toList cs
    rw [unescapeChars, List.flatMap_cons, ih (h.of_suffix hcs)]
    rfl
  | case4 c cs hamp hlt hgt ih =>
    have hand : c ≠ '&' := by
      rintro rfl
      obtain ⟨entity, hentity, rest, hrest⟩ := h.entities cs List.suffix_rfl
      simp only [List.mem_cons, List.not_mem_nil, or_false] at hentity
      rcases hentity with rfl | rfl | rfl
      · exact hamp rest rfl (List.cons.inj hrest).2.symm
      · exact hlt rest rfl (List.cons.inj hrest).2.symm
      · exact hgt rest rfl (List.cons.inj hrest).2.symm
    have hself : xmlEntity c = [c] := by
      refine xmlEntity_eq_self hand ?_ ?_
      · rintro rfl
        exact h.noOpening List.mem_cons_self
      · rintro rfl
        exact h.noClosing List.mem_cons_self
    rw [unescapeChars_cons hand, List.flatMap_cons, hself,
      ih (h.of_suffix (List.suffix_cons c cs)), List.singleton_append]
  | case5 => rfl

/-- A text is escaped exactly if it is what is written for the text that it is read as. -/
lemma isEscaped_iff (s : String) : IsEscaped s.toList ↔ xmlEscape (xmlUnescape s) = s := by
  rw [← String.toList_inj, toList_xmlEscape, xmlUnescape, String.toList_ofList]
  exact ⟨IsEscaped.flatMap_unescapeChars, fun h => h ▸ isEscaped_flatMap_xmlEntity _⟩

/-- **Escaping can be undone.** What is written for a text has no brackets, and all its ampersands
begin entities. Reading the entities in one pass gives the text back, so different texts are written
differently, texts with entities in them included. -/
theorem xmlEscape_reversible :
    (∀ t, IsEscaped (xmlEscape t).toList ∧ xmlUnescape (xmlEscape t) = t) ∧
      Function.Injective xmlEscape := by
  refine ⟨fun t => ⟨?_, xmlUnescape_xmlEscape t⟩, ?_⟩
  · exact (isEscaped_iff _).mpr (by rw [xmlUnescape_xmlEscape])
  · exact Function.LeftInverse.injective xmlUnescape_xmlEscape

end CrudScaffold
