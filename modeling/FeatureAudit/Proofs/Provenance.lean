import FeatureAudit.Batch.Basic
import FeatureAudit.Proofs.TagNames
import FeatureAudit.Proofs.Tags
import Mathlib.Data.List.Forall2

/-! Where the artifacts of a page come from. Nothing is assumed of its text: tags may be unclosed,
and constructs may overlap. -/
namespace FeatureAudit

variable {α : Type} {c m : Char} {name attributes body s u r cs : List Char} {n : Nat}
  {address : String → String} {sheet : Stylesheet}

namespace Markup

/-! Tags at the start of a text. -/

/-- A text starts with a start tag with a name, in any case; between the name and the end of the tag
are its attributes, and the rest is behind it. -/
def StartsTag (name attributes r s : List Char) : Prop :=
  ∃ word, s = '<' :: (word ++ (attributes ++ '>' :: r)) ∧ word.map foldCase = name ∧
    Text.endsWord (attributes ++ '>' :: r) = true ∧ '>' ∉ attributes

/-- A text starts with an end tag with a name, in any case and with blanks behind it or without. -/
def StartsEndTag (name r s : List Char) : Prop :=
  ∃ word gap, s = '<' :: '/' :: (word ++ (gap ++ '>' :: r)) ∧ word.map foldCase = name ∧
    ∀ g ∈ gap, Text.isBlank g = true

theorem eq_append_of_upTo (h : upTo m s = some (u, r)) : s = u ++ m :: r ∧ m ∉ u := by
  induction s generalizing u with
  | nil => cases h
  | cons c s ih =>
    rw [upTo_cons] at h
    split at h
    · next hc =>
      cases h
      exact ⟨by rw [hc, List.nil_append], List.not_mem_nil⟩
    · next hc =>
      obtain ⟨x, hx, he⟩ := Option.map_eq_some_iff.1 h
      cases he
      obtain ⟨rfl, hm⟩ := ih hx
      exact ⟨rfl, List.not_mem_cons_of_ne_of_not_mem (Ne.symm hc) hm⟩

theorem startTag_eq_some_iff :
    startTag name s = some (attributes, r) ↔ StartsTag name attributes r s := by
  constructor
  · intro h
    unfold startTag at h
    split at h
    · next s =>
      split at h
      · next t ht =>
        split at h
        · next hend =>
          obtain ⟨word, rfl, hword⟩ := eq_append_of_afterName ht
          obtain ⟨rfl, hclose⟩ := eq_append_of_upTo h
          exact ⟨word, rfl, hword, hend, hclose⟩
        · cases h
      · cases h
    · cases h
  · rintro ⟨word, rfl, hword, hend, hclose⟩
    simp only [startTag, afterName_of_map_foldCase hword, hend, if_true, upTo_append hclose]

theorem startsEndTag_of_afterEndTag (h : afterEndTag name s = some r) : StartsEndTag name r s := by
  unfold afterEndTag at h
  split at h
  · next s =>
    split at h
    · next t ht =>
      split at h
      · next v hv =>
        obtain ⟨word, rfl, hword⟩ := eq_append_of_afterName ht
        have hsplit : t.takeWhile Text.isBlank ++ afterBlanks t = t :=
          List.takeWhile_append_dropWhile
        refine ⟨word, t.takeWhile Text.isBlank, ?_, hword, fun g hg => List.mem_takeWhile_imp hg⟩
        rw [← Option.some.inj h, ← hv, hsplit]
      · cases h
    · cases h
  · cases h

theorem exists_of_upToEndTag (h : upToEndTag name s = some (body, r)) :
    ∃ behind, s = body ++ behind ∧ Unread (afterEndTag name) body behind ∧
      StartsEndTag name r behind := by
  induction s generalizing body with
  | nil => cases h
  | cons c s ih =>
    unfold upToEndTag at h
    split at h
    · next t ht =>
      cases h
      exact ⟨c :: s, rfl, trivial, startsEndTag_of_afterEndTag ht⟩
    · next hnone =>
      split at h
      · next tail t ht =>
        cases h
        obtain ⟨behind, rfl, hunread, hend⟩ := ih ht
        exact ⟨behind, rfl, ⟨hnone, hunread⟩, hend⟩
      · cases h

/-- A text starts with an element with a name: with its start tag, and up to the first end tag with
the name goes its body. -/
def StartsElement (name attributes body s : List Char) : Prop :=
  ∃ behind r, StartsTag name attributes (body ++ behind) s ∧
    Unread (afterEndTag name) body behind ∧ StartsEndTag name r behind

theorem startsElement_of_readElement (h : readElement name s = some ((attributes, body), r)) :
    StartsElement name attributes body s := by
  unfold readElement at h
  split at h
  · next as t ht =>
    split at h
    · next b v hb =>
      cases h
      obtain ⟨behind, rfl, hunread, hend⟩ := exists_of_upToEndTag hb
      exact ⟨behind, r, startTag_eq_some_iff.1 ht, hunread, hend⟩
    · cases h
  · cases h

theorem StartsTag.lt_length (h : StartsTag name attributes r (s.drop n)) : n < s.length := by
  obtain ⟨word, hs, -⟩ := h
  by_contra hn
  rw [List.drop_eq_nil_of_le (Nat.not_lt.1 hn)] at hs
  cases hs

theorem StartsTag.isInfix (h : StartsTag name attributes r s) : r <:+: s := by
  obtain ⟨word, rfl, -⟩ := h
  exact ⟨'<' :: (word ++ (attributes ++ ['>'])), [], by simp⟩

theorem StartsElement.isInfix (h : StartsElement name attributes body s) : body <:+: s := by
  obtain ⟨behind, -, hstart, -⟩ := h
  exact (List.prefix_append body behind).isInfix.trans hstart.isInfix

/-! Places of constructs. -/

namespace Construct

variable {k : Construct α} {a : α}

theorem exists_read_of_mem_located (h : (n, a) ∈ k.located s) :
    ∃ t, k.read (s.drop n) = some (a, t) := by
  obtain ⟨before, cs, later, hp, hn⟩ := mem_locate_iff.1 h
  obtain ⟨t, rfl, hq⟩ := pieces_of_append hp
  have hn : n = (before.flatMap Piece.text).length := hn.trans (Nat.zero_add _)
  rw [hn, List.drop_left]
  exact exists_read_of_pieces hq.symm

theorem pairwise_locate : (locate n (k.pieces s)).Pairwise fun x y => x.1 < y.1 := by
  -- a construct takes many characters off at once, so the induction is on the length
  induction hm : s.length using Nat.strongRecOn generalizing s n with
  | ind m ih =>
    cases s with
    | nil => simp [pieces_nil, locate]
    | cons c s =>
      rcases k.pieces_cases c s with ⟨-, hp⟩ | ⟨a, t, u, hread, hu, hp⟩
      · rw [hp, locate]
        exact ih s.length (by simp [← hm]) rfl
      · have hlt : t.length < m := hm ▸ length_lt hread
        rw [hp, locate, List.pairwise_cons]
        refine ⟨fun x hx => ?_, ih t.length hlt rfl⟩
        have hlen : (c :: s).length = u.length + t.length := by rw [hu, List.length_append]
        obtain ⟨before, cs, later, -, hx⟩ := mem_locate_iff.1 hx
        omega

theorem pairwise_located : (k.located s).Pairwise fun x y => x.1 < y.1 := pairwise_locate

end Construct
end Markup

theorem Url.resolve_ne_empty {base : Option Url} {reference : String} (h : reference ≠ "") :
    Url.resolve base reference ≠ "" := by
  have hprint : ∀ u : Url, u.print ≠ "" := by
    intro u he
    have htext : u.text = [] := by simpa [Url.print] using congrArg String.toList he
    simp [Url.text] at htext
  unfold Url.resolve
  split
  · exact hprint _
  · split
    · exact hprint _
    · exact h
  · exact h

namespace Artifacts

open Markup

/-! Style sheets. -/

/-- At an offset of a text starts what a style sheet comes from: a style element that it is the body
of, or a link that leads to it. -/
inductive SheetAt (address : String → String) (cs : List Char) (n : Nat) : Stylesheet → Prop
  | style {attributes body : List Char}
      (h : StartsElement "style".toList attributes body (cs.drop n)) :
      SheetAt address cs n (.readable none [String.ofList body])
  | link {attributes r : List Char} (h : StartsTag "link".toList attributes r (cs.drop n))
      (hsheet : linksStylesheet attributes = true) :
      SheetAt address cs n (sheetOfLink address attributes)

theorem sheetAt_of_mem_locatedSheets (h : (n, sheet) ∈ locatedSheets address cs) :
    SheetAt address cs n sheet := by
  rcases List.mem_merge.1 h with h | h
  · obtain ⟨⟨n', attributes, body⟩, hm, he⟩ := List.mem_map.1 h
    cases he
    obtain ⟨t, ht⟩ := Construct.exists_read_of_mem_located hm
    exact .style (startsElement_of_readElement ht)
  · obtain ⟨⟨n', attributes⟩, hm, he⟩ := List.mem_map.1 h
    cases he
    obtain ⟨hm, hsheet⟩ := List.mem_filter.1 hm
    obtain ⟨t, ht⟩ := Construct.exists_read_of_mem_located hm
    exact .link (startTag_eq_some_iff.1 ht) hsheet

theorem SheetAt.lt_length (h : SheetAt address cs n sheet) : n < cs.length := by
  cases h with
  | style h =>
    obtain ⟨behind, r, hstart, -⟩ := h
    exact hstart.lt_length
  | link h => exact h.lt_length

theorem SheetAt.rules {href : Option String} {rules : List String}
    (h : SheetAt address cs n (.readable href rules)) :
    href = none ∧ ∃ rule, rules = [rule] ∧ rule.toList <:+: cs := by
  cases h with
  | @style attributes body h =>
    refine ⟨rfl, String.ofList body, rfl, ?_⟩
    rw [String.toList_ofList]
    exact h.isInfix.trans (List.drop_suffix n cs).isInfix

/-- No text starts with a style element and a link at once. -/
theorem offset_ne {style : List Char × List Char} {link : List Char} {n' : Nat}
    (hstyle : (n, style) ∈ styles.located cs) (hlink : (n', link) ∈ links.located cs) : n ≠ n' := by
  rintro rfl
  obtain ⟨t, ht⟩ := Construct.exists_read_of_mem_located hstyle
  obtain ⟨r, hr⟩ := Construct.exists_read_of_mem_located hlink
  obtain ⟨behind, -, ⟨word, hw, hstyle, -⟩, -⟩ := startsElement_of_readElement ht
  obtain ⟨word', hw', hlink, -⟩ := startTag_eq_some_iff.1 hr
  rw [hw] at hw'
  cases word with
  | nil => cases hstyle
  | cons c word =>
    cases word' with
    | nil => cases hlink
    | cons c' word' =>
      obtain rfl : c = c' := (List.cons.inj (List.cons.inj hw').2).1
      have hs : foldCase c = 's' := (List.cons.inj hstyle).1
      have hl : foldCase c = 'l' := (List.cons.inj hlink).1
      exact absurd (hs.symm.trans hl) (by decide)

theorem pairwise_locatedSheets : (locatedSheets address cs).Pairwise fun x y => x.1 < y.1 := by
  let ofStyles := (styles.located cs).map fun x => (x.1, sheetOfStyle x.2)
  let ofLinks := ((links.located cs).filter fun x => linksStylesheet x.2).map
    fun x => (x.1, sheetOfLink address x.2)
  have hmerge : locatedSheets address cs = ofStyles.merge ofLinks fun x y => x.1 ≤ y.1 := rfl
  have hstyles : ofStyles.Pairwise fun x y => x.1 < y.1 :=
    List.pairwise_map.2 Construct.pairwise_located
  have hlinks : ofLinks.Pairwise fun x y => x.1 < y.1 :=
    List.pairwise_map.2 (Construct.pairwise_located.filter _)
  have hne : (locatedSheets address cs).Pairwise fun x y => x.1 ≠ y.1 := by
    have hperm : (locatedSheets address cs).Perm (ofStyles ++ ofLinks) :=
      hmerge ▸ List.merge_perm_append _
    refine (hperm.pairwise_iff fun h => Ne.symm h).2 (List.pairwise_append.2
      ⟨hstyles.imp Nat.ne_of_lt, hlinks.imp Nat.ne_of_lt, fun x hx y hy => ?_⟩)
    obtain ⟨style, hs, rfl⟩ := List.mem_map.1 hx
    obtain ⟨link, hl, rfl⟩ := List.mem_map.1 hy
    exact offset_ne hs (List.mem_filter.1 hl).1
  have hle : (locatedSheets address cs).Pairwise fun x y => decide (x.1 ≤ y.1) = true := by
    rw [hmerge]
    apply List.pairwise_merge
    · simp only [decide_eq_true_eq]
      exact fun _ _ _ => Nat.le_trans
    · simp only [Bool.or_eq_true, decide_eq_true_eq]
      exact fun x y => Nat.le_total x.1 y.1
    · exact hstyles.imp fun h => by simpa using Nat.le_of_lt h
    · exact hlinks.imp fun h => by simpa using Nat.le_of_lt h
  refine hle.imp₂ (fun x y h hxy => ?_) hne
  exact Nat.lt_of_le_of_ne (of_decide_eq_true h) hxy

/-! Names of tags. -/

theorem nodup_firsts [DecidableEq α] {seen xs : List α} : (firsts seen xs).Nodup := by
  induction xs generalizing seen with
  | nil => exact List.nodup_nil
  | cons x xs ih =>
    rw [firsts]
    split
    · exact ih
    · refine List.nodup_cons.2 ⟨fun hm => ?_, ih⟩
      exact (mem_firsts.1 hm).2 (by simp)

theorem firsts_of_nodup [DecidableEq α] {seen xs : List α} (h : xs.Nodup)
    (hseen : ∀ x ∈ xs, x ∉ seen) : firsts seen xs = xs := by
  induction xs generalizing seen with
  | nil => rfl
  | cons x xs ih =>
    obtain ⟨hx, hnodup⟩ := List.nodup_cons.1 h
    rw [firsts, if_neg (hseen x (by simp)), ih hnodup]
    intro y hy hm
    rcases List.mem_cons.1 hm with rfl | hm
    · exact hx hy
    · exact hseen y (by simp [hy]) hm

/-- A small letter, a digit or a hyphen. -/
def IsSmall (c : Char) : Prop := c.isLower = true ∨ c.isDigit = true ∨ c = '-'

theorem IsSmall.toNat (h : IsSmall c) :
    c.toNat = 45 ∨ (48 ≤ c.toNat ∧ c.toNat ≤ 57) ∨ (97 ≤ c.toNat ∧ c.toNat ≤ 122) := by
  rcases h with h | h | rfl
  · exact .inr (.inr (Text.isLower_iff.1 h))
  · simp only [Char.isDigit, ge_iff_le, Bool.and_eq_true, decide_eq_true_eq,
      UInt32.le_iff_toNat_le] at h
    exact .inr (.inl h)
  · exact .inl rfl

theorem IsSmall.toLower (h : IsSmall c) : c.toLower = c := by
  refine Char.toLower_eq_of_not_isUpper fun hu => ?_
  have hsmall := h.toNat
  rw [Text.isUpper_iff] at hu
  omega

theorem IsSmall.not_blank (h : IsSmall c) : Text.isBlank c = false := by
  have hsmall := h.toNat
  simp [Text.isBlank]
  omega

theorem isSmall_toLower (h : Markup.isNameChar c = true) : IsSmall c.toLower := by
  rcases isNameChar_iff.1 h with halnum | rfl
  · rw [Char.isAlphanum, Bool.or_eq_true] at halnum
    rcases halnum with halpha | hdigit
    · exact .inl (by simpa using halpha)
    · have hsmall : IsSmall c := .inr (.inl hdigit)
      rwa [hsmall.toLower]
  · exact .inr (.inr (by decide))

/-- A small letter, and behind it small letters, digits and hyphens. -/
def IsTagName (name : List Char) : Prop :=
  ∃ c rest, name = c :: rest ∧ c.isLower = true ∧ ∀ d ∈ rest, IsSmall d

theorem isTagName_of_mem_all (h : name ∈ tagName.all cs) : IsTagName (Text.asciiLower name) := by
  obtain ⟨t, -, r, ht⟩ := Construct.exists_suffix_of_mem_all h
  change readTagName t = some (name, r) at ht
  unfold readTagName at ht
  split at ht
  · next c s =>
    split at ht
    · next hc =>
      cases ht
      refine ⟨c.toLower, Text.asciiLower (s.takeWhile isNameChar), rfl, by simpa using hc, ?_⟩
      intro d hd
      obtain ⟨e, he, rfl⟩ := List.mem_map.1 hd
      exact isSmall_toLower (List.mem_takeWhile_imp he)
    · cases ht
  · cases ht

/-- A tag name is the tag that it stands for. -/
theorem tagOf_of_isTagName {name : String} (h : IsTagName name.toList) : tagOf name = name := by
  obtain ⟨c, rest, hname, hc, hrest⟩ := h
  have hsmall : ∀ d ∈ name.toList, IsSmall d := by
    rw [hname]
    exact List.forall_mem_cons.2 ⟨.inl hc, hrest⟩
  have hascii : ∀ d ∈ name.toList, d.toNat < 128 := by
    intro d hd
    have hbounds := (hsmall d hd).toNat
    omega
  rw [tagOf, Text.trim_of_forall fun d hd => (hsmall d hd).not_blank,
    Text.lowercase_of_ascii hascii, List.map_congr_left fun d hd => (hsmall d hd).toLower,
    List.map_id', String.ofList_toList]

theorem distinctTags_of_isTagName {a : Artifacts} (hnodup : a.tagNames.Nodup)
    (h : ∀ name ∈ a.tagNames, IsTagName name.toList) : a.distinctTags = a.tagNames := by
  have hmap : a.tagNames.map tagOf = a.tagNames :=
    (List.map_congr_left fun name hm => tagOf_of_isTagName (h name hm)).trans (List.map_id' _)
  have hfilter : a.tagNames.filter (!·.isEmpty) = a.tagNames := by
    refine List.filter_eq_self.2 fun name hm => ?_
    obtain ⟨c, rest, hname, -⟩ := h name hm
    have hne : name ≠ "" := by
      rintro rfl
      cases hname
    simpa using hne
  change firsts [] ((a.tagNames.map tagOf).filter (!·.isEmpty)) = a.tagNames
  rw [hmap, hfilter]
  exact firsts_of_nodup hnodup (by simp)

/-! Scripts. -/

theorem scriptOf_eq_external_iff {script : List Char × List Char} {a : String} :
    scriptOf address script = .external a ↔
      ∃ src ∈ attribute? "src".toList script.1, src ≠ [] ∧ address (String.ofList src) = a := by
  unfold scriptOf
  split
  · next c src hsrc =>
    rw [hsrc, Script.external.injEq]
    constructor
    · exact fun h => ⟨c :: src, rfl, List.cons_ne_nil c src, h⟩
    · rintro ⟨_, ⟨⟩, -, h⟩
      exact h
  · next hnone =>
    refine iff_of_false (by simp) ?_
    rintro ⟨src, hsrc, hne, -⟩
    obtain ⟨c, rest, rfl⟩ := List.exists_cons_of_ne_nil hne
    exact hnone c rest hsrc

theorem eq_of_scriptOf_eq_inline {script : List Char × List Char} {text : String}
    (h : scriptOf address script = .inline text) : text = String.ofList script.2 := by
  unfold scriptOf at h
  split at h
  · cases h
  · exact (Script.inline.inj h).symm

theorem infix_of_mem_scripts {script : List Char × List Char} (h : script ∈ Markup.scripts.all cs) :
    script.2 <:+: cs := by
  obtain ⟨t, ht, r, hread⟩ := Construct.exists_suffix_of_mem_all h
  exact (startsElement_of_readElement hread).isInfix.trans ht.isInfix

/-- What holds of the artifacts of a page, whatever its text. -/
structure TakenFrom (address : String → String) (html : String) (a : Artifacts) : Prop where
  nodup : a.tagNames.Nodup
  named : ∀ name ∈ a.tagNames, IsTagName name.toList
  distinct : a.distinctTags = a.tagNames
  sources : .external "" ∉ a.scripts
  texts : ∀ text, .inline text ∈ a.scripts → text.toList <:+: html.toList
  rules : ∀ href rules, .readable href rules ∈ a.stylesheets →
    href = none ∧ ∃ rule, rules = [rule] ∧ rule.toList <:+: html.toList
  /-- The style sheets are in the order of the places where their elements and links start. -/
  places : ∃ offsets : List Nat, offsets.Pairwise (· < ·) ∧ (∀ n ∈ offsets, n < html.length) ∧
    List.Forall₂ (SheetAt address html.toList) offsets a.stylesheets

theorem takenFrom_ofMarkup (h : ∀ reference ≠ "", address reference ≠ "") (html : String) :
    (ofMarkup address html).TakenFrom address html := by
  have hnodup : (ofMarkup address html).tagNames.Nodup := nodup_firsts
  have hnamed : ∀ name ∈ (ofMarkup address html).tagNames, IsTagName name.toList := by
    intro name hm
    obtain ⟨written, hw, rfl⟩ := List.mem_map.1 (mem_firsts.1 hm).1
    rw [String.toList_ofList]
    exact isTagName_of_mem_all hw
  have hplaces : ∀ x ∈ locatedSheets address html.toList, SheetAt address html.toList x.1 x.2 :=
    fun _ => sheetAt_of_mem_locatedSheets
  refine ⟨hnodup, hnamed, distinctTags_of_isTagName hnodup hnamed, ?_, ?_, ?_, ?_⟩
  · intro hm
    obtain ⟨script, -, hscript⟩ := List.mem_map.1 hm
    obtain ⟨src, -, hne, hempty⟩ := scriptOf_eq_external_iff.1 hscript
    exact h _ (by simpa using hne) hempty
  · intro text hm
    obtain ⟨script, hs, hscript⟩ := List.mem_map.1 hm
    rw [eq_of_scriptOf_eq_inline hscript, String.toList_ofList]
    exact infix_of_mem_scripts hs
  · intro href rules hm
    obtain ⟨⟨n, sheet⟩, hs, rfl⟩ := List.mem_map.1 hm
    exact (hplaces _ hs).rules
  · refine ⟨(locatedSheets address html.toList).map Prod.fst,
      List.pairwise_map.2 pairwise_locatedSheets, ?_, ?_⟩
    · intro n hm
      obtain ⟨x, hx, rfl⟩ := List.mem_map.1 hm
      exact (hplaces x hx).lt_length
    · change List.Forall₂ _ _ ((locatedSheets address html.toList).map Prod.snd)
      rw [List.forall₂_map_left_iff, List.forall₂_map_right_iff]
      exact List.forall₂_same.2 hplaces

theorem takenFrom_artifactsOf (base : Option String) (html : String) :
    (Batch.artifactsOf base html).TakenFrom
      (Url.resolve (base.bind fun b => (Url.parse b).toOption)) html :=
  takenFrom_ofMarkup (fun _ => Url.resolve_ne_empty) html

end Artifacts
end FeatureAudit
