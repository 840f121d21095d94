import FeatureAudit.Proofs.Extraction

/-! What is found on a page of text and of tags other than those of scripts, styles and links. A name
is taken for a shorter one if a hyphen follows that one, and a tag that is taken for the start of a
script or a style needs no more than an end tag anywhere behind it. -/
namespace FeatureAudit

open Markup

variable {address : String → String} {n name attributes cs r : List Char}

/-- A stretch of such a page. The attributes of a tag are all that stands behind its name. -/
inductive Stretch where
  | text (cs : List Char)
  | endTag (name : List Char)
  | startTag (name attributes : List Char)
  deriving DecidableEq, Repr

namespace Stretch

variable {i : Stretch} {items : List Stretch}

def render : Stretch → List Char
  | text cs => cs
  | endTag name => Item.renderEndTag name
  | startTag name attributes => '<' :: (name ++ (attributes ++ ['>']))

/-- A letter, then letters, digits and hyphens, which are no name of a script, a style or a link, and
attributes that a blank sets apart. -/
@[mk_iff] structure IsOther (name attributes : List Char) : Prop where
  head : ∃ c ∈ name.head?, c.isAlpha = true
  all : ∀ c ∈ name, isNameChar c = true
  other : Text.asciiLower name ∉ ["script".toList, "style".toList, "link".toList]
  brackets : '<' ∉ attributes ∧ '>' ∉ attributes
  blank : ∀ c ∈ attributes.head?, Text.isBlank c = true

instance (name attributes : List Char) : Decidable (IsOther name attributes) :=
  decidable_of_iff (name.head?.any Char.isAlpha = true ∧ name.all isNameChar = true ∧
      Text.asciiLower name ∉ ["script".toList, "style".toList, "link".toList] ∧
      ('<' ∉ attributes ∧ '>' ∉ attributes) ∧ attributes.head?.all Text.isBlank = true)
    (by simp [isOther_iff, Option.any_eq_true, Option.all_eq_true])

def Plain : Stretch → Prop
  | text cs => '<' ∉ cs
  | endTag name => '<' ∉ name ∧ '>' ∉ name
  | startTag name attributes => IsOther name attributes

instance (i : Stretch) : Decidable i.Plain :=
  match i with
  | text cs => inferInstanceAs (Decidable ('<' ∉ cs))
  | endTag name => inferInstanceAs (Decidable ('<' ∉ name ∧ '>' ∉ name))
  | startTag name attributes => inferInstanceAs (Decidable (IsOther name attributes))

def name? : Stretch → Option (List Char)
  | startTag name _ => some name
  | _ => none

/-- A start tag that is taken for one with another name. -/
def Opens (n : List Char) : Stretch → Prop
  | startTag name _ => TakenFor n name
  | _ => False

instance (n : List Char) (i : Stretch) : Decidable (i.Opens n) :=
  match i with
  | startTag name _ => inferInstanceAs (Decidable (TakenFor n name))
  | text _ | endTag _ => inferInstanceAs (Decidable False)

/-- An end tag with a name, in any case and with blanks behind it or without. -/
def Closes (n : List Char) : Stretch → Prop
  | endTag name => (name.take n.length).map foldCase = n ∧
      ∀ c ∈ name.drop n.length, Text.isBlank c = true
  | _ => False

instance (n : List Char) (i : Stretch) : Decidable (i.Closes n) :=
  match i with
  | endTag name => decidable_of_iff ((name.take n.length).map foldCase = n ∧
      (name.drop n.length).all Text.isBlank = true) (by simp only [Closes, List.all_eq_true])
  | text _ | startTag .. => inferInstanceAs (Decidable False)

/-- A start tag that is taken for a link to a style sheet. -/
def LinksSheet : Stretch → Prop
  | startTag name attributes => TakenFor "link".toList name ∧ linksStylesheet attributes = true
  | _ => False

instance (i : Stretch) : Decidable i.LinksSheet :=
  match i with
  | startTag .. => inferInstanceAs (Decidable (TakenFor _ _ ∧ _ = true))
  | text _ | endTag _ => inferInstanceAs (Decidable False)

/-! Tags. -/

theorem IsOther.bracket_notMem (h : IsOther name attributes) :
    '<' ∉ name ++ (attributes ++ ['>']) := by
  have hname : '<' ∉ name := notMem_of_isNameChar h.all (by decide)
  simp [hname, h.brackets.1]

theorem IsOther.startTag_eq (h : IsOther name attributes) (hn : ∀ c ∈ n, c.isLower = true)
    (hne : n ∈ ["script".toList, "style".toList, "link".toList]) :
    Markup.startTag n ((startTag name attributes).render ++ r) =
      if TakenFor n name then some (name.drop n.length ++ attributes, r) else none := by
  have hend : Text.asciiLower name = n → Text.endsWord (attributes ++ '>' :: r) = true :=
    fun he => (h.other (he ▸ hne)).elim
  simpa [render] using startTag_append_of_isNameChar hn h.all h.brackets.2 h.blank hend

theorem IsOther.exists_cons (h : IsOther name attributes) :
    ∃ c t, name = c :: t ∧ c.isAlpha = true ∧ ∀ d ∈ t, isNameChar d = true :=
  exists_cons_of_head h.head h.all

theorem isNameChar_of_isBlank {c : Char} (h : Text.isBlank c = true) : isNameChar c = false := by
  by_contra hname
  rcases isNameChar_iff.1 (by simpa using hname) with ha | rfl
  · simp [Text.isBlank_of_isAlphanum ha] at h
  · exact absurd h (by decide)

theorem IsOther.readTagName_eq (h : IsOther name attributes) :
    readTagName ('<' :: (name ++ (attributes ++ '>' :: r))) =
      some (name, attributes ++ '>' :: r) := by
  obtain ⟨c, t, rfl, hc, ht⟩ := h.exists_cons
  cases hat : attributes with
  | nil => exact readTagName_append hc ht (by decide)
  | cons d as =>
    exact readTagName_append hc ht (isNameChar_of_isBlank (h.blank d (by simp [hat])))

theorem afterEndTag_eq_none_iff (hn : ∀ c ∈ n, c.isLower = true) (h : '>' ∉ name) :
    afterEndTag n ((endTag name).render ++ r) = none ↔ ¬ (endTag name).Closes n := by
  have hclose : foldCase '>' ∉ n := fun hm => absurd (hn _ hm) (by decide)
  have hprefix : n <+: name.map foldCase ↔ (name.take n.length).map foldCase = n := by
    rw [List.prefix_iff_eq_take, List.map_take, eq_comm]
  have htext : (endTag name).render ++ r = '<' :: '/' :: (name ++ '>' :: r) := by
    simp [render, Item.renderEndTag]
  rw [htext, Closes, ← hprefix]
  simp only [afterEndTag, afterName_append hclose]
  by_cases hp : n <+: name.map foldCase
  · have hblank : Text.isBlank '>' = false := by decide
    rw [if_pos hp]
    cases hrest : (name.drop n.length).dropWhile Text.isBlank with
    | nil =>
      have hall := List.dropWhile_eq_nil_iff.1 hrest
      simpa [afterBlanks, List.dropWhile_append, hrest, hblank, hp] using hall
    | cons c cs =>
      have hsub := (List.dropWhile_sublist (l := name.drop n.length) Text.isBlank).subset
      have hc : c ∈ name.drop n.length := hsub (hrest ▸ List.mem_cons_self)
      have hmark : c ≠ '>' := fun he => h (he ▸ List.mem_of_mem_drop hc)
      have hnot : ¬ ∀ c ∈ name.drop n.length, Text.isBlank c = true := by
        intro hall
        simp [List.dropWhile_eq_nil_iff.2 hall] at hrest
      simp only [afterBlanks, List.dropWhile_append, hrest, hp, true_and, hnot]
      simp [hmark]
  · simp [hp]

/-- Nothing is read in a stretch at the start of which nothing is read. -/
theorem unread_render {β : Type} {f : List Char → Option β} (hf : AtBracket f) (h : i.Plain)
    (hend : ∀ s, f ('<' :: '/' :: s) = none) (hopen : i.name? ≠ none → f (i.render ++ r) = none) :
    Unread f i.render r := by
  cases i with
  | text cs => exact hf.unread h
  | endTag name => exact Item.unread_renderEndTag hf h.1 hend
  | startTag name attributes => exact hf.unread_cons (hopen (by simp [name?])) h.bracket_notMem

theorem unread_startTag_of_not_opens (hn : ∀ c ∈ n, c.isLower = true)
    (hne : n ∈ ["script".toList, "style".toList, "link".toList]) (h : i.Plain) (ho : ¬ i.Opens n) :
    Unread (Markup.startTag n) i.render r := by
  have hslash : foldCase '/' ∉ n := Item.foldCase_notMem hn (by simp)
  have hnil : n ≠ [] := by
    rintro rfl
    simp at hne
  refine unread_render atBracket_startTag h (fun _ => startTag_cons_of_ne hslash hnil) fun hs => ?_
  cases i with
  | startTag name attributes => exact (h.startTag_eq hn hne).trans (if_neg ho)
  | _ => exact (hs rfl).elim

/-! Elements. -/

theorem unread_afterEndTag_iff (hn : ∀ c ∈ n, c.isLower = true) (h : i.Plain) :
    Unread (afterEndTag n) i.render r ↔ ¬ i.Closes n := by
  cases i with
  | text cs => exact iff_of_true (atBracket_afterEndTag.unread h) id
  | endTag name =>
    rw [← afterEndTag_eq_none_iff hn h.2]
    exact atBracket_afterEndTag.unread_cons_iff (by simp [h.1])
  | startTag name attributes =>
    refine iff_of_true (atBracket_afterEndTag.unread_cons ?_ h.bracket_notMem) id
    obtain ⟨c, t, rfl, hc, -⟩ := h.exists_cons
    exact afterEndTag_cons_of_ne fun he => absurd (he ▸ hc) (by decide)

theorem upToEndTag_flatMap_eq_none_iff (hn : ∀ c ∈ n, c.isLower = true)
    (h : ∀ i ∈ items, i.Plain) :
    upToEndTag n (items.flatMap render) = none ↔ ∀ i ∈ items, ¬ i.Closes n :=
  upToEndTag_eq_none_iff.trans
    (unread_flatMap_iff fun i hi _ => unread_afterEndTag_iff hn (h i hi))

theorem name_mem (kind : Enclosing) :
    kind.name ∈ ["script".toList, "style".toList, "link".toList] := by cases kind <;> decide

/-- An element starts where a tag is taken for its start, if any end tag of it is behind the tag. -/
theorem unread_readElement_iff (kind : Enclosing) (h : i.Plain) (hs : ∀ i ∈ items, i.Plain) :
    Unread (readElement kind.name) i.render (items.flatMap render) ↔
      ∀ j ∈ items, ¬ (i.Opens kind.name ∧ j.Closes kind.name) := by
  by_cases ho : i.Opens kind.name
  · cases i with
    | startTag name attributes =>
      have htaken : TakenFor kind.name name := ho
      have hbracket : AtBracket (readElement kind.name) :=
        fun c r hc => readElement_of_startTag (startTag_of_ne hc)
      have hread := h.startTag_eq (r := items.flatMap render) (Item.isLower_name kind)
        (name_mem kind)
      rw [if_pos htaken] at hread
      have helement :
          readElement kind.name ((startTag name attributes).render ++ items.flatMap render) = none ↔
            upToEndTag kind.name (items.flatMap render) = none := by
        simp only [readElement, hread]
        cases upToEndTag kind.name (items.flatMap render) <;> simp
      rw [render, hbracket.unread_cons_iff h.bracket_notMem]
      refine (helement.trans (upToEndTag_flatMap_eq_none_iff (Item.isLower_name kind) hs)).trans ?_
      simp [ho]
    | _ => exact ho.elim
  · have hstart : Unread (Markup.startTag kind.name) i.render (items.flatMap render) :=
      unread_startTag_of_not_opens (Item.isLower_name kind) (name_mem kind) h ho
    exact iff_of_true (hstart.mono fun _ => readElement_of_startTag) fun _ _ hj => ho hj.1

theorem all_element_eq_nil_iff (kind : Enclosing) (h : ∀ i ∈ items, i.Plain) :
    (Markup.element kind.name).all (items.flatMap render) = [] ↔
      items.Pairwise fun i j => ¬ (i.Opens kind.name ∧ j.Closes kind.name) := by
  refine Construct.all_eq_nil_iff.trans ?_
  change Unread (readElement kind.name) _ _ ↔ _
  -- an element ends behind the stretch that it starts with, so the last stretches come first
  induction items with
  | nil => simp [Unread]
  | cons i items ih =>
    have hrest : ∀ j ∈ items, j.Plain := fun j hj => h j (by simp [hj])
    rw [List.flatMap_cons, unread_append, List.append_nil,
      unread_readElement_iff kind (h i (by simp)) hrest, ih hrest, List.pairwise_cons]

theorem scripts_and_styles_eq_nil_iff (h : ∀ i ∈ items, i.Plain) :
    scripts.all (items.flatMap render) = [] ∧ styles.all (items.flatMap render) = [] ↔
      ∀ kind : Enclosing, items.Pairwise fun i j => ¬ (i.Opens kind.name ∧ j.Closes kind.name) := by
  constructor
  · rintro ⟨hscripts, hstyles⟩ kind
    cases kind with
    | script => exact (all_element_eq_nil_iff .script h).1 hscripts
    | style => exact (all_element_eq_nil_iff .style h).1 hstyles
  · intro hk
    exact ⟨(all_element_eq_nil_iff .script h).2 (hk .script),
      (all_element_eq_nil_iff .style h).2 (hk .style)⟩

/-! Links. -/

/-- What is read as the attributes of a link. -/
def linkAttributes? : Stretch → Option (List Char)
  | startTag name attributes =>
    if TakenFor "link".toList name then some (name.drop 4 ++ attributes) else none
  | _ => none

theorem pieces_link (h : i.Plain) :
    links.pieces (i.render ++ r) =
      Construct.whole i.linkAttributes? i.render ++ links.pieces r := by
  have hlower : ∀ c ∈ "link".toList, c.isLower = true := List.all_eq_true.1 (by decide)
  by_cases ho : i.Opens "link".toList
  · cases i with
    | startTag name attributes =>
      have htaken : TakenFor "link".toList name := ho
      have hread := h.startTag_eq (r := r) hlower (by simp)
      rw [if_pos htaken] at hread
      rw [linkAttributes?, if_pos htaken]
      exact Construct.pieces_of_read hread
    | _ => exact ho.elim
  · have hnone : i.linkAttributes? = none := by
      cases i with
      | startTag name attributes => exact if_neg ho
      | _ => rfl
    rw [hnone, Construct.whole_none]
    exact Construct.pieces_of_unread (unread_startTag_of_not_opens hlower (by simp) h ho)

theorem linksStylesheet_append (h : ∀ c ∈ cs, Text.isBlank c = false) :
    linksStylesheet (cs ++ attributes) = linksStylesheet attributes := by
  have hsame : attribute? "rel".toList (cs ++ attributes) = attribute? "rel".toList attributes := by
    rw [attribute?, firstRead_append_of_unread (unread_bind (unread_of_not_blank h)), attribute?]
  rw [linksStylesheet, hsame, linksStylesheet]

theorem linksSheet_iff (h : i.Plain) :
    i.LinksSheet ↔ ∃ l ∈ i.linkAttributes?, linksStylesheet l = true := by
  cases i with
  | startTag name attributes =>
    have hname : ∀ c ∈ name.drop 4, Text.isBlank c = false := by
      intro c hc
      by_contra hb
      have hall := h.all c (List.mem_of_mem_drop hc)
      simp [isNameChar_of_isBlank (by simpa using hb)] at hall
    rw [LinksSheet, linkAttributes?]
    by_cases htaken : TakenFor "link".toList name
    · rw [if_pos htaken, and_iff_right htaken, ← linksStylesheet_append hname]
      simp only [Option.mem_some_iff, exists_eq_left']
    · rw [if_neg htaken]
      exact iff_of_false (fun hl => htaken hl.1) (by simp)
  | _ => simp [LinksSheet, linkAttributes?]

theorem links_flatMap_render (h : ∀ i ∈ items, i.Plain) :
    (∀ l ∈ links.all (items.flatMap render), linksStylesheet l = false) ↔
      ∀ i ∈ items, ¬ i.LinksSheet := by
  rw [Construct.all_flatMap (Construct.pieces_flatMap_whole fun i hi _ => pieces_link (h i hi))]
  simp only [List.mem_filterMap, forall_exists_index, and_imp]
  constructor
  · intro hl i hi hlink
    obtain ⟨l, hm, hsheet⟩ := (linksSheet_iff (h i hi)).1 hlink
    simp [hl l i hi hm] at hsheet
  · intro hi l i hmem hm
    by_contra hsheet
    exact hi i hmem ((linksSheet_iff (h i hmem)).2 ⟨l, hm, by simpa using hsheet⟩)

/-! Tag names. -/

theorem unread_comment (h : i.Plain) : Unread readComment i.render r := by
  refine unread_render atBracket_readComment h (fun _ => readComment_cons_of_ne (by decide)) ?_
  intro hs
  cases i with
  | startTag name attributes =>
    obtain ⟨c, t, rfl, hc, -⟩ := h.exists_cons
    exact readComment_cons_of_ne fun he => absurd (he ▸ hc) (by decide)
  | _ => exact (hs rfl).elim

theorem all_tagName_render (h : i.Plain) :
    tagName.all (i.render ++ r) = i.name?.toList ++ tagName.all r := by
  cases i with
  | text cs => exact Construct.all_of_unread (atBracket_readTagName.unread h)
  | endTag name =>
    have hunread : Unread readTagName (endTag name).render r :=
      Item.unread_renderEndTag atBracket_readTagName h.1 fun _ =>
        readTagName_of_not_isAlpha (by decide)
    exact Construct.all_of_unread hunread
  | startTag name attributes =>
    have hread : tagName.read ('<' :: name ++ (attributes ++ ['>'] ++ r)) =
        some (name, attributes ++ ['>'] ++ r) := by
      rw [List.append_assoc]
      exact h.readTagName_eq
    have hrest : tagName.all (attributes ++ ['>'] ++ r) = tagName.all r :=
      Construct.all_of_unread (atBracket_readTagName.unread (by simp [h.brackets.1]))
    have hall := Construct.all_of_read hread
    rw [hrest] at hall
    simpa [render, name?] using hall

theorem all_tagName_flatMap (h : ∀ i ∈ items, i.Plain) :
    tagName.all (items.flatMap render) = items.filterMap name? := by
  rw [List.filterMap_eq_flatMap_toList]
  exact flatMap_of_parts (Construct.all_nil _) fun i hi _ => all_tagName_render (h i hi)

/-- A page on which no script and no style is found is all markup. -/
theorem bare_flatMap_render (h : ∀ i ∈ items, i.Plain)
    (hscripts : scripts.all (items.flatMap render) = [])
    (hstyles : styles.all (items.flatMap render) = []) :
    bare (items.flatMap render) = items.flatMap render := by
  have hcomment : Unread comment.read (items.flatMap render) [] :=
    unread_flatMap fun i hi _ => unread_comment (h i hi)
  rw [bare, Construct.replace_eq_self hcomment,
    Construct.replace_eq_self (Construct.all_eq_nil_iff.1 hscripts),
    Construct.replace_eq_self (Construct.all_eq_nil_iff.1 hstyles)]

end Stretch

theorem sheets_eq_nil_iff : (Artifacts.locatedSheets address cs).map Prod.snd = [] ↔
    styles.all cs = [] ∧ ∀ l ∈ links.all cs, linksStylesheet l = false := by
  have hmerge {xs ys : List (Nat × Stylesheet)} {le : Nat × Stylesheet → Nat × Stylesheet → Bool} :
      xs.merge ys le = [] ↔ xs = [] ∧ ys = [] := by
    rw [← List.length_eq_zero_iff, List.length_merge, Nat.add_eq_zero_iff,
      List.length_eq_zero_iff, List.length_eq_zero_iff]
  rw [List.map_eq_nil_iff, Artifacts.locatedSheets, hmerge, List.map_eq_nil_iff,
    List.map_eq_nil_iff, List.filter_eq_nil_iff, ← Construct.map_snd_located,
    ← Construct.map_snd_located, List.map_eq_nil_iff, List.forall_mem_map]
  simp only [Bool.not_eq_true]

/-- Nothing but the names of tags is found on a page of text and tags, unless a tag that is taken for
the start of a script or a style has an end tag of it behind it, or a tag that is taken for a link
leads to a style sheet. -/
theorem only_tagNames_iff {items : List Stretch} (base : Option String)
    (h : ∀ i ∈ items, i.Plain) :
    let a := Batch.artifactsOf base (String.ofList (items.flatMap Stretch.render))
    (a.scripts = [] ∧ a.stylesheets = [] ∧ a.tagNames = ((items.filterMap Stretch.name?).map
        fun name => String.ofList (Text.asciiLower name)).eraseDups) ↔
      (∀ kind : Enclosing, items.Pairwise fun i j => ¬ (i.Opens kind.name ∧ j.Closes kind.name)) ∧
        ∀ i ∈ items, ¬ i.LinksSheet := by
  intro a
  have hscripts : a.scripts = [] ↔ scripts.all (items.flatMap Stretch.render) = [] := by
    simp [a, Batch.artifactsOf, Artifacts.ofMarkup]
  have hsheets : a.stylesheets = [] ↔ styles.all (items.flatMap Stretch.render) = [] ∧
      ∀ l ∈ links.all (items.flatMap Stretch.render), linksStylesheet l = false := by
    rw [← sheets_eq_nil_iff, ← String.toList_ofList (l := items.flatMap Stretch.render)]
    rfl
  rw [hscripts, hsheets, ← Stretch.scripts_and_styles_eq_nil_iff h,
    ← Stretch.links_flatMap_render h]
  constructor
  · rintro ⟨hscript, ⟨hstyle, hlink⟩, -⟩
    exact ⟨⟨hscript, hstyle⟩, hlink⟩
  · rintro ⟨⟨hscript, hstyle⟩, hlink⟩
    refine ⟨hscript, ⟨hstyle, hlink⟩, ?_⟩
    simp only [a, Batch.artifactsOf, Artifacts.ofMarkup, String.toList_ofList,
      Stretch.bare_flatMap_render h hscript hstyle, Stretch.all_tagName_flatMap h,
      firsts_eq_eraseDups]
    simp

/-- Names that begin like those of scripts, styles and links, and end tags in front of such names. -/
def neighbours : List Stretch := [
  .text "a > b".toList,
  .endTag "Script ".toList,
  .startTag "SCRIPTS".toList "\nsrc=a.js".toList,
  .endTag "scripts".toList,
  .startTag "script-x".toList [],
  .startTag "style-x".toList " rel=stylesheet".toList,
  .endTag "style-x".toList,
  .startTag "Link-x".toList " rel=icon".toList,
  .startTag "scripts".toList []]

theorem only_tagNames_iff_neighbours :
    (∀ i ∈ neighbours, i.Plain) ∧
      let a := Batch.artifactsOf none (String.ofList (neighbours.flatMap Stretch.render))
      a.scripts = [] ∧ a.stylesheets = [] ∧
        a.tagNames = ["scripts", "script-x", "style-x", "link-x"] := by
  have hplain : ∀ i ∈ neighbours, i.Plain := by decide
  have hopen : ∀ kind : Enclosing,
      neighbours.Pairwise fun i j => ¬ (i.Opens kind.name ∧ j.Closes kind.name) := by
    intro kind
    cases kind <;> decide
  have hlink : ∀ i ∈ neighbours, ¬ i.LinksSheet := by decide +kernel
  obtain ⟨hscripts, hsheets, hnames⟩ := (only_tagNames_iff none hplain).2 ⟨hopen, hlink⟩
  exact ⟨hplain, hscripts, hsheets, hnames.trans (by decide)⟩

/-- A tag with a hyphen in its name becomes a script, and what stands in front of an end tag behind
it the text of the script. -/
theorem script_of_hyphenated_name :
    let page : List Stretch :=
      [.startTag "script-x".toList [], .startTag "p".toList [], .endTag "script".toList]
    let a := Batch.artifactsOf none (String.ofList (page.flatMap Stretch.render))
    (∀ i ∈ page, i.Plain) ∧ a.scripts = [.inline "<p>"] ∧ a.tagNames = ["script"] := by
  decide +kernel

end FeatureAudit
