import FeatureAudit.Proofs.Passes
import FeatureAudit.Proofs.References

/-! What is taken from a page written out item by item: the artifacts of its items, in the order of
the page. -/
namespace FeatureAudit

open Markup

variable {address : String → String} {as : Attributes} {i : Item} {items : List Item}
  {r : List Char}

/-! Scripts. -/

theorem scriptOf_renderAttributes {body : List Char} (h : ∀ a ∈ as, CleanAttribute a) :
    some (Artifacts.scriptOf address (renderAttributes as, body)) =
      (Item.element .script as body).script? address := by
  rw [scriptOf_of_unmentioned (fun a ha => (h a ha).quoted.written) (unmentioned_of_clean h),
    scriptWith, firstValue?_eq_lookup fun a ha => (h a ha).quoted, Item.script?]
  cases as.lookup "src".toList with
  | none => rfl
  | some src => exact apply_ite some ..

theorem scripts_flatMap_render (h : ∀ i ∈ items, i.Clean) :
    (Markup.scripts.all (items.flatMap Item.render)).map (Artifacts.scriptOf address) =
      items.filterMap (Item.script? address) := by
  have hscripts := Construct.all_flatMap (k := scripts) (Item.pieces_flatMap_element .script
    fun i hi => ⟨(h i hi).1.outlined, (h i hi).guarded⟩)
  rw [hscripts, List.map_filterMap]
  refine List.filterMap_congr fun i hi => ?_
  cases i with
  | element kind as body =>
    cases kind with
    | script => exact scriptOf_renderAttributes (h _ hi).1.1
    | style => rfl
  | _ => rfl

/-! Style sheets. -/

theorem linksStylesheet_renderAttributes (h : ∀ a ∈ as, CleanAttribute a) :
    linksStylesheet (renderAttributes as) = true ↔ ∃ rel ∈ as.lookup "rel".toList,
      ∃ w ∈ Text.words rel, Text.sameAscii w "stylesheet".toList := by
  rw [linksStylesheet_of_unmentioned (fun a ha => (h a ha).quoted.written)
    (unmentioned_of_clean h), RelatesToSheet, firstValue?_eq_lookup fun a ha => (h a ha).quoted]

theorem sheetOfLink_renderAttributes (h : ∀ a ∈ as, CleanAttribute a) :
    Artifacts.sheetOfLink address (renderAttributes as) =
      .closed ((as.lookup "href".toList).map fun href =>
        address (String.ofList (Text.trim href))) := by
  rw [sheetOfLink_of_unmentioned (fun a ha => (h a ha).quoted.written) (unmentioned_of_clean h),
    sheetWith, firstValue?_eq_lookup fun a ha => (h a ha).quoted]

def sheetOfParts (i : Item) : Option Stylesheet := (i.parts .style).map Artifacts.sheetOfStyle

def sheetOfAttributes (address : String → String) (i : Item) : Option Stylesheet :=
  (i.linkAttributes?.filter linksStylesheet).map (Artifacts.sheetOfLink address)

theorem sheet?_eq (h : i.WellFormed) :
    (sheetOfParts i).or (sheetOfAttributes address i) = i.sheet? address := by
  cases i with
  | startTag name as =>
    have hrel := linksStylesheet_renderAttributes h.2
    have hparts : sheetOfParts (.startTag name as) = none := rfl
    rw [hparts, Option.none_or, sheetOfAttributes, Item.linkAttributes?, Item.sheet?]
    by_cases hname : Text.asciiLower name = "link".toList
    · rw [if_pos hname, Option.filter_some]
      by_cases hlink : Item.IsSheetLink name as
      · rw [if_pos hlink, if_pos (hrel.2 hlink.2), Option.map_some,
          sheetOfLink_renderAttributes h.2]
      · rw [if_neg hlink, if_neg fun hl => hlink ⟨hname, hrel.1 hl⟩, Option.map_none]
    · rw [if_neg hname, if_neg fun hlink => hname hlink.1]
      rfl
  | element kind => cases kind <;> rfl
  | _ => rfl

theorem sheets_flatMap_render (h : ∀ i ∈ items, i.Clean) :
    (Artifacts.locatedSheets address (items.flatMap Item.render)).map Prod.snd =
      items.filterMap (Item.sheet? address) := by
  have hstyles := Construct.located_flatMap (k := styles) (Item.pieces_flatMap_element .style
    fun i hi => ⟨(h i hi).1.outlined, (h i hi).guarded⟩)
  have hlinks := Construct.located_flatMap (Construct.pieces_flatMap_whole (k := links)
    fun i hi _ => Item.pieces_link (h i hi).1)
  have hone : ∀ i ∈ items, sheetOfParts i = none ∨ sheetOfAttributes address i = none := by
    intro i _
    cases i <;> simp [sheetOfParts, sheetOfAttributes, Item.parts, Item.linkAttributes?]
  have hlong : ∀ i ∈ items, sheetOfAttributes address i ≠ none → i.render ≠ [] := by
    intro i _ hi
    cases i with
    | startTag => simp [Item.render, Item.renderStartTag]
    | _ => simp [sheetOfAttributes, Item.linkAttributes?] at hi
  have hmerge : Artifacts.locatedSheets address (items.flatMap Item.render) =
      Construct.placed Item.render
        (fun i => (sheetOfParts i).or (sheetOfAttributes address i)) 0 items := by
    rw [← merge_placed hone hlong, Artifacts.locatedSheets, hstyles, hlinks]
    simp only [filter_placed, map_placed]
    rfl
  rw [hmerge, map_snd_placed]
  exact List.filterMap_congr fun i hi => sheet?_eq (h i hi).1

/-! Tag names. -/

theorem firsts_eq_eraseDups {α : Type} [DecidableEq α] (seen xs : List α) :
    Artifacts.firsts seen xs = (xs.filter (· ∉ seen)).eraseDups := by
  induction xs generalizing seen with
  | nil => rfl
  | cons x xs ih =>
    by_cases hx : x ∈ seen
    · simp [Artifacts.firsts, hx, ih]
    · have hfilter : xs.filter (· ∉ x :: seen) =
          (xs.filter (· ∉ seen)).filter fun y => !y == x := by
        rw [List.filter_filter]
        refine List.filter_congr fun y _ => ?_
        by_cases hy : y = x <;> simp [hy]
      rw [Artifacts.firsts, if_neg hx, ih, List.filter_cons_of_pos (by simpa using hx),
        List.eraseDups_cons, hfilter]

theorem all_tagName_renderStartTag {name : List Char} (hname : Item.IsName name)
    (has : ∀ a ∈ as, QuotedAttribute a) :
    tagName.all (Item.renderStartTag name as ++ r) = name :: tagName.all r := by
  obtain ⟨c, t, rfl, hc, ht⟩ := hname.exists_cons
  have hbracket := bracket_notMem_renderAttributes (fun a ha => (has a ha).written) (Or.inl rfl)
  have hrest : tagName.all (renderAttributes as ++ ['>'] ++ r) = tagName.all r :=
    Construct.all_of_unread (atBracket_readTagName.unread (by simp [hbracket]))
  obtain ⟨d, u, hd, hu⟩ : ∃ d u, isNameChar d = false ∧
      renderAttributes as ++ ['>'] ++ r = d :: u := by
    cases as with
    | nil => exact ⟨'>', r, by decide, rfl⟩
    | cons a as => exact ⟨' ', _, by decide, rfl⟩
  have hread : tagName.read ('<' :: c :: t ++ (renderAttributes as ++ ['>'] ++ r)) =
      some (c :: t, renderAttributes as ++ ['>'] ++ r) := by
    rw [hu]
    exact readTagName_append hc (fun e he => isNameChar_of_isAlphanum (ht e he)) hd
  rw [← hrest, ← Construct.all_of_read hread]
  simp [Item.renderStartTag]

theorem all_tagName_bare (h : i.Outlined) :
    tagName.all (i.bare.render ++ r) = (i.opening.map Prod.fst).toList ++ tagName.all r := by
  cases i with
  | text => exact Construct.all_of_unread (atBracket_readTagName.unread h.1)
  | endTag name =>
    have hslash : ∀ s, readTagName ('<' :: '/' :: s) = none := fun _ =>
      readTagName_of_not_isAlpha (by decide)
    have hunread : Unread readTagName (Item.renderEndTag name) r :=
      Item.unread_renderEndTag atBracket_readTagName h.bracket_notMem hslash
    exact Construct.all_of_unread hunread
  | comment => rfl
  | startTag => exact all_tagName_renderStartTag h.1 h.2
  | element kind => exact all_tagName_renderStartTag (Item.isName_name kind) (by simp)

theorem tagNames_flatMap_bare_of_outlined (h : ∀ i ∈ items, i.Outlined) :
    (tagName.all (items.flatMap fun i => i.bare.render)).map Text.asciiLower =
      items.filterMap Item.tagName? := by
  rw [flatMap_of_parts (Construct.all_nil _) fun i hi _ => all_tagName_bare (h i hi),
    ← List.filterMap_eq_flatMap_toList, List.map_filterMap]
  refine List.filterMap_congr fun i _ => ?_
  rw [Item.tagName?_eq, Option.map_map]
  rfl

theorem tagNames_flatMap_bare (h : ∀ i ∈ items, i.WellFormed) :
    (tagName.all (items.flatMap fun i => i.bare.render)).map Text.asciiLower =
      items.filterMap Item.tagName? :=
  tagNames_flatMap_bare_of_outlined fun i hi => (h i hi).outlined

/-! Styles inside tags. -/

theorem isLower_style : ∀ c ∈ "style".toList, c.isLower = true := Item.isLower_name .style

theorem all_styleAttributes_of_not_blank {s : List Char} (h : ∀ c ∈ s, Text.isBlank c = false) :
    styleAttributes.all (s ++ r) = styleAttributes.all r :=
  Construct.all_of_unread (unread_bind (unread_of_not_blank h))

theorem all_styleAttributes_renderStartTag {name : List Char} (hname : Item.IsName name)
    (has : ∀ a ∈ as, QuotedAttribute a) (hs : SignsInStyles as) :
    styleAttributes.all (Item.renderStartTag name as ++ r) =
      (Item.startTag name as).inlineStyles ++ styleAttributes.all r := by
  have hopen : ∀ c ∈ '<' :: name, Text.isBlank c = false := by
    intro c hc
    rcases List.mem_cons.1 hc with rfl | hc
    · decide
    · exact Text.isBlank_of_isAlphanum (hname.all c hc)
  have hsplit : Item.renderStartTag name as ++ r =
      '<' :: name ++ (renderAttributes as ++ (['>'] ++ r)) := by simp [Item.renderStartTag]
  rw [hsplit, all_styleAttributes_of_not_blank hopen, styleAttributes,
    all_renderAttributes isLower_style has hs, ← styleAttributes,
    all_styleAttributes_of_not_blank (by simp [Text.isBlank]), Item.inlineStyles]

theorem all_styleAttributes_bare (h : i.Outlined)
    (hs : ∀ name as, i = .startTag name as → SignsInStyles as) (hr : Signless r) :
    styleAttributes.all (i.bare.render ++ r) = i.inlineStyles ++ styleAttributes.all r := by
  cases i with
  | text => exact Construct.all_of_unread (unread_bind (unread_of_signless isLower_style h.2 hr))
  | endTag name =>
    refine all_styleAttributes_of_not_blank fun c hc => ?_
    have hc : c = '<' ∨ c = '/' ∨ c ∈ name ∨ c = '>' := by
      simpa [Item.bare, Item.render, Item.renderEndTag] using hc
    rcases hc with rfl | rfl | hc | rfl
    · decide
    · decide
    · exact Text.isBlank_of_isAlphanum (h.all c hc)
    · decide
  | comment => rfl
  | startTag name as => exact all_styleAttributes_renderStartTag h.1 h.2 (hs name as rfl)
  | element kind =>
    exact all_styleAttributes_renderStartTag (Item.isName_name kind) (by simp)
      (by simp [SignsInStyles])

theorem signless_bare (h : i.Outlined) (hr : Signless r) : Signless (i.bare.render ++ r) := by
  cases i with
  | text => exact signless_append h.2 hr
  | comment => exact hr
  | _ => exact signless_cons_open

theorem inlineStyles_flatMap_bare_of_outlined (h : ∀ i ∈ items, i.Outlined)
    (hs : ∀ name as, .startTag name as ∈ items → SignsInStyles as) :
    styleAttributes.all (items.flatMap fun i => i.bare.render) =
      items.flatMap Item.inlineStyles := by
  have hall := flatMap_append_of_parts Signless signless_nil
    (fun i hi _ hr => signless_bare (h i hi) hr)
    fun i hi _ hr => all_styleAttributes_bare (h i hi) (fun name as he => hs name as (he ▸ hi)) hr
  rwa [List.append_nil, Construct.all_nil, List.append_nil] at hall

theorem inlineStyles_flatMap_bare (h : ∀ i ∈ items, i.WellFormed) :
    styleAttributes.all (items.flatMap fun i => i.bare.render) =
      items.flatMap Item.inlineStyles :=
  inlineStyles_flatMap_bare_of_outlined (fun i hi => (h i hi).outlined)
    fun _ _ hi a ha => .inr ((h _ hi).2 a ha).equals_notMem

/-! Pages. -/

/-- The artifacts of a page are those of its items. -/
theorem artifactsOf_flatMap_render (base : Option String) (h : ∀ i ∈ items, i.Clean) :
    Batch.artifactsOf base (String.ofList (items.flatMap Item.render)) =
      .ofItems (Url.resolve (base.bind fun b => (Url.parse b).toOption)) items := by
  have hwf : ∀ i ∈ items, i.WellFormed := fun i hi => (h i hi).1
  have hnames : (tagName.all (items.flatMap fun i => i.bare.render)).map
        (fun name => String.ofList (Text.asciiLower name)) =
      (items.filterMap Item.tagName?).map String.ofList := by
    rw [← tagNames_flatMap_bare hwf, List.map_map]
    rfl
  rw [Batch.artifactsOf, Artifacts.ofMarkup, String.toList_ofList, Artifacts.ofItems,
    Item.bare_flatMap_render h, inlineStyles_flatMap_bare hwf, sheets_flatMap_render h,
    scripts_flatMap_render h, hnames, firsts_eq_eraseDups]
  simp

/-- Items that would not be told apart by their texts alone. -/
def mixedPage : List Item := [
  .text " style".toList,
  .startTag "LINK".toList [("href".toList, " a.css".toList), ("rel".toList, "x StyleSheet".toList)],
  .comment "style".toList,
  .element .style [] "a { b: c }".toList,
  .startTag "P".toList [("style".toList, "d: e".toList)],
  .element .script [("src".toList, " ".toList)] "style".toList,
  .element .script [("src".toList, "f.js ".toList)] [],
  .endTag "P".toList]

theorem artifactsOf_flatMap_render_mixed :
    (∀ i ∈ mixedPage, i.Clean) ∧
      Batch.artifactsOf (some "file:///g/") (String.ofList (mixedPage.flatMap Item.render)) =
        ⟨["d: e"], [.closed (some "file:///g/a.css"), .readable none ["a { b: c }"]],
          ["link", "style", "p", "script"], [.inline "style", .external "file:///g/f.js"]⟩ := by
  have hclean : ∀ i ∈ mixedPage, i.Clean := by decide
  refine ⟨hclean, (artifactsOf_flatMap_render (some "file:///g/") hclean).trans ?_⟩
  decide +kernel

/-- The names of tags and the styles inside tags are those of the items, whatever comments hold and
whatever is contained in scripts and styles. -/
theorem markup_flatMap_render (base : Option String) (h : ∀ i ∈ items, i.Legible) :
    let a := Batch.artifactsOf base (String.ofList (items.flatMap Item.render))
    a.tagNames = ((items.filterMap Item.tagName?).map String.ofList).eraseDups ∧
      a.inlineStyles = (items.flatMap Item.inlineStyles).map String.ofList := by
  have houtlined : ∀ i ∈ items, i.Outlined := fun i hi => (h i hi).1
  have hbare : Markup.bare (items.flatMap Item.render) = items.flatMap fun i => i.bare.render :=
    Item.bare_flatMap_render_of_legible h
  have hnames : (tagName.all (items.flatMap fun i => i.bare.render)).map
        (fun name => String.ofList (Text.asciiLower name)) =
      (items.filterMap Item.tagName?).map String.ofList := by
    rw [← tagNames_flatMap_bare_of_outlined houtlined, List.map_map]
    rfl
  have hstyles : styleAttributes.all (items.flatMap fun i => i.bare.render) =
      items.flatMap Item.inlineStyles :=
    inlineStyles_flatMap_bare_of_outlined houtlined fun _ _ hi => (h _ hi).2.2
  intro a
  simp only [a, Batch.artifactsOf, Artifacts.ofMarkup, String.toList_ofList, hbare, hnames, hstyles,
    firsts_eq_eraseDups]
  simp

/-- Signs of comments, scripts and styles in one another. -/
def nestedPage : List Item := [
  .comment "<script> <p style='a'> </style".toList,
  .element .script [] "<!-- if (a<b) --> c = '<style> </style>'".toList,
  .startTag "p".toList [("style".toList, "d=' style=e".toList)],
  .element .style [] "/* <b style='f'> <!-- <script> --> */".toList,
  .startTag "scripts".toList []]

theorem markup_flatMap_render_nested :
    (∀ i ∈ nestedPage, i.Legible) ∧
      let a := Batch.artifactsOf none (String.ofList (nestedPage.flatMap Item.render))
      a.tagNames = ["script", "p", "style", "scripts"] ∧ a.inlineStyles = ["d=' style=e"] := by
  have hlegible : ∀ i ∈ nestedPage, i.Legible := by decide +kernel
  obtain ⟨hnames, hstyles⟩ := markup_flatMap_render none hlegible
  exact ⟨hlegible, hnames.trans (by decide), hstyles.trans (by decide)⟩

/-- A comment that starts inside a script and ends in another one takes a tag with it. -/
theorem tagNames_behind_open_comment :
    let body := "var a = \"<!--\";".toList
    let page : List Item := [.element .script [] body, .startTag "p".toList [],
      .comment " x ".toList, .startTag "div".toList []]
    (∀ i ∈ page, i.Outlined) ∧ ¬ "</script".toList <:+: body.map foldCase ∧
      ((page.filterMap Item.tagName?).map String.ofList).eraseDups = ["script", "p", "div"] ∧
      (Batch.artifactsOf none (String.ofList (page.flatMap Item.render))).tagNames =
        ["script", "div"] := by
  decide +kernel

end FeatureAudit
